import DependencyDiagram.Proofs.ConventionalPaths
import DependencyDiagram.Proofs.Visits

/-!
What a diagram shows in either language: nodes and labelled containers in their order and nesting, and
groups of edges between nodes. A text that shows it is a run of signs. What stands between an opening and
a closing sign lies in one container, and edges are written with the names under which the nodes are
introduced.
-/

namespace DependencyDiagram

namespace Diagram

/-- A node, or a container with what lies in it. -/
inductive Item where
  | node (path : String)
  | container (label : String) (inside : List Item)

mutual

def Item.paths : Item → List String
  | .node path => [path]
  | .container _ inside => pathsOf inside

/-- The paths of all nodes, each container's where it stands. -/
def pathsOf : List Item → List String
  | [] => []
  | item :: rest => item.paths ++ pathsOf rest

end

theorem pathsOf_append (items further : List Item) :
    pathsOf (items ++ further) = pathsOf items ++ pathsOf further := by
  induction items with
  | nil => rfl
  | cons item rest ih => rw [List.cons_append, pathsOf, pathsOf, ih, List.append_assoc]

structure Sketch where
  items : List Item
  /-- The sources of the groups of edges, each with its targets. -/
  edges : List (String × List String)

def Sketch.paths (sketch : Sketch) : List String := pathsOf sketch.items

inductive Sign where
  | opens
  | label (text : String)
  | node (name path : String)
  | closes
  | edges (source : String) (targets : List String)

def Sign.name? : Sign → Option (String × String)
  | .node name path => some (name, path)
  | _ => none

def Sign.edges? : Sign → Option (String × List String)
  | .edges source targets => some (source, targets)
  | _ => none

/-- A container that is not closed yet: what stands before it and its label, once there is one. -/
structure Opened where
  before : List Item
  label : Option String

/-- What has been read of the innermost open container, and the open containers from the inside out. -/
structure Outline where
  items : List Item
  opened : List Opened

/-- A container is labelled once, and before it closes. -/
def Outline.step (outline : Outline) : Sign → Option Outline
  | .opens => some ⟨[], ⟨outline.items, none⟩ :: outline.opened⟩
  | .label text =>
    match outline.opened with
    | ⟨before, none⟩ :: around => some ⟨outline.items, ⟨before, some text⟩ :: around⟩
    | _ => none
  | .node _ path => some { outline with items := outline.items ++ [.node path] }
  | .closes =>
    match outline.opened with
    | ⟨before, some label⟩ :: around => some ⟨before ++ [.container label outline.items], around⟩
    | _ => none
  | .edges _ _ => some outline

/-- What the signs show if every container is closed. -/
def itemsOf? (signs : List Sign) : Option (List Item) := do
  let outline ← signs.foldlM Outline.step ⟨[], []⟩
  if outline.opened.isEmpty then some outline.items else none

/-- The paths of the nodes that are named at the ends of a group of edges. -/
def resolved? (names : List (String × String)) (edges : String × List String) :
    Option (String × List String) := do
  pure (← List.lookup edges.1 names, ← edges.2.mapM (List.lookup · names))

def sketchOf? (signs : List Sign) : Option Sketch := do
  let items ← itemsOf? signs
  let edges ← (signs.filterMap Sign.edges?).mapM (resolved? (signs.filterMap Sign.name?))
  pure ⟨items, edges⟩

end Diagram

open Diagram

namespace NodeLabel

def items (label : NodeLabel) : List Item := (label.path.map Item.node).toList

theorem paths_items (label : NodeLabel) : pathsOf label.items = label.path.toList := by
  obtain ⟨_ | path, isTarget⟩ := label <;> rfl

/-- The sign of a node whose name is made from its path. -/
def signs (nameOf : String → String) (label : NodeLabel) : List Sign :=
  (label.path.map fun path => .node (nameOf path) path).toList

end NodeLabel

namespace Branches

/-- A node with children is a container, in which the module at the node comes first. -/
def items : Branches → List Item
  | .nil => []
  | .cons segment label children siblings =>
    (if children.isEmpty then label.items else [.container segment (label.items ++ children.items)]) ++
      siblings.items

theorem paths_items (branches : Branches) : pathsOf branches.items = branches.labels.filterMap (·.path) := by
  induction branches with
  | nil => rfl
  | cons segment label children siblings below beside =>
    rw [items, labels, pathsOf_append, beside, List.filterMap_cons]
    cases children with
    | nil => cases path : label.path <;> simp [isEmpty, labels, NodeLabel.paths_items, path]
    | cons =>
      cases path : label.path <;>
        simp [isEmpty, pathsOf, Item.paths, pathsOf_append, NodeLabel.paths_items, below, path]

def signs (nameOf : String → String) : Branches → List Sign
  | .nil => []
  | .cons segment label children siblings =>
    (if children.isEmpty then label.signs nameOf
      else [.opens, .label segment] ++ label.signs nameOf ++ children.signs nameOf ++ [.closes]) ++
      siblings.signs nameOf

end Branches

namespace NamespaceTree

def items (tree : NamespaceTree) : List Item := tree.label.items ++ tree.children.items

/-- The nodes shown are those that the tree carries, in its order. -/
theorem paths_items (tree : NamespaceTree) : pathsOf tree.items = tree.carried := by
  rw [items, pathsOf_append, NodeLabel.paths_items, Branches.paths_items, carried, labels, List.filterMap_cons]
  cases tree.label.path <;> rfl

def signs (nameOf : String → String) (tree : NamespaceTree) : List Sign :=
  tree.label.signs nameOf ++ tree.children.signs nameOf

end NamespaceTree

namespace Module

/-- The groups of edges of a diagram by their paths. -/
def namedGroups (module : Module) : List (String × List String) :=
  module.edgeGroups.map fun group => (group.path, group.dependencyNames)

theorem mem_dependencyPaths_of_namedGroups {module : Module} {group : String × List String}
    (member : group ∈ module.namedGroups) : ∀ path ∈ group.1 :: group.2, path ∈ module.dependencyPaths := by
  obtain ⟨inner, drawn, rfl⟩ := List.mem_map.mp member
  rw [edgeGroups_eq] at drawn
  exact mem_dependencyPaths_of_firstVisits (List.mem_filter.mp drawn).1

theorem targets_ne_nil_of_namedGroups {module : Module} {group : String × List String}
    (member : group ∈ module.namedGroups) : group.2 ≠ [] := by
  obtain ⟨inner, drawn, rfl⟩ := List.mem_map.mp member
  rw [edgeGroups_eq] at drawn
  simpa [hasDependencies, dependencyNames] using (List.mem_filter.mp drawn).2

end Module

namespace Diagram

def edgeSigns (nameOf : String → String) (groups : List (String × List String)) : List Sign :=
  groups.map fun group => .edges (nameOf group.1) (group.2.map nameOf)

variable (nameOf : String → String)

theorem foldlM_labelSigns (label : NodeLabel) (before : List Item) (opened : List Opened) :
    (label.signs nameOf).foldlM Outline.step ⟨before, opened⟩ = some ⟨before ++ label.items, opened⟩ := by
  obtain ⟨_ | path, isTarget⟩ := label
  · simp [NodeLabel.signs, NodeLabel.items]
  · rfl

/-- The signs of some branches add what lies in them, whatever is open around them. -/
theorem foldlM_branchSigns (branches : Branches) (before : List Item) (opened : List Opened) :
    (branches.signs nameOf).foldlM Outline.step ⟨before, opened⟩ =
      some ⟨before ++ branches.items, opened⟩ := by
  induction branches generalizing before opened with
  | nil => simp [Branches.signs, Branches.items]
  | cons segment label children siblings below beside =>
    rw [Branches.signs, Branches.items, List.foldlM_append]
    cases empty : children.isEmpty with
    | true => simp [foldlM_labelSigns, beside]
    | false => simp [foldlM_labelSigns, below, beside, Outline.step]

theorem foldlM_edgeSigns (groups : List (String × List String)) (outline : Outline) :
    (edgeSigns nameOf groups).foldlM Outline.step outline = some outline := by
  induction groups with
  | nil => rfl
  | cons group rest ih => exact ih

theorem itemsOf?_signs (tree : NamespaceTree) (groups : List (String × List String)) :
    itemsOf? (tree.signs nameOf ++ edgeSigns nameOf groups) = some tree.items := by
  simp [itemsOf?, NamespaceTree.signs, NamespaceTree.items, foldlM_labelSigns, foldlM_branchSigns,
    foldlM_edgeSigns]

theorem names_labelSigns (label : NodeLabel) : (label.signs nameOf).filterMap Sign.name? =
    label.path.toList.map fun path => (nameOf path, path) := by
  obtain ⟨_ | path, isTarget⟩ := label <;> rfl

theorem names_branchSigns (branches : Branches) : (branches.signs nameOf).filterMap Sign.name? =
    (branches.labels.filterMap (·.path)).map fun path => (nameOf path, path) := by
  induction branches with
  | nil => rfl
  | cons segment label children siblings below beside =>
    rw [Branches.signs, Branches.labels, List.filterMap_append, beside, List.filterMap_cons]
    cases children with
    | nil => cases path : label.path <;> simp [Branches.isEmpty, Branches.labels, names_labelSigns, path]
    | cons =>
      have opening : [.opens, .label segment].filterMap Sign.name? = [] := rfl
      have closing : [.closes].filterMap Sign.name? = [] := rfl
      rw [Branches.isEmpty, if_neg Bool.false_ne_true]
      simp only [List.filterMap_append, names_labelSigns, below, opening, closing]
      cases path : label.path <;> simp

/-- The nodes are introduced as those that the tree carries, in its order. -/
theorem names_signs (tree : NamespaceTree) (groups : List (String × List String)) :
    (tree.signs nameOf ++ edgeSigns nameOf groups).filterMap Sign.name? =
      tree.carried.map fun path => (nameOf path, path) := by
  have silent : (edgeSigns nameOf groups).filterMap Sign.name? = [] := by
    simp [edgeSigns, List.filterMap_map, Function.comp_def, Sign.name?]
  rw [List.filterMap_append, silent, List.append_nil, NamespaceTree.signs, List.filterMap_append,
    names_labelSigns, names_branchSigns, ← List.map_append, NamespaceTree.carried, NamespaceTree.labels,
    List.filterMap_cons]
  cases tree.label.path <;> rfl

theorem edges_labelSigns (label : NodeLabel) : (label.signs nameOf).filterMap Sign.edges? = [] := by
  obtain ⟨_ | path, isTarget⟩ := label <;> rfl

theorem edges_branchSigns (branches : Branches) : (branches.signs nameOf).filterMap Sign.edges? = [] := by
  induction branches with
  | nil => rfl
  | cons segment label children siblings below beside =>
    rw [Branches.signs, List.filterMap_append, beside, List.append_nil]
    split
    · exact edges_labelSigns nameOf label
    · simp only [List.filterMap_append, edges_labelSigns, below]
      rfl

theorem edges_signs (tree : NamespaceTree) (groups : List (String × List String)) :
    (tree.signs nameOf ++ edgeSigns nameOf groups).filterMap Sign.edges? =
      groups.map fun group => (nameOf group.1, group.2.map nameOf) := by
  rw [List.filterMap_append, NamespaceTree.signs, List.filterMap_append, edges_labelSigns, edges_branchSigns,
    edgeSigns, List.filterMap_map]
  exact congrFun List.filterMap_eq_map groups

theorem mapM_eq_some {α β : Type} {read : α → Option β} {value : α → β} {items : List α}
    (each : ∀ item ∈ items, read item = some (value item)) : items.mapM read = some (items.map value) := by
  induction items with
  | nil => rfl
  | cons first rest ih =>
    rw [List.forall_mem_cons] at each
    simp [List.mapM_cons, each.1, ih each.2]

variable {nameOf} {paths : List String}

theorem lookup_names (apart : ∀ first ∈ paths, ∀ second ∈ paths, nameOf first = nameOf second → first = second)
    {path : String} (member : path ∈ paths) :
    List.lookup (nameOf path) (paths.map fun path => (nameOf path, path)) = some path := by
  induction paths with
  | nil => cases member
  | cons first rest ih =>
    rw [List.map_cons, List.lookup_cons]
    by_cases same : nameOf path = nameOf first
    · rw [beq_iff_eq.mpr same, apart path member first List.mem_cons_self same]
    · have later : path ∈ rest := (List.mem_cons.mp member).resolve_left fun equal => same (equal ▸ rfl)
      rw [beq_false_of_ne same]
      exact ih (fun one oneMember other otherMember => apart one (List.mem_cons_of_mem _ oneMember) other
        (List.mem_cons_of_mem _ otherMember)) later

/-- Signs can be read back if the names tell all nodes apart and edges run between nodes only. -/
theorem sketchOf?_signs {tree : NamespaceTree} {groups : List (String × List String)}
    (apart : ∀ first ∈ tree.carried, ∀ second ∈ tree.carried, nameOf first = nameOf second → first = second)
    (ends : ∀ group ∈ groups, ∀ path ∈ group.1 :: group.2, path ∈ tree.carried) :
    sketchOf? (tree.signs nameOf ++ edgeSigns nameOf groups) = some ⟨tree.items, groups⟩ := by
  let names := tree.carried.map fun path => (nameOf path, path)
  have group_resolved (group : String × List String) (member : group ∈ groups) :
      resolved? names (nameOf group.1, group.2.map nameOf) = some group := by
    have source : List.lookup (nameOf group.1) names = some group.1 :=
      lookup_names apart (ends group member _ List.mem_cons_self)
    have targets : (group.2.map nameOf).mapM (List.lookup · names) = some (group.2.map id) := by
      rw [List.mapM_map]
      exact mapM_eq_some fun path listed =>
        lookup_names apart (ends group member path (List.mem_cons_of_mem _ listed))
    rw [resolved?, source, targets, List.map_id]
    rfl
  have edges : (groups.map fun group => (nameOf group.1, group.2.map nameOf)).mapM (resolved? names) =
      some (groups.map id) := by
    rw [List.mapM_map]
    exact mapM_eq_some group_resolved
  rw [List.map_id] at edges
  rw [sketchOf?, itemsOf?_signs, edges_signs, names_signs, edges]
  rfl

end Diagram

end DependencyDiagram
