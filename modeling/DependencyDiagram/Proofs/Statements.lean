import DependencyDiagram.Generator
import Mathlib.Data.List.Basic

/-!
What the lines of a diagram say about modules. In both languages the labels of the namespace tree
give the statements of nodes and the groups of edges give those of edges; no other line says anything
about a module.
-/

namespace DependencyDiagram

/-- The labels of all nodes, each before those below it. -/
def Branches.labels : Branches → List NodeLabel
  | .nil => []
  | .cons _ label children siblings => label :: (children.labels ++ siblings.labels)

namespace NamespaceTree

def labels (tree : NamespaceTree) : List NodeLabel := tree.label :: tree.children.labels

/-- The paths at the nodes of a tree. -/
def carried (tree : NamespaceTree) : List String := tree.labels.filterMap (·.path)

end NamespaceTree

namespace Diagram

inductive Statement where
  | node (path : String)
  /-- A module is given the style or the class of the target. -/
  | mark (path : String)
  | edges (source : String) (targets : List String)
deriving DecidableEq, Repr

def Statement.node? : Statement → Option String
  | .node path => some path
  | _ => none

def Statement.mark? : Statement → Option String
  | .mark path => some path
  | _ => none

def Statement.edges? : Statement → Option (String × List String)
  | .edges source targets => some (source, targets)
  | _ => none

def labelStatements (marks : Bool) (label : NodeLabel) : List Statement :=
  match label.path with
  | none => []
  | some path => if label.isTarget && marks then [.node path, .mark path] else [.node path]

theorem labelStatements_nodes (marks : Bool) (label : NodeLabel) :
    (labelStatements marks label).filterMap Statement.node? = label.path.toList := by
  obtain ⟨_ | path, _ | _⟩ := label <;> cases marks <;> rfl

theorem labelStatements_marks (marks : Bool) (label : NodeLabel) :
    (labelStatements marks label).filterMap Statement.mark? =
      if marks && label.isTarget then label.path.toList else [] := by
  obtain ⟨_ | path, _ | _⟩ := label <;> cases marks <;> rfl

theorem labelStatements_edges (marks : Bool) (label : NodeLabel) :
    (labelStatements marks label).filterMap Statement.edges? = [] := by
  obtain ⟨_ | path, _ | _⟩ := label <;> cases marks <;> rfl

def edgeStatement (group : Module) : Statement := .edges group.path group.dependencyNames

namespace Dot

open Style (Sheet)

def Line.statements : Line → List Statement
  | .node _ path none => [.node path]
  | .node _ path (some _) => [.node path, .mark path]
  | .edges source targets _ => [.edges source targets]
  | _ => []

variable (targetStyle : Option String)

theorem nodeLines_statements (level : Nat) (label : NodeLabel) :
    (nodeLines targetStyle level label).flatMap Line.statements =
      labelStatements targetStyle.isSome label := by
  obtain ⟨_ | path, _ | _⟩ := label <;> cases targetStyle <;> rfl

theorem branchLines_statements (level : Nat) (branches : Branches) :
    (branchLines targetStyle level branches).flatMap Line.statements =
      branches.labels.flatMap (labelStatements targetStyle.isSome) := by
  induction branches generalizing level with
  | nil => rfl
  | cons segment label children siblings below beside =>
    rw [branchLines, Branches.labels, List.flatMap_append, beside, List.flatMap_cons, List.flatMap_append]
    cases children with
    | nil => simp [Branches.isEmpty, Branches.labels, nodeLines_statements]
    | cons => simp [Branches.isEmpty, nodeLines_statements, below, Line.statements]

theorem treeLines_statements (tree : NamespaceTree) : (treeLines targetStyle tree).flatMap Line.statements =
    tree.labels.flatMap (labelStatements targetStyle.isSome) := by
  rw [treeLines, List.flatMap_append, nodeLines_statements, branchLines_statements]
  rfl

section Read

variable {Item : Type} {read : Line → List Item}

/-- However its lines are read, the edges of a module are those of its groups. -/
theorem flatMap_edgeLines (ends : String → List String → List Item)
    (edges : ∀ source targets attributes, read (.edges source targets attributes) = ends source targets)
    (directStyle : Option String) (module : Module) : (edgeLines directStyle module).flatMap read =
      module.edgeGroups.flatMap fun group => ends group.path group.dependencyNames := by
  have line (attributes : Option String) (group : Module) :
      read (edgeLine attributes group) = ends group.path group.dependencyNames := edges _ _ _
  unfold edgeLines
  split
  · next none => rw [none, List.flatMap_nil, List.flatMap_nil]
  · next first rest found =>
    rw [found, List.flatMap_cons, List.flatMap_cons, List.flatMap_map, line]
    simp only [line]

theorem flatMap_defaultLines (silent : ∀ keyword attributes, read (.defaults keyword attributes) = [])
    (sheet : Sheet) : (defaultLines sheet).flatMap read = [] := by
  refine List.flatMap_eq_nil_iff.mpr fun line member => ?_
  obtain ⟨part, _, line_eq⟩ := List.mem_filterMap.mp member
  simp only [bind, pure, Option.bind_eq_some_iff, Option.some.injEq] at line_eq
  obtain ⟨keyword, _, attributes, _, rfl⟩ := line_eq
  exact silent keyword attributes

end Read

theorem edgeLines_statements (directStyle : Option String) (module : Module) :
    (edgeLines directStyle module).flatMap Line.statements = module.edgeGroups.map edgeStatement := by
  calc (edgeLines directStyle module).flatMap Line.statements
    _ = module.edgeGroups.flatMap fun group => [edgeStatement group] :=
      flatMap_edgeLines (fun source targets => [Statement.edges source targets]) (fun _ _ _ => rfl) directStyle module
    _ = module.edgeGroups.map edgeStatement := List.map_eq_flatMap.symm

theorem defaultLines_statements (sheet : Sheet) : (defaultLines sheet).flatMap Line.statements = [] :=
  flatMap_defaultLines (fun _ _ => rfl) sheet

theorem lines_statements (module : Module) (tree : NamespaceTree) (sheet : Sheet) :
    (lines module tree sheet).flatMap Line.statements =
      tree.labels.flatMap (labelStatements (sheet.list? .targetModule).isSome) ++
        module.edgeGroups.map edgeStatement := by
  simp [lines, treeLines_statements, edgeLines_statements, defaultLines_statements, Line.statements]

end Dot

namespace Mermaid

open Style (Sheet)

def Line.statements : Line → List Statement
  | .node _ path _ => [.node path]
  | .nodeClass _ path isTarget => if isTarget then [.mark path] else []
  | .edges source _ targets => [.edges source targets]
  | _ => []

variable (sheet : Sheet)

theorem nodeLines_statements (level : Nat) (label : NodeLabel) :
    (nodeLines sheet level label).flatMap Line.statements = labelStatements true label := by
  obtain ⟨_ | path, _ | _⟩ := label <;> rfl

theorem containerLines_statements (level : Nat) (segment : String) :
    (containerLines sheet level segment).flatMap Line.statements = [] := by
  unfold containerLines
  split <;> rfl

theorem branchLines_statements (namespaceName : String) (level : Nat) (branches : Branches) :
    (branchLines sheet namespaceName level branches).flatMap Line.statements =
      branches.labels.flatMap (labelStatements true) := by
  induction branches generalizing namespaceName level with
  | nil => rfl
  | cons segment label children siblings below beside =>
    rw [branchLines, Branches.labels, List.flatMap_append, beside, List.flatMap_cons, List.flatMap_append]
    cases children with
    | nil => simp [Branches.isEmpty, Branches.labels, nodeLines_statements]
    | cons =>
      simp [Branches.isEmpty, nodeLines_statements, containerLines_statements, below, Line.statements]

theorem treeLines_statements (tree : NamespaceTree) :
    (treeLines sheet tree).flatMap Line.statements = tree.labels.flatMap (labelStatements true) := by
  rw [treeLines, List.flatMap_append, nodeLines_statements, branchLines_statements]
  rfl

theorem edgeLines_statements (module : Module) :
    (edgeLines sheet module).flatMap Line.statements = module.edgeGroups.map edgeStatement := by
  rw [edgeLines, List.flatMap_map, List.map_eq_flatMap]
  rfl

section Read

variable {Item : Type} {read : Line → List Item}

theorem flatMap_classLines (silent : ∀ isTarget attributes, read (.classDefinition isTarget attributes) = []) :
    (classLines sheet).flatMap read = [] := by
  refine List.flatMap_eq_nil_iff.mpr fun line member => ?_
  obtain ⟨part, _, line_eq⟩ := List.mem_filterMap.mp member
  obtain ⟨attributes, _, rfl⟩ := Option.map_eq_some_iff.mp line_eq
  exact silent _ attributes

theorem flatMap_linkStyleLines (blank : read .blank = [])
    (silent : ∀ first past attributes, read (.linkStyle first past attributes) = []) (direct count : Nat) :
    (linkStyleLines sheet direct count).flatMap read = [] := by
  have styled (first past : Nat) (attributes : Option String) :
      ((attributes.map (.linkStyle first past)).toList).flatMap read = [] := by
    cases attributes <;> simp [silent]
  unfold linkStyleLines
  split
  · rfl
  · split
    · simp [blank]
    · rw [List.flatMap_append, List.flatMap_cons, blank, styled]
      split
      · rw [styled]
        rfl
      · rfl

end Read

theorem classLines_statements : (classLines sheet).flatMap Line.statements = [] :=
  flatMap_classLines sheet fun _ _ => rfl

theorem linkStyleLines_statements (direct count : Nat) :
    (linkStyleLines sheet direct count).flatMap Line.statements = [] :=
  flatMap_linkStyleLines sheet rfl (fun _ _ _ => rfl) direct count

theorem lines_statements (module : Module) (tree : NamespaceTree) :
    (lines module tree sheet).flatMap Line.statements =
      tree.labels.flatMap (labelStatements true) ++ module.edgeGroups.map edgeStatement := by
  simp [lines, treeLines_statements, edgeLines_statements, classLines_statements,
    linkStyleLines_statements, Line.statements]

end Mermaid

namespace Format

/-- The statements of the lines that a diagram consists of. -/
def statements (format : Format) (module : Module) (tree : NamespaceTree)
    (style : Option Style.Document) : List Statement :=
  match format with
  | .dot => (Dot.lines module tree (Style.dotSheet style)).flatMap Dot.Line.statements
  | .mermaid => (Mermaid.lines module tree (Style.mermaidSheet style)).flatMap Mermaid.Line.statements

/-- DOT marks the target if the document has a style for it, Mermaid always by a class. -/
def marks (format : Format) (style : Option Style.Document) : Bool :=
  match format with
  | .dot => ((Style.dotSheet style).list? .targetModule).isSome
  | .mermaid => true

theorem statements_eq (format : Format) (module : Module) (tree : NamespaceTree)
    (style : Option Style.Document) : format.statements module tree style =
      tree.labels.flatMap (labelStatements (format.marks style)) ++ module.edgeGroups.map edgeStatement := by
  cases format with
  | dot => exact Dot.lines_statements module tree _
  | mermaid => exact Mermaid.lines_statements _ module tree

variable (format : Format) (module : Module) (tree : NamespaceTree) (style : Option Style.Document)

theorem nodes_statements :
    (format.statements module tree style).filterMap Statement.node? = tree.carried := by
  have groups : (module.edgeGroups.map edgeStatement).filterMap Statement.node? = [] := by
    simp [List.filterMap_map, Function.comp_def, edgeStatement, Statement.node?]
  rw [statements_eq, List.filterMap_append, groups, List.append_nil, List.filterMap_flatMap]
  simp only [labelStatements_nodes]
  exact (List.filterMap_eq_flatMap_toList _ tree.labels).symm

theorem marks_statements : (format.statements module tree style).filterMap Statement.mark? =
    if format.marks style then (tree.labels.filter (·.isTarget)).filterMap (·.path) else [] := by
  have groups : (module.edgeGroups.map edgeStatement).filterMap Statement.mark? = [] := by
    simp [List.filterMap_map, Function.comp_def, edgeStatement, Statement.mark?]
  rw [statements_eq, List.filterMap_append, groups, List.append_nil, List.filterMap_flatMap]
  simp only [labelStatements_marks]
  cases format.marks style with
  | false => simp
  | true =>
    simp only [Bool.true_and, if_true]
    rw [List.filterMap_filter, List.filterMap_eq_flatMap_toList]
    congr
    funext label
    cases label.isTarget <;> rfl

theorem edges_statements : (format.statements module tree style).filterMap Statement.edges? =
    module.edgeGroups.map fun group => (group.path, group.dependencyNames) := by
  rw [statements_eq, List.filterMap_append, List.filterMap_flatMap, List.filterMap_map]
  simp only [labelStatements_edges, List.flatMap_eq_nil_iff.mpr, implies_true, List.nil_append]
  exact congrFun List.filterMap_eq_map module.edgeGroups

end Format

end DependencyDiagram.Diagram
