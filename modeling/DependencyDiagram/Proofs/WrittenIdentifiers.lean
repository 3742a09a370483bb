import DependencyDiagram.Generator
import DependencyDiagram.Proofs.Namespaces

/-!
Identifiers in the text of a diagram. A text is a row of stretches: identifiers, each with what it is
written for, and what stands between them, quoted texts included. The identifiers are those of the modules
at the nodes, of the namespaces and of the ends of edges.
-/

namespace DependencyDiagram.Diagram

open ModulePath (identifier)

/-- What an identifier outside quotes is written for. -/
inductive Naming where
  /-- A module's node, where it is stated and where its class is. -/
  | node (path : String)
  | edgeEnd (path : String)
  /-- The subgraph of a namespace, under its segments run together. -/
  | container (namespaceName : String)
  | containerStyle (segment : String)
  | cluster (segment : String)
deriving DecidableEq, Repr

def Naming.identifier : Naming → String
  | .node path | .edgeEnd path => Mermaid.nodeIdentifier path
  | .container namespaceName => ModulePath.identifier namespaceName
  | .containerStyle segment => ModulePath.identifier segment
  | .cluster segment => "cluster_" ++ ModulePath.identifier segment

inductive Stretch where
  | name (naming : Naming)
  | verbatim (text : String)
deriving DecidableEq, Repr

namespace Stretch

def text : Stretch → String
  | .name naming => naming.identifier
  | .verbatim text => text

def naming? : Stretch → Option Naming
  | .name naming => some naming
  | .verbatim _ => none

/-- The text that stretches are the parts of. -/
def joined (stretches : List Stretch) : String := String.join (stretches.map text)

@[simp] theorem joined_nil : joined [] = "" := rfl

@[simp] theorem joined_cons (first : Stretch) (rest : List Stretch) :
    joined (first :: rest) = first.text ++ joined rest :=
  String.join_cons

@[simp] theorem joined_append (first second : List Stretch) :
    joined (first ++ second) = joined first ++ joined second := by
  rw [joined, List.map_append, String.join_append, joined, joined]

theorem joined_intercalate (between : String) (parts : List (List Stretch)) :
    joined ([.verbatim between].intercalate parts) = String.intercalate between (parts.map joined) := by
  induction parts with
  | nil => rfl
  | cons first rest ih =>
    cases rest with
    | nil => simp
    | cons second rest =>
      rw [List.intercalate_cons_cons, joined_append, ih]
      simp [text, String.append_assoc]

@[simp] theorem namings_name (naming : Naming) (rest : List Stretch) :
    (Stretch.name naming :: rest).filterMap naming? = naming :: rest.filterMap naming? := rfl

@[simp] theorem namings_verbatim (text : String) (rest : List Stretch) :
    (Stretch.verbatim text :: rest).filterMap naming? = rest.filterMap naming? := rfl

theorem namings_intercalate (between : String) (parts : List (List Stretch)) :
    ([Stretch.verbatim between].intercalate parts).filterMap naming? = parts.flatMap (·.filterMap naming?) := by
  induction parts with
  | nil => rfl
  | cons first rest ih =>
    cases rest with
    | nil => simp
    | cons second rest =>
      rw [List.intercalate_cons_cons, List.filterMap_append, ih]
      simp

end Stretch

namespace Dot

def Line.stretches : Line → List Stretch
  | .cluster level segment =>
    [.verbatim (indent level ++ "subgraph "), .name (.cluster segment), .verbatim " \x7b"]
  | line => [.verbatim line.text]

theorem Line.joined_stretches (line : Line) : Stretch.joined line.stretches = line.text := by
  cases line with
  | cluster level segment =>
    have keyword : "subgraph cluster_" = "subgraph " ++ "cluster_" := rfl
    simp only [stretches, Stretch.joined_cons, Stretch.joined_nil, Stretch.text, Naming.identifier, text,
      String.append_assoc, String.append_empty]
    rw [keyword, String.append_assoc]
  | _ => simp [stretches, Stretch.text]

def Line.namings (line : Line) : List Naming := line.stretches.filterMap Stretch.naming?

/-- A cluster is named after the last segment of its chain. -/
def chainNamings (chain : List String) : List Naming := chain.getLast?.toList.map .cluster

variable (targetStyle : Option String)

theorem nodeLines_namings (level : Nat) (label : NodeLabel) :
    (nodeLines targetStyle level label).flatMap Line.namings = [] := by
  obtain ⟨_ | path, _⟩ := label <;> rfl

theorem branchLines_namings (before : List String) (level : Nat) (branches : Branches) :
    (branchLines targetStyle level branches).flatMap Line.namings =
      branches.gathered chainNamings (fun _ => []) before := by
  induction branches generalizing before level with
  | nil => rfl
  | cons segment label children siblings below beside =>
    rw [branchLines, Branches.gathered, List.flatMap_append, beside before, ← below (before ++ [segment]) (level + 1)]
    cases children with
    | nil => simp [Branches.isEmpty, nodeLines_namings, branchLines]
    | cons => simp [Branches.isEmpty, nodeLines_namings, chainNamings, Line.namings, Line.stretches]

theorem edgeLines_namings (directStyle : Option String) (module : Module) :
    (edgeLines directStyle module).flatMap Line.namings = [] := by
  rw [flatMap_edgeLines (fun _ _ => []) fun _ _ _ => rfl]
  exact List.flatMap_eq_nil_iff.mpr fun _ _ => rfl

theorem defaultLines_namings (sheet : Style.Sheet) : (defaultLines sheet).flatMap Line.namings = [] :=
  flatMap_defaultLines (fun _ _ => rfl) sheet

theorem lines_namings (module : Module) (tree : NamespaceTree) (sheet : Style.Sheet) :
    (lines module tree sheet).flatMap Line.namings = tree.children.gathered chainNamings (fun _ => []) [] := by
  simp [lines, treeLines, nodeLines_namings, branchLines_namings _ [], edgeLines_namings, defaultLines_namings,
    Line.namings, Line.stretches]

end Dot

namespace Mermaid

def Line.stretches : Line → List Stretch
  | .subgraph level namespaceName segment =>
    [.verbatim (indent level ++ "subgraph "), .name (.container namespaceName),
      .verbatim ("[\"" ++ segment ++ "\"]")]
  | .containerStyle level segment attributes =>
    [.verbatim (indent level ++ "style "), .name (.containerStyle segment), .verbatim (" " ++ attributes)]
  | .node level path shape =>
    let shapeText := match shape with
      | none => ""
      | some shape => "shape: " ++ shape ++ ", "
    [.verbatim (indent level), .name (.node path),
      .verbatim ("@\x7b" ++ shapeText ++ "label: \"" ++ path ++ "\"\x7d")]
  | .nodeClass level path isTarget =>
    [.verbatim (indent level), .name (.node path), .verbatim (":::" ++ className isTarget)]
  | .edges source arrow targets =>
    [.name (.edgeEnd source), .verbatim (" " ++ arrow ++ " ")] ++
      [.verbatim " & "].intercalate (targets.map fun target => [.name (.edgeEnd target)])
  | line => [.verbatim line.text]

theorem Line.joined_stretches (line : Line) : Stretch.joined line.stretches = line.text := by
  cases line with
  | edges source arrow targets =>
    have each : Stretch.joined ∘ (fun target => [.name (.edgeEnd target)]) = nodeIdentifier := by
      funext target
      simp [Stretch.text, Naming.identifier]
    rw [stretches, Stretch.joined_append, Stretch.joined_intercalate, List.map_map, each]
    simp [Stretch.text, Naming.identifier, text, String.append_assoc]
  | node level path shape =>
    cases shape <;> simp [stretches, Stretch.text, Naming.identifier, text, String.append_assoc]
  | _ => simp [stretches, Stretch.text, Naming.identifier, text, String.append_assoc]

def Line.namings (line : Line) : List Naming := line.stretches.filterMap Stretch.naming?

theorem Line.namings_edges (source arrow : String) (targets : List String) :
    (Line.edges source arrow targets).namings = (source :: targets).map .edgeEnd := by
  rw [namings, stretches, List.filterMap_append, Stretch.namings_intercalate, List.flatMap_map, List.map_cons,
    List.map_eq_flatMap]
  rfl

/-- A subgraph is named after its whole chain, its style line after the last segment only. -/
def chainNamings (sheet : Style.Sheet) (chain : List String) : List Naming :=
  .container (String.join chain) ::
    if (sheet.list? .container).isSome then chain.getLast?.toList.map .containerStyle else []

def labelNamings (label : NodeLabel) : List Naming :=
  label.path.toList.flatMap fun path => [.node path, .node path]

theorem mem_labelNamings {naming : Naming} {label : NodeLabel} : naming ∈ labelNamings label ↔
    ∃ path, label.path = some path ∧ naming = .node path := by
  simp [labelNamings]

variable (sheet : Style.Sheet)

theorem nodeLines_namings (level : Nat) (label : NodeLabel) :
    (nodeLines sheet level label).flatMap Line.namings = labelNamings label := by
  obtain ⟨_ | path, _⟩ := label <;> rfl

theorem containerLines_namings (level : Nat) (segment : String) : (containerLines sheet level segment).flatMap
    Line.namings = if (sheet.list? .container).isSome then [.containerStyle segment] else [] := by
  unfold containerLines
  split <;> simp [*, Line.namings, Line.stretches]

theorem branchLines_namings (before : List String) (level : Nat) (branches : Branches) :
    (branchLines sheet (String.join before) level branches).flatMap Line.namings =
      branches.gathered (chainNamings sheet) labelNamings before := by
  induction branches generalizing before level with
  | nil => rfl
  | cons segment label children siblings below beside =>
    have longer : String.join before ++ segment = String.join (before ++ [segment]) := by simp
    rw [branchLines, Branches.gathered, List.flatMap_append, beside before, longer,
      ← below (before ++ [segment]) (level + 1)]
    cases children with
    | nil => simp [Branches.isEmpty, nodeLines_namings, branchLines]
    | cons =>
      simp [Branches.isEmpty, nodeLines_namings, containerLines_namings, chainNamings, Line.namings, Line.stretches]

theorem edgeLines_namings (module : Module) : (edgeLines sheet module).flatMap Line.namings =
    module.edgeGroups.flatMap fun group => (group.path :: group.dependencyNames).map .edgeEnd := by
  rw [edgeLines, List.flatMap_map]
  refine List.flatMap_congr fun group _ => ?_
  exact Line.namings_edges _ _ _

theorem classLines_namings : (classLines sheet).flatMap Line.namings = [] :=
  flatMap_classLines sheet fun _ _ => rfl

theorem linkStyleLines_namings (direct count : Nat) :
    (linkStyleLines sheet direct count).flatMap Line.namings = [] :=
  flatMap_linkStyleLines sheet rfl (fun _ _ _ => rfl) direct count

theorem lines_namings (module : Module) (tree : NamespaceTree) : (lines module tree sheet).flatMap Line.namings =
    labelNamings tree.label ++ tree.children.gathered (chainNamings sheet) labelNamings [] ++
      module.edgeGroups.flatMap fun group => (group.path :: group.dependencyNames).map .edgeEnd := by
  have branches := branchLines_namings sheet [] 1 tree.children
  rw [String.join_nil] at branches
  simp [lines, treeLines, nodeLines_namings, branches, edgeLines_namings, classLines_namings,
    linkStyleLines_namings, Line.namings, Line.stretches]

end Mermaid

namespace Format

/-- The stretches of all lines, with newlines between them. -/
def stretches (format : Format) (module : Module) (tree : NamespaceTree) (style : Option Style.Document) :
    List Stretch :=
  match format with
  | .dot => [.verbatim "\n"].intercalate
      ((Dot.lines module tree (Style.dotSheet style)).map Dot.Line.stretches)
  | .mermaid => [.verbatim "\n"].intercalate
      ((Mermaid.lines module tree (Style.mermaidSheet style)).map Mermaid.Line.stretches)

/-- The identifiers that a diagram has outside quotes. -/
def namings (format : Format) (module : Module) (tree : NamespaceTree) (style : Option Style.Document) :
    List Naming :=
  (format.stretches module tree style).filterMap Stretch.naming?

theorem render_eq_joined (format : Format) (module : Module) (tree : NamespaceTree)
    (style : Option Style.Document) :
    format.render module tree style = Stretch.joined (format.stretches module tree style) := by
  cases format with
  | dot =>
    rw [stretches, Stretch.joined_intercalate, List.map_map, render, Dot.render]
    exact congrArg _ (List.map_congr_left fun line _ => line.joined_stretches.symm)
  | mermaid =>
    rw [stretches, Stretch.joined_intercalate, List.map_map, render, Mermaid.render]
    exact congrArg _ (List.map_congr_left fun line _ => line.joined_stretches.symm)

theorem namings_eq (format : Format) (module : Module) (tree : NamespaceTree) (style : Option Style.Document) :
    format.namings module tree style = match format with
      | .dot => (Dot.lines module tree (Style.dotSheet style)).flatMap Dot.Line.namings
      | .mermaid => (Mermaid.lines module tree (Style.mermaidSheet style)).flatMap Mermaid.Line.namings := by
  cases format with
  | dot =>
    rw [namings, stretches, Stretch.namings_intercalate, List.flatMap_map]
    rfl
  | mermaid =>
    rw [namings, stretches, Stretch.namings_intercalate, List.flatMap_map]
    rfl

variable {module : Module} {tree : NamespaceTree} {style : Option Style.Document} {naming : Naming}

theorem mem_dotNamings : naming ∈ dot.namings module tree style ↔
    ∃ chain ∈ tree.namespaces, naming ∈ Dot.chainNamings chain := by
  rw [namings_eq, Dot.lines_namings, Branches.mem_gathered]
  simp [NamespaceTree.namespaces]

theorem mem_mermaidNamings : naming ∈ mermaid.namings module tree style ↔
    (∃ path ∈ tree.carried, naming = .node path) ∨
      (∃ chain ∈ tree.namespaces, naming ∈ Mermaid.chainNamings (Style.mermaidSheet style) chain) ∨
      ∃ group ∈ module.edgeGroups, ∃ path ∈ group.path :: group.dependencyNames, naming = .edgeEnd path := by
  have nodes : (∃ path ∈ tree.carried, naming = .node path) ↔
      naming ∈ Mermaid.labelNamings tree.label ∨
        ∃ label ∈ tree.children.labels, naming ∈ Mermaid.labelNamings label := by
    have labels := List.exists_mem_cons_iff (naming ∈ Mermaid.labelNamings ·) tree.label tree.children.labels
    rw [← labels]
    simp only [Mermaid.mem_labelNamings]
    constructor
    · intro carried
      obtain ⟨path, member, named⟩ := carried
      obtain ⟨label, listed, labelled⟩ := List.mem_filterMap.mp member
      exact ⟨label, listed, path, labelled, named⟩
    · intro stated
      obtain ⟨label, listed, path, labelled, named⟩ := stated
      exact ⟨path, List.mem_filterMap.mpr ⟨label, listed, labelled⟩, named⟩
  have ends : naming ∈ (module.edgeGroups.flatMap fun group => (group.path :: group.dependencyNames).map .edgeEnd) ↔
      ∃ group ∈ module.edgeGroups, ∃ path ∈ group.path :: group.dependencyNames, naming = .edgeEnd path := by
    simp only [List.mem_flatMap, List.mem_map, @eq_comm _ naming]
  rw [namings_eq, Mermaid.lines_namings, List.mem_append, List.mem_append, Branches.mem_gathered, ends, nodes,
    ← or_assoc, or_assoc]
  rfl

end Format

end DependencyDiagram.Diagram
