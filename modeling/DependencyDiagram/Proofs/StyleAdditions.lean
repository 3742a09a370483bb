import DependencyDiagram.Proofs.DirectLinks
import DependencyDiagram.Proofs.NamespaceTrie

/-!
Styles in DOT. The text of a diagram without a style is kept by every style, line by line. What a style adds
stands behind three of the lines: the defaults behind the opening one, attributes behind the statement of the
target's node and attributes behind the first group of edges.
-/

namespace DependencyDiagram

namespace Diagram.Dot

open Style (Section Sheet dotSheet)

def Line.node? : Line → Option String
  | .node _ path _ => some path
  | _ => none

def Line.source? : Line → Option String
  | .edges source _ _ => some source
  | _ => none

/-- A line for each of the sections that have defaults, in this order, if there are attributes for it. -/
def defaultTexts (sheet : Sheet) : List String :=
  [(Section.container, "graph"), (.module, "node"), (.link, "edge")].filterMap fun entry =>
    (sheet.list? entry.1).map fun attributes => "\t" ++ entry.2 ++ " [" ++ attributes ++ "];"

theorem texts_defaultLines (sheet : Sheet) : (defaultLines sheet).map Line.text = defaultTexts sheet := by
  cases container : sheet.list? .container <;> cases module : sheet.list? .module <;>
    cases link : sheet.list? .link <;>
      simp [defaultTexts, defaultLines, Section.dotKeyword?, Line.text, container, module, link]

variable (target source : String) (sheet : Sheet)

/-- What is added behind a line of a diagram without a style. -/
def addition : Line → String
  | .opening => String.join ((defaultTexts sheet).map ("\n" ++ ·))
  | .node _ path _ => if path = target then suffix (sheet.list? .targetModule) else ""
  | .edges start _ _ => if start = source then suffix (sheet.list? .directLink) else ""
  | _ => ""

def extendedText (line : Line) : String := line.text ++ addition target source sheet line

/-- Marked labels are those that carry the target. -/
def MarksTarget (labels : List NodeLabel) : Prop :=
  ∀ label ∈ labels, label.isTarget = true ↔ label.path = some target

variable {target}

theorem texts_nodeLines (level : Nat) {label : NodeLabel}
    (marks : label.isTarget = true ↔ label.path = some target) :
    (nodeLines (sheet.list? .targetModule) level label).map Line.text =
      (nodeLines none level label).map (extendedText target source sheet) := by
  obtain ⟨_ | path, isTarget⟩ := label
  · rfl
  · have marked : isTarget = true ↔ path = target := by simpa using marks
    simp only [nodeLines, List.map_cons, List.map_nil, extendedText, addition, Line.text, marked]
    split <;> simp [suffix]

theorem texts_branchLines (level : Nat) {branches : Branches} (marks : MarksTarget target branches.labels) :
    (branchLines (sheet.list? .targetModule) level branches).map Line.text =
      (branchLines none level branches).map (extendedText target source sheet) := by
  induction branches generalizing level with
  | nil => rfl
  | cons segment label children siblings below beside =>
    simp only [MarksTarget, Branches.labels, List.forall_mem_cons, List.forall_mem_append] at marks
    obtain ⟨labelMarks, childrenMark, siblingsMark⟩ := marks
    rw [branchLines, branchLines, List.map_append, List.map_append, beside level siblingsMark, List.append_left_inj]
    split
    · exact texts_nodeLines source sheet level labelMarks
    · simp [texts_nodeLines source sheet (level + 1) labelMarks, below (level + 1) childrenMark, extendedText,
        addition]

theorem texts_treeLines {tree : NamespaceTree} (marks : MarksTarget target tree.labels) :
    (treeLines (sheet.list? .targetModule) tree).map Line.text =
      (treeLines none tree).map (extendedText target source sheet) := by
  rw [MarksTarget, NamespaceTree.labels, List.forall_mem_cons] at marks
  rw [treeLines, treeLines, List.map_append, List.map_append, texts_nodeLines source sheet _ marks.1,
    texts_branchLines source sheet 1 marks.2]

theorem texts_edgeLines (target : String) (module : Module) :
    (edgeLines (sheet.list? .directLink) module).map Line.text =
      (edgeLines none module).map (extendedText target module.path sheet) := by
  by_cases leaf : module.dependencies = []
  · rw [edgeLines, edgeLines, Module.edgeGroups_of_isEmpty leaf]
    rfl
  · obtain ⟨others, groups, apart⟩ := Module.edgeGroups_eq_cons leaf
    rw [edgeLines_eq_cons _ groups, edgeLines_eq_cons _ groups, List.map_cons, List.map_cons, List.cons_eq_cons]
    constructor
    · simp [edgeLine, extendedText, addition, Line.text, suffix]
    · rw [List.map_map, List.map_map]
      refine List.map_congr_left fun group member => ?_
      simp [edgeLine, extendedText, addition, apart group member]

/-- Lines behind the first one can be taken as a part of it. -/
theorem intercalate_gather (between first : String) (more rest : List String) :
    String.intercalate between (first :: (more ++ rest)) =
      String.intercalate between ((first ++ String.join (more.map (between ++ ·))) :: rest) := by
  induction more generalizing first with
  | nil => simp
  | cons second others ih =>
    rw [List.cons_append, String.intercalate_cons_cons, ih, ← String.intercalate_cons_append, List.map_cons,
      String.join_cons]
    simp only [String.append_assoc]

/-- The lines behind the opening one of a diagram without a style. -/
def plainRest (module : Module) (tree : NamespaceTree) : List Line :=
  [.blank] ++ treeLines none tree ++ [.blank] ++ edgeLines none module ++ [.closing 0]

theorem lines_plain (module : Module) (tree : NamespaceTree) :
    lines module tree (dotSheet none) = .opening :: plainRest module tree := by
  simp [lines, plainRest, defaultLines, dotSheet]

theorem render_extended (module : Module) {tree : NamespaceTree} (marks : MarksTarget target tree.labels) :
    render module tree sheet = String.intercalate "\n"
      ((.opening :: plainRest module tree).map (extendedText target module.path sheet)) := by
  have texts : (lines module tree sheet).map Line.text = Line.opening.text ::
      (defaultTexts sheet ++ (plainRest module tree).map (extendedText target module.path sheet)) := by
    simp only [lines, plainRest, List.map_append, texts_defaultLines, texts_treeLines module.path sheet marks,
      texts_edgeLines sheet target]
    simp [extendedText, addition]
  rw [render, texts, intercalate_gather]
  rfl

/-- What is read off the lines is read off their statements. -/
theorem filterMap_plainRest {Item : Type} {read : Line → Option Item} {stated : Statement → Option Item}
    (each : ∀ line : Line, (read line).toList = line.statements.filterMap stated) (opening : read .opening = none)
    (module : Module) (tree : NamespaceTree) :
    (plainRest module tree).filterMap read = (Format.dot.statements module tree none).filterMap stated := by
  calc (plainRest module tree).filterMap read
    _ = (lines module tree (dotSheet none)).filterMap read := by
      rw [lines_plain, List.filterMap_cons_none opening]
    _ = (lines module tree (dotSheet none)).flatMap fun line => (read line).toList :=
      List.filterMap_eq_flatMap_toList read _
    _ = (lines module tree (dotSheet none)).flatMap fun line => line.statements.filterMap stated := by
      simp only [each]
    _ = (Format.dot.statements module tree none).filterMap stated := by
      rw [Format.statements, List.filterMap_flatMap]

theorem nodes_plainRest (module : Module) (tree : NamespaceTree) :
    (plainRest module tree).filterMap Line.node? = tree.carried := by
  have each (line : Line) : line.node?.toList = line.statements.filterMap Statement.node? := by
    cases line with
    | node level path attributes => cases attributes <;> rfl
    | _ => rfl
  rw [filterMap_plainRest each rfl, Format.nodes_statements]

theorem sources_plainRest (module : Module) (tree : NamespaceTree) :
    (plainRest module tree).filterMap Line.source? = module.edgeGroups.map (·.path) := by
  have each (line : Line) :
      line.source?.toList = line.statements.filterMap fun statement => statement.edges?.map Prod.fst := by
    cases line with
    | node level path attributes => cases attributes <;> rfl
    | _ => rfl
  rw [filterMap_plainRest each rfl, ← List.map_filterMap, Format.edges_statements, List.map_map]
  rfl

theorem opening_notMem_plainRest (module : Module) (tree : NamespaceTree) :
    Line.opening ∉ plainRest module tree := by
  intro member
  simp only [plainRest, List.mem_append, List.mem_singleton] at member
  rcases member with (((blank | ofTree) | blank) | ofEdges) | closing
  · cases blank
  · exact isOfTree_treeLines none tree _ ofTree
  · cases blank
  · cases isEdges_edgeLines none module _ ofEdges
  · cases closing

/-- A text that has, line by line, the lines of a diagram without a style and something added behind some of
them: the defaults behind the opening one, attributes behind the statement of the node that is marked as the
target's and behind the first group of edges. -/
structure AddsBehind (module : Module) (tree : NamespaceTree) (sheet : Sheet) (rest : List Line)
    (added : Line → String) : Prop where
  opening : added .opening = String.join ((defaultTexts sheet).map ("\n" ++ ·))
  nodes : rest.filterMap (fun line => line.node?.map (·, added line)) =
    tree.labels.filterMap fun label => label.path.map
      (·, if label.isTarget then
          (sheet.list? .targetModule).elim "" fun attributes => " [" ++ attributes ++ "]"
        else "")
  edges : rest.filterMap (fun line => line.source?.map (·, added line)) =
    match module.edgeGroups with
    | [] => []
    | first :: others =>
      (first.path, (sheet.list? .directLink).elim "" fun attributes => " [" ++ attributes ++ "]") ::
        others.map fun group => (group.path, "")
  others : ∀ line ∈ rest, line.node? = none → line.source? = none → added line = ""

theorem addsBehind_plainRest (module : Module) {tree : NamespaceTree} (marks : MarksTarget target tree.labels)
    (sheet : Sheet) : AddsBehind module tree sheet (plainRest module tree) (addition target module.path sheet) := by
  have nodes_eq (line : Line) : line.node?.map (·, addition target module.path sheet line) =
      line.node?.map fun path => (path, if path = target then suffix (sheet.list? .targetModule) else "") := by
    cases line <;> rfl
  have sources_eq (line : Line) : line.source?.map (·, addition target module.path sheet line) =
      line.source?.map fun start =>
        (start, if start = module.path then suffix (sheet.list? .directLink) else "") := by
    cases line <;> rfl
  constructor
  · rfl
  · simp only [nodes_eq]
    rw [← List.map_filterMap, nodes_plainRest, NamespaceTree.carried, List.map_filterMap]
    refine List.filterMap_congr fun label member => ?_
    cases carries : label.path with
    | none => rfl
    | some path =>
      have marked : label.isTarget = true ↔ path = target := by
        rw [marks label member, carries, Option.some_inj]
      simp only [Option.map_some, marked, suffix_eq]
  · simp only [sources_eq]
    rw [← List.map_filterMap, sources_plainRest, List.map_map]
    by_cases leaf : module.dependencies = []
    · rw [Module.edgeGroups_of_isEmpty leaf]
      rfl
    · obtain ⟨others, groups, apart⟩ := Module.edgeGroups_eq_cons leaf
      rw [groups, List.map_cons]
      refine congrArg₂ _ (by simp [suffix_eq]) (List.map_congr_left fun group member => ?_)
      simp [apart group member]
  · intro line member unstated sourceless
    cases line with
    | opening => exact absurd member (opening_notMem_plainRest module tree)
    | node => cases unstated
    | edges => cases sourceless
    | _ => rfl

end Diagram.Dot

namespace Diagram

open Style (dotSheet)

/-- A style adds to the text of a diagram and changes nothing in it: one line for each section with defaults
behind the opening line, and attributes behind the statement of the only node that is marked as the target's
and behind the first group of edges, each if the document has the section. -/
theorem render_additive (module : Module) (target : String) (paths : List String) (style : Option Style.Document) :
    let tree := NamespaceTree.build target paths
    ∃ (rest : List Dot.Line) (added : Dot.Line → String),
      Format.dot.render module tree none = String.intercalate "\n" ((.opening :: rest).map Dot.Line.text) ∧
      Format.dot.render module tree style =
        String.intercalate "\n" ((.opening :: rest).map fun line => line.text ++ added line) ∧
      Dot.AddsBehind module tree (dotSheet style) rest added ∧
      (tree.labels.filter (·.isTarget)).length ≤ 1 ∧
      ∀ part, ((dotSheet style).list? part).isSome = (style.bind (·.section? part)).isSome := by
  intro tree
  have marks : Dot.MarksTarget target tree.labels := fun label member =>
    NamespaceTree.isTarget_iff_of_build member
  refine ⟨Dot.plainRest module tree, Dot.addition target module.path (dotSheet style), ?_, ?_, ?_, ?_, ?_⟩
  · rw [Format.render, Dot.render, Dot.lines_plain]
  · exact Dot.render_extended (dotSheet style) module marks
  · exact Dot.addsBehind_plainRest module marks (dotSheet style)
  · exact NamespaceTree.length_filter_isTarget_build target paths
  · intro part
    cases style with
    | none => rfl
    | some document => cases present : document.section? part <;> simp [dotSheet, present]

/-- A module in the namespace of the one that depends on it. -/
def nested : Module := ⟨":app", [⟨":app:core", [⟨":lib", []⟩]⟩, ⟨":lib", []⟩]⟩

/-- Attributes for containers, for the target and for direct links. -/
def painted : Style.Document :=
  { Style.Document.empty with
    container := some [("style", .string "filled"), ("bold", .bool true)]
    targetModule := some [("shape", .string "box")]
    directLink := some [("color", .string "red")] }

/-- The style adds one line and two lists of attributes. -/
theorem render_painted :
    let tree := NamespaceTree.build ":app" nested.dependencyPaths
    (∃ (rest : List Dot.Line) (added : Dot.Line → String),
      Format.dot.render nested tree none = String.intercalate "\n" ((.opening :: rest).map Dot.Line.text) ∧
      Format.dot.render nested tree (some painted) =
        String.intercalate "\n" ((.opening :: rest).map fun line => line.text ++ added line) ∧
      Dot.AddsBehind nested tree (dotSheet (some painted)) rest added) ∧
    Format.dot.render nested tree none = String.intercalate "\n"
      ["digraph \x7b", "", "", "\tsubgraph cluster_app \x7b", "\t\tlabel = \"app\";", "\t\ttooltip = \"app\";", "",
        "\t\t\":app\"", "\t\t\":app:core\"", "\t\x7d", "\t\":lib\"", "",
        "\t\":app\" -> \x7b\":app:core\" \":lib\"\x7d", "\t\":app:core\" -> \x7b\":lib\"\x7d", "\x7d"] ∧
    Format.dot.render nested tree (some painted) = String.intercalate "\n"
      ["digraph \x7b", "\tgraph [style=\"filled\", bold=true];", "", "", "\tsubgraph cluster_app \x7b",
        "\t\tlabel = \"app\";", "\t\ttooltip = \"app\";", "",
        "\t\t\":app\" [shape=\"box\"]", "\t\t\":app:core\"", "\t\x7d", "\t\":lib\"", "",
        "\t\":app\" -> \x7b\":app:core\" \":lib\"\x7d [color=\"red\"]", "\t\":app:core\" -> \x7b\":lib\"\x7d",
        "\x7d"] := by
  intro tree
  obtain ⟨rest, added, plain, styled, adds, _⟩ := render_additive nested ":app" nested.dependencyPaths (some painted)
  have walked : nested.edgeGroups = [nested, ⟨":app:core", [⟨":lib", []⟩]⟩] := by
    rw [Module.edgeGroups_eq]
    rfl
  refine ⟨⟨rest, added, plain, styled, adds⟩, ?_, ?_⟩
  · rw [Format.render, Dot.render, Dot.lines, Dot.edgeLines, walked]
    decide +kernel
  · rw [Format.render, Dot.render, Dot.lines, Dot.edgeLines, walked]
    decide +kernel

end Diagram

end DependencyDiagram
