import DependencyDiagram.Diagram.Mermaid
import DependencyDiagram.Proofs.SketchTexts

/-!
Mermaid texts read back. Nodes are named by identifiers, which stand for one conventional path each, and a
label line says for which. Edges are split at blanks, which no identifier has.
-/

namespace DependencyDiagram.Diagram.Mermaid

open ModulePath (IsPathText IsPathChar IsWordChar)

/-- A line without quotes is read by its words. A class says nothing about what the graph is. -/
def plainSigns? (line : List Char) : Option (List Sign) :=
  match line.splitOn ' ' with
  | [word] =>
    if word = [] then some []
    else if word = "end".toList then some [.closes]
    else
      match word.splitOn ':' with
      | [_, [], [], _] => some []
      | _ => none
  | source :: arrow :: targets =>
    if arrow = defaultArrow.toList then
      (listed? ['&'] [] targets).map fun targets => [.edges (String.ofList source) targets]
    else none
  | [] => none

/-- A quoted text is the title of a subgraph or the label of a node, which stands behind the node's name. -/
def piecesSigns? : List (List Char) → Option (List Sign)
  | [plain] => plainSigns? plain
  | [start, text, ending] =>
    if "subgraph ".toList <+: start ∧ ending = [']'] then
      some [.opens, .label (String.ofList text)]
    else
      match start.splitOn '@' with
      | [name, opening] =>
        if opening = "\x7blabel: ".toList ∧ ending = ['\x7d'] then
          some [.node (String.ofList name) (String.ofList text)]
        else none
      | _ => none
  | _ => none

/-- The graph is behind a directive and the line that opens a chart. -/
def sketch? (text : String) : Option Sketch :=
  match text.toList.splitOn '\n' with
  | directive :: opening :: rest =>
    if "%%".toList <+: directive ∧ opening = "graph TD".toList then
      (rest.mapM fun line => piecesSigns? (pieces line)).bind fun signs => sketchOf? signs.flatten
    else none
  | _ => none

def Line.signs : Line → List Sign
  | .subgraph _ _ segment => [.opens, .label segment]
  | .node _ path _ => [.node (nodeIdentifier path) path]
  | .edges source _ targets => [.edges (nodeIdentifier source) (targets.map nodeIdentifier)]
  | .closing _ => [.closes]
  | _ => []

/-- The lines behind the one that opens the chart, without attributes and with texts of path characters
only. -/
def Line.IsPlain : Line → Prop
  | .blank | .closing _ => True
  | .subgraph _ namespaceName segment => IsPathText namespaceName ∧ IsPathText segment
  | .node _ path shape => IsPathText path ∧ shape = none
  | .nodeClass _ path _ => IsPathText path
  | .edges source arrow targets =>
    IsPathText source ∧ arrow = defaultArrow ∧ targets ≠ [] ∧ ∀ target ∈ targets, IsPathText target
  | .settings | .opening | .classDefinition _ _ | .containerStyle _ _ _ | .linkStyle _ _ _ => False

theorem isWord_nodeIdentifier {path : String} (plain : IsPathText path) : ModulePath.IsWord (nodeIdentifier path) := by
  intro c member
  rw [nodeIdentifier, String.toList_append] at member
  rcases List.mem_append.mp member with inside | behind
  · exact plain.identifier c inside
  · have ending : c = '_' ∨ c = 'i' ∨ c = 'd' := by simpa using behind
    rcases ending with rfl | rfl | rfl <;> decide

theorem notMem_edges {source arrow : String} {targets : List String}
    (plain : (Line.edges source arrow targets).IsPlain) {c : Char} (other : ¬ IsWordChar c)
    (joint : c ∉ [' ', '-', '>', '&']) : c ∉ (Line.edges source arrow targets).text.toList := by
  obtain ⟨sourcePlain, rfl, _, targetsPlain⟩ := plain
  have inSource := (isWord_nodeIdentifier sourcePlain).notMem other
  have inTargets : c ∉ (String.intercalate " & " (targets.map nodeIdentifier)).toList := by
    rw [String.toList_intercalate, List.map_map]
    refine Text.notMem_intercalate ?_ (List.forall_mem_map.mpr fun target member => ?_)
    · simp only [List.mem_cons, not_or] at joint
      simp [joint]
    · exact (isWord_nodeIdentifier (targetsPlain target member)).notMem other
  simp_all [Line.text, defaultArrow]

theorem listed?_words {names : List String} (nonempty : names ≠ []) (words : ∀ name ∈ names, ModulePath.IsWord name) :
    listed? ['&'] [] ((String.intercalate " & " names).toList.splitOn ' ') = some names := by
  induction names with
  | nil => exact absurd rfl nonempty
  | cons first rest ih =>
    rw [List.forall_mem_cons] at words
    have blankless := words.1.notMem (by decide : ¬ IsWordChar ' ')
    cases rest with
    | nil => simp [Text.splitOn_of_notMem blankless, listed?]
    | cons second rest =>
      have written : (String.intercalate " & " (first :: second :: rest)).toList =
          first.toList ++ ' ' :: (['&'] ++ ' ' :: (String.intercalate " & " (second :: rest)).toList) := by
        simp [String.toList_intercalate]
      rw [written, Text.splitOn_append_cons blankless, Text.splitOn_append_cons (by decide), listed?,
        if_neg (List.cons_ne_nil _ _), if_pos rfl, ih (List.cons_ne_nil _ _) words.2]
      simp

theorem plainSigns?_nodeClass {name : List Char} (blankless : ' ' ∉ name) (colonless : ':' ∉ name)
    (isTarget : Bool) : plainSigns? (name ++ ':' :: ':' :: ':' :: (className isTarget).toList) = some [] := by
  have words : (name ++ ':' :: ':' :: ':' :: (className isTarget).toList).splitOn ' ' =
      [name ++ ':' :: ':' :: ':' :: (className isTarget).toList] :=
    Text.splitOn_of_notMem (by cases isTarget <;> simp [blankless, className])
  have colons : (name ++ ':' :: ':' :: ':' :: (className isTarget).toList).splitOn ':' =
      [name, [], [], (className isTarget).toList] := by
    rw [Text.splitOn_append_cons colonless, Text.splitOn_cons_self, Text.splitOn_cons_self,
      Text.splitOn_of_notMem (by cases isTarget <;> decide)]
  have notEnd : name ++ ':' :: ':' :: ':' :: (className isTarget).toList ≠ "end".toList := by
    intro same
    have colon : ':' ∈ "end".toList := same ▸ (by simp)
    revert colon
    decide
  rw [plainSigns?, words]
  simp only [colons, if_neg notEnd]
  simp

theorem plainSigns?_edges {source : String} {targets : List String} (blankless : ' ' ∉ source.toList)
    (nonempty : targets ≠ []) (words : ∀ target ∈ targets, ModulePath.IsWord target) :
    plainSigns? (source.toList ++
        ' ' :: (defaultArrow.toList ++ ' ' :: (String.intercalate " & " targets).toList)) =
      some [.edges source targets] := by
  rw [plainSigns?, Text.splitOn_append_cons blankless, Text.splitOn_append_cons (by decide)]
  simp only [listed?_words nonempty words, if_true, Option.map_some, String.ofList_toList]

theorem piecesSigns?_text (line : Line) (plain : line.IsPlain) :
    piecesSigns? (pieces line.text.toList) = some line.signs := by
  cases line with
  | settings | opening | classDefinition | containerStyle | linkStyle => exact plain.elim
  | blank => simp [Line.text, pieces, piecesSigns?, plainSigns?, Line.signs]
  | closing level =>
    have parts : pieces (Line.closing level).text.toList = ["end".toList] :=
      pieces_unlabelled level (by simp [Line.text, indent]) (by decide) (by decide)
    rw [parts, piecesSigns?, plainSigns?, Text.splitOn_of_notMem (by decide)]
    rfl
  | subgraph level namespaceName segment =>
    have quoteless := plain.1.identifier.notMem (by decide : ¬ IsWordChar '"')
    have parts : pieces (Line.subgraph level namespaceName segment).text.toList =
        ["subgraph ".toList ++ ((ModulePath.identifier namespaceName).toList ++ ['[']), segment.toList, [']']] :=
      pieces_labelled level _ _ [']'] (by simp [Line.text, indent]) (by simp) (by simp [quoteless])
        (plain.2.notMem (by decide)) (Text.splitOn_of_notMem (by decide))
    rw [parts, piecesSigns?, if_pos ⟨List.prefix_append _ _, rfl⟩, String.ofList_toList]
    rfl
  | node level path shape =>
    obtain ⟨pathPlain, rfl⟩ := plain
    have word := isWord_nodeIdentifier pathPlain
    have quoteless := word.notMem (by decide : ¬ IsWordChar '"')
    have markless := word.notMem (by decide : ¬ IsWordChar '@')
    have tabless := word.notMem (by decide : ¬ IsWordChar '\t')
    have parts : pieces (Line.node level path none).text.toList =
        [(nodeIdentifier path).toList ++ '@' :: "\x7blabel: ".toList, path.toList, ['\x7d']] :=
      pieces_labelled level _ _ ['\x7d'] (by simp [Line.text, indent])
        (Text.head?_ne_of_notMem (by simp [tabless])) (by simp [quoteless]) (pathPlain.notMem (by decide))
        (Text.splitOn_of_notMem (by decide))
    rw [parts, piecesSigns?, if_neg (by simp), Text.splitOn_append_cons markless, Text.splitOn_of_notMem (by decide)]
    simp [Line.signs]
  | nodeClass level path isTarget =>
    have word := isWord_nodeIdentifier plain
    have quoteless := word.notMem (by decide : ¬ IsWordChar '"')
    have tabless := word.notMem (by decide : ¬ IsWordChar '\t')
    have parts : pieces (Line.nodeClass level path isTarget).text.toList =
        [(nodeIdentifier path).toList ++ ':' :: ':' :: ':' :: (className isTarget).toList] :=
      pieces_unlabelled level (by simp [Line.text, indent])
        (Text.head?_ne_of_notMem (by cases isTarget <;> simp [tabless, className]))
        (by cases isTarget <;> simp [quoteless, className])
    rw [parts, piecesSigns?]
    exact plainSigns?_nodeClass (word.notMem (by decide)) (word.notMem (by decide)) isTarget
  | edges source arrow targets =>
    have quoteless := notMem_edges plain (by decide : ¬ IsWordChar '"') (by decide)
    have tabless := notMem_edges plain (by decide : ¬ IsWordChar '\t') (by decide)
    obtain ⟨sourcePlain, rfl, nonempty, targetsPlain⟩ := plain
    have words : ∀ name ∈ targets.map nodeIdentifier, ModulePath.IsWord name :=
      List.forall_mem_map.mpr fun target member => isWord_nodeIdentifier (targetsPlain target member)
    have parts : pieces (Line.edges source defaultArrow targets).text.toList =
        [(Line.edges source defaultArrow targets).text.toList] :=
      pieces_unlabelled 0 (by simp) (Text.head?_ne_of_notMem tabless) quoteless
    have written : (Line.edges source defaultArrow targets).text.toList = (nodeIdentifier source).toList ++
        ' ' :: (defaultArrow.toList ++
          ' ' :: (String.intercalate " & " (targets.map nodeIdentifier)).toList) := by
      simp [Line.text]
    rw [parts, piecesSigns?, written]
    exact plainSigns?_edges ((isWord_nodeIdentifier sourcePlain).notMem (by decide)) (by simpa using nonempty) words

theorem newlineless (line : Line) (plain : line.IsPlain) : '\n' ∉ line.text.toList := by
  cases line with
  | settings | opening | classDefinition | containerStyle | linkStyle => exact plain.elim
  | blank => decide
  | closing level => simp [Line.text, indent]
  | subgraph level namespaceName segment =>
    have word := plain.1.identifier.notMem (by decide : ¬ IsWordChar '\n')
    have free := plain.2.notMem (by decide : ¬ IsPathChar '\n')
    simp [Line.text, indent, word, free]
  | node level path shape =>
    obtain ⟨pathPlain, rfl⟩ := plain
    have word := (isWord_nodeIdentifier pathPlain).notMem (by decide : ¬ IsWordChar '\n')
    have free := pathPlain.notMem (by decide : ¬ IsPathChar '\n')
    simp [Line.text, indent, word, free]
  | nodeClass level path isTarget =>
    have word := (isWord_nodeIdentifier plain).notMem (by decide : ¬ IsWordChar '\n')
    cases isTarget <;> simp [Line.text, indent, className, word]
  | edges => exact notMem_edges plain (by decide) (by decide)

theorem reads_nodeLines (level : Nat) {label : NodeLabel} (plain : label.IsPlain) :
    Reads Line.IsPlain Line.signs (nodeLines (Style.mermaidSheet none) level label) (label.signs nodeIdentifier) := by
  obtain ⟨_ | path, isTarget⟩ := label
  · exact ⟨List.forall_mem_nil _, rfl⟩
  · have pathPlain := plain path rfl
    have shapeless (part : Style.Section) : (Style.mermaidSheet none).special? part = none := rfl
    exact ⟨by simp [nodeLines, Line.IsPlain, shapeless, pathPlain], rfl⟩

theorem reads_branchLines {namespaceName : String} (namespacePlain : IsPathText namespaceName) (level : Nat)
    {branches : Branches} (plain : branches.IsPlain) : Reads Line.IsPlain Line.signs
      (branchLines (Style.mermaidSheet none) namespaceName level branches) (branches.signs nodeIdentifier) := by
  induction branches generalizing namespaceName level with
  | nil => exact ⟨List.forall_mem_nil _, rfl⟩
  | cons segment label children siblings below beside =>
    obtain ⟨segmentPlain, labelPlain, childrenPlain, siblingsPlain⟩ := plain
    rw [branchLines, Branches.signs]
    refine .append ?_ (beside namespacePlain level siblingsPlain)
    split
    · exact reads_nodeLines level labelPlain
    · have innerPlain := namespacePlain.append segmentPlain
      have opening : Reads Line.IsPlain Line.signs
          ([.blank, .subgraph level (namespaceName ++ segment) segment] ++
            containerLines (Style.mermaidSheet none) (level + 1) segment) [.opens, .label segment] :=
        ⟨by simp [containerLines, Style.mermaidSheet, Style.nonEmptySection?, Line.IsPlain, innerPlain, segmentPlain], rfl⟩
      have closing : Reads Line.IsPlain Line.signs [.closing level] [.closes] := ⟨by simp [Line.IsPlain], rfl⟩
      exact ((opening.append (reads_nodeLines (level + 1) labelPlain)).append
        (below innerPlain (level + 1) childrenPlain)).append closing

theorem reads_treeLines {tree : NamespaceTree} (plain : tree.IsPlain) : Reads Line.IsPlain Line.signs
    (treeLines (Style.mermaidSheet none) tree) (tree.signs nodeIdentifier) :=
  (reads_nodeLines _ plain.1).append (reads_branchLines (by simp [IsPathText]) 1 plain.2)

theorem reads_edgeLines {module : Module}
    (plain : ∀ group ∈ module.namedGroups, ∀ path ∈ group.1 :: group.2, IsPathText path) :
    Reads Line.IsPlain Line.signs (edgeLines (Style.mermaidSheet none) module)
      (edgeSigns nodeIdentifier module.namedGroups) := by
  have lines_eq : edgeLines (Style.mermaidSheet none) module =
      module.namedGroups.map fun group => .edges group.1 defaultArrow group.2 := by
    rw [edgeLines, Module.namedGroups, List.map_map]
    rfl
  rw [lines_eq]
  refine .map (fun group member => ?_) fun group => rfl
  obtain ⟨sourcePlain, targetsPlain⟩ := List.forall_mem_cons.mp (plain group member)
  exact ⟨sourcePlain, rfl, Module.targets_ne_nil_of_namedGroups member, targetsPlain⟩

/-- Without styles there is at most an empty line behind the edges. -/
theorem reads_linkStyleLines (direct count : Nat) :
    Reads Line.IsPlain Line.signs (linkStyleLines (Style.mermaidSheet none) direct count) [] := by
  have blank : Reads Line.IsPlain Line.signs [.blank] [] := ⟨by simp [Line.IsPlain], rfl⟩
  unfold linkStyleLines
  split
  · exact ⟨List.forall_mem_nil _, rfl⟩
  · split
    · exact blank
    · simpa [Style.mermaidSheet, Style.nonEmptySection?] using blank

/-- The text of a diagram is read as the signs of its tree and of its groups of edges. -/
theorem sketch?_render {module : Module} {tree : NamespaceTree} (treePlain : tree.IsPlain)
    (groupsPlain : ∀ group ∈ module.namedGroups, ∀ path ∈ group.1 :: group.2, IsPathText path) :
    sketch? (render module tree (Style.mermaidSheet none)) =
      sketchOf? (tree.signs nodeIdentifier ++ edgeSigns nodeIdentifier module.namedGroups) := by
  have blank : Reads Line.IsPlain Line.signs [.blank] [] := ⟨by simp [Line.IsPlain], rfl⟩
  have body := (((blank.append (reads_treeLines treePlain)).append blank).append (reads_edgeLines groupsPlain)).append
    (reads_linkStyleLines module.dependencies.length (edgeCount module))
  rw [List.nil_append, List.append_nil, List.append_nil] at body
  let inner := [.blank] ++ treeLines (Style.mermaidSheet none) tree ++ [.blank] ++
    edgeLines (Style.mermaidSheet none) module ++
    linkStyleLines (Style.mermaidSheet none) module.dependencies.length (edgeCount module)
  have lines_eq : lines module tree (Style.mermaidSheet none) = .settings :: .opening :: inner := by
    simp [lines, inner, classLines, Style.mermaidSheet, Style.nonEmptySection?]
  have free : ∀ text ∈ (Line.settings :: .opening :: inner).map Line.text, '\n' ∉ text.toList := by
    refine List.forall_mem_map.mpr (List.forall_mem_cons.mpr ⟨by decide, List.forall_mem_cons.mpr ⟨by decide, ?_⟩⟩)
    exact fun line member => newlineless line (body.plain line member)
  rw [sketch?, render, lines_eq, splitOn_lines (by simp) free]
  simp only [List.map_map, List.map_cons]
  rw [if_pos ⟨by decide, rfl⟩]
  exact body.sketchOf? piecesSigns?_text

theorem eq_of_nodeIdentifier {path other : String} (conventional : ModulePath.IsConventional path)
    (otherConventional : ModulePath.IsConventional other) (same : nodeIdentifier path = nodeIdentifier other) :
    path = other :=
  conventional.eq_of_identifier otherConventional (by simpa [nodeIdentifier] using same)

end DependencyDiagram.Diagram.Mermaid
