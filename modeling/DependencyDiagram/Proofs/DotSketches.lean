import DependencyDiagram.Diagram.Dot
import DependencyDiagram.Proofs.QuotedLiterals
import DependencyDiagram.Proofs.SketchTexts

/-!
DOT texts read back. Between its braces a text has nodes, clusters with their labels and groups of edges,
each on lines of their own, and with conventional paths no text ends a quotation or a line before its time.
-/

namespace DependencyDiagram.Diagram.Dot

open ModulePath (IsPathText IsPathChar IsWordChar)

/-- Braces and the openings of clusters stand on lines without quotes, nodes and labels have one quoted
text, and groups of edges have one for each end. -/
def piecesSigns? : List (List Char) → Option (List Sign)
  | [plain] =>
    if plain = [] then some []
    else if plain = ['\x7d'] then some [.closes]
    else if "subgraph cluster_".toList <+: plain ∧ " \x7b".toList <:+ plain then some [.opens]
    else none
  | [start, text, ending] =>
    if start = [] ∧ ending = [] then some [.node (String.ofList text) (String.ofList text)]
    else if start = "label = ".toList ∧ ending = [';'] then some [.label (String.ofList text)]
    else if start = "tooltip = ".toList ∧ ending = [';'] then some []
    else none
  | start :: source :: arrow :: targets =>
    if start = [] ∧ arrow = " -> \x7b".toList then
      (listed? [' '] [['\x7d']] targets).map fun targets => [.edges (String.ofList source) targets]
    else none
  | _ => none

/-- The graph is between its braces, whose lines hold nothing else. -/
def sketch? (text : String) : Option Sketch :=
  match text.toList.splitOn '\n' with
  | [] => none
  | first :: rest =>
    if first = "digraph \x7b".toList ∧ rest.getLast? = some ['\x7d'] then
      (rest.dropLast.mapM fun line => piecesSigns? (pieces line)).bind fun signs => sketchOf? signs.flatten
    else none

theorem toList_quoteDot {text : String} (plain : IsPathText text) :
    (Style.quoteDot text).toList = '"' :: (text.toList ++ ['"']) := by
  have kept : text.toList.flatMap escapeQuote = text.toList := by
    have same : ∀ c ∈ text.toList, escapeQuote c = [c] := fun c member =>
      escapeQuote_of_ne fun quote => plain.notMem (by decide) (quote ▸ member)
    rw [List.flatMap_congr same, List.flatMap_singleton']
  rw [toList_quoteDot_flatMap, kept]

def Line.signs : Line → List Sign
  | .cluster _ _ => [.opens]
  | .label _ segment => [.label segment]
  | .node _ path _ => [.node path path]
  | .edges source targets _ => [.edges source targets]
  | .closing _ => [.closes]
  | _ => []

/-- The lines between the braces of the graph, without attributes and with texts of path characters only. -/
def Line.IsPlain : Line → Prop
  | .blank | .closing _ => True
  | .cluster _ text | .label _ text | .tooltip _ text => IsPathText text
  | .node _ path attributes => IsPathText path ∧ attributes = none
  | .edges source targets attributes =>
    IsPathText source ∧ targets ≠ [] ∧ (∀ target ∈ targets, IsPathText target) ∧ attributes = none
  | .opening | .defaults _ _ => False

/-- Quoted targets are what stands between the quotes. -/
theorem listed?_targets {targets : List String} (nonempty : targets ≠ [])
    (plain : ∀ target ∈ targets, IsPathText target) : ∃ pieces,
      ((String.intercalate " " (targets.map Style.quoteDot)).toList ++ ['\x7d']).splitOn '"' = [] :: pieces ∧
        listed? [' '] [['\x7d']] pieces = some targets := by
  induction targets with
  | nil => exact absurd rfl nonempty
  | cons first rest ih =>
    rw [List.forall_mem_cons] at plain
    have quoteless : '"' ∉ first.toList := plain.1.notMem (by decide)
    cases rest with
    | nil =>
      refine ⟨[first.toList, ['\x7d']], ?_, by simp [listed?]⟩
      have written : (String.intercalate " " ([first].map Style.quoteDot)).toList ++ ['\x7d'] =
          '"' :: (first.toList ++ '"' :: ['\x7d']) := by
        simp [toList_quoteDot plain.1]
      rw [written, Text.splitOn_cons_self, Text.splitOn_append_cons quoteless,
        Text.splitOn_of_notMem (by decide)]
    | cons second rest =>
      obtain ⟨pieces, parts, listed⟩ := ih (List.cons_ne_nil _ _) plain.2
      refine ⟨first.toList :: [' '] :: pieces, ?_, by simp [listed?, listed]⟩
      have written : (String.intercalate " " ((first :: second :: rest).map Style.quoteDot)).toList ++ ['\x7d'] =
          '"' :: (first.toList ++ '"' :: ([' '] ++
            ((String.intercalate " " ((second :: rest).map Style.quoteDot)).toList ++ ['\x7d']))) := by
        simp [toList_quoteDot plain.1, String.toList_intercalate]
      rw [written, Text.splitOn_cons_self, Text.splitOn_append_cons quoteless,
        Text.splitOn_append_first (by decide) parts]
      rfl

theorem piecesSigns?_text (line : Line) (plain : line.IsPlain) :
    piecesSigns? (pieces line.text.toList) = some line.signs := by
  cases line with
  | opening => exact plain.elim
  | defaults => exact plain.elim
  | blank => simp [Line.text, pieces, piecesSigns?, Line.signs]
  | closing level =>
    have parts : pieces (Line.closing level).text.toList = [['\x7d']] :=
      pieces_unlabelled level (by simp [Line.text, indent]) (by decide) (by decide)
    rw [parts]
    rfl
  | cluster level segment =>
    have quoteless := (IsPathText.identifier plain).notMem (by decide : ¬ IsWordChar '"')
    have parts : pieces (Line.cluster level segment).text.toList =
        ["subgraph cluster_".toList ++ ((ModulePath.identifier segment).toList ++ " \x7b".toList)] :=
      pieces_unlabelled level (by simp [Line.text, indent]) (by simp) (by simp [quoteless])
    have ends : " \x7b".toList <:+
        "subgraph cluster_".toList ++ ((ModulePath.identifier segment).toList ++ " \x7b".toList) := by
      rw [← List.append_assoc]
      exact List.suffix_append _ _
    rw [parts, piecesSigns?, if_neg (by simp), if_neg (by simp), if_pos ⟨List.prefix_append _ _, ends⟩]
    rfl
  | label level segment =>
    have parts : pieces (Line.label level segment).text.toList = ["label = ".toList, segment.toList, [';']] :=
      pieces_labelled level _ _ [';'] (by simp [Line.text, indent, toList_quoteDot plain]) (by decide) (by decide)
        (plain.notMem (by decide)) (Text.splitOn_of_notMem (by decide))
    rw [parts]
    simp [piecesSigns?, Line.signs]
  | tooltip level segment =>
    have parts : pieces (Line.tooltip level segment).text.toList = ["tooltip = ".toList, segment.toList, [';']] :=
      pieces_labelled level _ _ [';'] (by simp [Line.text, indent, toList_quoteDot plain]) (by decide) (by decide)
        (plain.notMem (by decide)) (Text.splitOn_of_notMem (by decide))
    rw [parts]
    simp [piecesSigns?, Line.signs]
  | node level path attributes =>
    obtain ⟨pathPlain, rfl⟩ := plain
    have parts : pieces (Line.node level path none).text.toList = [[], path.toList, []] :=
      pieces_labelled level _ _ [] (by simp [Line.text, suffix, indent, toList_quoteDot pathPlain]) (by decide)
        List.not_mem_nil (pathPlain.notMem (by decide)) rfl
    rw [parts]
    simp [piecesSigns?, Line.signs]
  | edges source targets attributes =>
    obtain ⟨sourcePlain, nonempty, targetsPlain, rfl⟩ := plain
    obtain ⟨targetPieces, split, listed⟩ := listed?_targets nonempty targetsPlain
    have behind := Text.splitOn_append_first (by decide : '"' ∉ " -> \x7b".toList) split
    rw [List.append_nil] at behind
    have parts : pieces (Line.edges source targets none).text.toList =
        [] :: source.toList :: " -> \x7b".toList :: targetPieces :=
      pieces_labelled 1 _ _ (" -> \x7b".toList ++
          ((String.intercalate " " (targets.map Style.quoteDot)).toList ++ ['\x7d']))
        (by simp [Line.text, suffix, toList_quoteDot sourcePlain]) (by decide) List.not_mem_nil
        (sourcePlain.notMem (by decide)) behind
    cases targetPieces with
    | nil => simp [listed?] at listed
    | cons first others =>
      rw [parts]
      simp [piecesSigns?, listed, Line.signs]

theorem newlineless (line : Line) (plain : line.IsPlain) : '\n' ∉ line.text.toList := by
  cases line with
  | opening | defaults => exact plain.elim
  | blank => decide
  | closing level => simp [Line.text, indent]
  | cluster level segment =>
    have word := (IsPathText.identifier plain).notMem (by decide : ¬ IsWordChar '\n')
    simp [Line.text, indent, word]
  | label level segment | tooltip level segment =>
    have free := IsPathText.notMem plain (by decide : ¬ IsPathChar '\n')
    simp [Line.text, indent, toList_quoteDot plain, free]
  | node level path attributes =>
    obtain ⟨pathPlain, rfl⟩ := plain
    have free := pathPlain.notMem (by decide : ¬ IsPathChar '\n')
    simp [Line.text, suffix, indent, toList_quoteDot pathPlain, free]
  | edges source targets attributes =>
    obtain ⟨sourcePlain, nonempty, targetsPlain, rfl⟩ := plain
    have free := sourcePlain.notMem (by decide : ¬ IsPathChar '\n')
    have inTargets : '\n' ∉ (String.intercalate " " (targets.map Style.quoteDot)).toList := by
      rw [String.toList_intercalate, List.map_map]
      refine Text.notMem_intercalate (by decide) (List.forall_mem_map.mpr fun target member => ?_)
      have targetPlain := targetsPlain target member
      simp [toList_quoteDot targetPlain, targetPlain.notMem (by decide : ¬ IsPathChar '\n')]
    rw [String.toList_intercalate] at inTargets
    simpa [Line.text, suffix, toList_quoteDot sourcePlain, free] using inTargets

theorem reads_nodeLines (level : Nat) {label : NodeLabel} (plain : label.IsPlain) :
    Reads Line.IsPlain Line.signs (nodeLines none level label) (label.signs id) := by
  obtain ⟨_ | path, isTarget⟩ := label
  · exact ⟨List.forall_mem_nil _, rfl⟩
  · have pathPlain := plain path rfl
    exact ⟨by cases isTarget <;> simpa [nodeLines, Line.IsPlain] using pathPlain, by cases isTarget <;> rfl⟩

theorem reads_branchLines (level : Nat) {branches : Branches} (plain : branches.IsPlain) :
    Reads Line.IsPlain Line.signs (branchLines none level branches) (branches.signs id) := by
  induction branches generalizing level with
  | nil => exact ⟨List.forall_mem_nil _, rfl⟩
  | cons segment label children siblings below beside =>
    obtain ⟨segmentPlain, labelPlain, childrenPlain, siblingsPlain⟩ := plain
    rw [branchLines, Branches.signs]
    refine .append ?_ (beside level siblingsPlain)
    split
    · exact reads_nodeLines level labelPlain
    · have opening : Reads Line.IsPlain Line.signs [.blank, .cluster level segment, .label (level + 1) segment,
          .tooltip (level + 1) segment, .blank] [.opens, .label segment] :=
        ⟨by simp [Line.IsPlain, segmentPlain], rfl⟩
      have closing : Reads Line.IsPlain Line.signs [.closing level] [.closes] := ⟨by simp [Line.IsPlain], rfl⟩
      exact ((opening.append (reads_nodeLines (level + 1) labelPlain)).append
        (below (level + 1) childrenPlain)).append closing

theorem reads_treeLines {tree : NamespaceTree} (plain : tree.IsPlain) :
    Reads Line.IsPlain Line.signs (treeLines none tree) (tree.signs id) :=
  (reads_nodeLines _ plain.1).append (reads_branchLines 1 plain.2)

theorem reads_edgeLines {module : Module}
    (plain : ∀ group ∈ module.namedGroups, ∀ path ∈ group.1 :: group.2, IsPathText path) :
    Reads Line.IsPlain Line.signs (edgeLines none module) (edgeSigns id module.namedGroups) := by
  have lines_eq : edgeLines none module =
      module.namedGroups.map fun group => .edges group.1 group.2 none := by
    unfold edgeLines Module.namedGroups
    cases module.edgeGroups with
    | nil => rfl
    | cons first rest => simp [edgeLine]
  rw [lines_eq]
  refine .map (fun group member => ?_) fun group => ?_
  · obtain ⟨sourcePlain, targetsPlain⟩ := List.forall_mem_cons.mp (plain group member)
    exact ⟨sourcePlain, Module.targets_ne_nil_of_namedGroups member, targetsPlain, rfl⟩
  · simp [Line.signs]

/-- The text of a diagram is read as the signs of its tree and of its groups of edges. -/
theorem sketch?_render {module : Module} {tree : NamespaceTree} (treePlain : tree.IsPlain)
    (groupsPlain : ∀ group ∈ module.namedGroups, ∀ path ∈ group.1 :: group.2, IsPathText path) :
    sketch? (render module tree (Style.dotSheet none)) =
      sketchOf? (tree.signs id ++ edgeSigns id module.namedGroups) := by
  have blank : Reads Line.IsPlain Line.signs [.blank] [] := ⟨by simp [Line.IsPlain], rfl⟩
  have body := ((blank.append (reads_treeLines treePlain)).append blank).append (reads_edgeLines groupsPlain)
  rw [List.nil_append, List.append_nil] at body
  let inner := [.blank] ++ treeLines none tree ++ [.blank] ++ edgeLines none module
  have lines_eq : lines module tree (Style.dotSheet none) = .opening :: (inner ++ [.closing 0]) := by
    simp [lines, inner, defaultLines, Style.dotSheet]
  have free : ∀ text ∈ (Line.opening :: (inner ++ [.closing 0])).map Line.text, '\n' ∉ text.toList := by
    refine List.forall_mem_map.mpr (List.forall_mem_cons.mpr ⟨by decide, List.forall_mem_append.mpr ⟨?_, ?_⟩⟩)
    · exact fun line member => newlineless line (body.plain line member)
    · exact List.forall_mem_singleton.mpr (newlineless _ trivial)
  rw [sketch?, render, lines_eq, splitOn_lines (by simp) free]
  simp only [List.map_map, List.map_cons, List.map_append, List.map_nil]
  rw [if_pos ⟨rfl, List.getLast?_concat⟩, List.dropLast_concat]
  exact body.sketchOf? piecesSigns?_text

end DependencyDiagram.Diagram.Dot
