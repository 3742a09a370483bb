import DependencyDiagram.Proofs.EdgeOrder
import Mathlib.Data.List.Range

/-!
Direct links. The edges of the module that a diagram is drawn for stand on the first line of edges and on no
other one. Edges are numbered as Mermaid writes them, so theirs are the first numbers, as many as the module
has dependencies, and the others have the rest.
-/

namespace DependencyDiagram

namespace Module

variable {module : Module}

theorem edgeGroups_of_isEmpty (leaf : module.dependencies = []) : module.edgeGroups = [] := by
  obtain ⟨path, dependencies⟩ := module
  subst leaf
  rw [edgeGroups_eq]
  rfl

/-- The walk starts at the module itself and then has been to its path. -/
theorem edgeGroups_eq_cons (has : module.dependencies ≠ []) : ∃ others, module.edgeGroups = module :: others ∧
    ∀ group ∈ others, group.path ≠ module.path := by
  have first : ∃ others, module.edgeGroups = module :: others := by
    obtain ⟨path, dependencies⟩ := module
    rw [edgeGroups, edgeGroupsFrom, if_neg List.not_mem_nil, if_neg (by simpa using has)]
    exact ⟨_, rfl⟩
  obtain ⟨others, groups⟩ := first
  refine ⟨others, groups, fun group member same => ?_⟩
  have distinct := nodup_edgeGroups module
  rw [groups, List.map_cons, List.nodup_cons] at distinct
  exact distinct.1 (same ▸ List.mem_map_of_mem member)

end Module

namespace Diagram

namespace Dot

open Style (Sheet quoteDot)

/-- The lines that a namespace tree can be made of. -/
def Line.IsOfTree : Line → Prop
  | .opening | .defaults _ _ | .edges _ _ _ => False
  | _ => True

def Line.isEdges : Line → Bool
  | .edges _ _ _ => true
  | _ => false

variable (targetStyle : Option String)

theorem isOfTree_nodeLines (level : Nat) (label : NodeLabel) :
    ∀ line ∈ nodeLines targetStyle level label, line.IsOfTree := by
  obtain ⟨_ | path, isTarget⟩ := label
  · exact List.forall_mem_nil _
  · exact List.forall_mem_singleton.mpr trivial

theorem isOfTree_branchLines (level : Nat) (branches : Branches) :
    ∀ line ∈ branchLines targetStyle level branches, line.IsOfTree := by
  induction branches generalizing level with
  | nil => exact List.forall_mem_nil _
  | cons segment label children siblings below beside =>
    rw [branchLines]
    refine List.forall_mem_append.mpr ⟨?_, beside level⟩
    split
    · exact isOfTree_nodeLines targetStyle level label
    · have node := isOfTree_nodeLines targetStyle (level + 1) label
      simp only [List.forall_mem_append]
      refine ⟨⟨⟨?_, node⟩, below (level + 1)⟩, List.forall_mem_singleton.mpr trivial⟩
      simp [Line.IsOfTree]

theorem isOfTree_treeLines (tree : NamespaceTree) : ∀ line ∈ treeLines targetStyle tree, line.IsOfTree :=
  List.forall_mem_append.mpr ⟨isOfTree_nodeLines targetStyle _ tree.label,
    isOfTree_branchLines targetStyle 1 tree.children⟩

theorem edgeLines_eq_cons (directStyle : Option String) {module : Module} {others : List Module}
    (groups : module.edgeGroups = module :: others) :
    edgeLines directStyle module = edgeLine directStyle module :: others.map (edgeLine none) := by
  unfold edgeLines
  rw [groups]
  exact congrArg (edgeLine · module :: others.map (edgeLine none)) (if_pos rfl)

/-- A statement of edges without attributes. -/
def edgesText (group : Module) : String :=
  "\t" ++ quoteDot group.path ++ " -> \x7b" ++ String.intercalate " " (group.dependencyNames.map quoteDot) ++ "\x7d"

theorem suffix_eq (attributes : Option String) :
    suffix attributes = attributes.elim "" fun listed => " [" ++ listed ++ "]" := by
  cases attributes <;> rfl

theorem text_edgeLine (attributes : Option String) (group : Module) : (edgeLine attributes group).text =
    edgesText group ++ attributes.elim "" fun listed => " [" ++ listed ++ "]" := by
  rw [edgeLine, Line.text, suffix_eq, edgesText]

theorem isEdges_edgeLines (directStyle : Option String) (module : Module) :
    ∀ line ∈ edgeLines directStyle module, line.isEdges = true := by
  unfold edgeLines
  split
  · exact List.forall_mem_nil _
  · exact List.forall_mem_cons.mpr ⟨rfl, List.forall_mem_map.mpr fun _ _ => rfl⟩

theorem filter_isEdges_lines (module : Module) (tree : NamespaceTree) (sheet : Sheet) :
    (lines module tree sheet).filter Line.isEdges = edgeLines (sheet.list? .directLink) module := by
  have tree_silent : (treeLines (sheet.list? .targetModule) tree).filter Line.isEdges = [] := by
    refine List.filter_eq_nil_iff.mpr fun line member => ?_
    have ofTree := isOfTree_treeLines _ tree line member
    cases line <;> simp_all [Line.isEdges, Line.IsOfTree]
  have defaults_silent : (defaultLines sheet).filter Line.isEdges = [] := by
    refine List.filter_eq_nil_iff.mpr fun line member => ?_
    obtain ⟨part, _, line_eq⟩ := List.mem_filterMap.mp member
    simp only [bind, pure, Option.bind_eq_some_iff, Option.some.injEq] at line_eq
    obtain ⟨keyword, _, attributes, _, rfl⟩ := line_eq
    simp [Line.isEdges]
  have edges_kept := List.filter_eq_self.mpr (isEdges_edgeLines (sheet.list? .directLink) module)
  simp [lines, tree_silent, defaults_silent, edges_kept, Line.isEdges]

end Dot

namespace Mermaid

open Style (Sheet)

def Line.isEdges : Line → Bool
  | .edges _ _ _ => true
  | _ => false

def Line.isLinkStyle : Line → Bool
  | .linkStyle _ _ _ => true
  | _ => false

/-- The edges that a line writes, each with its source. -/
def Line.drawn : Line → List (String × String)
  | .edges source _ targets => targets.map (source, ·)
  | _ => []

/-- The edges of a group with the arrow they are written with. -/
def edgesText (arrow : String) (group : Module) : String :=
  nodeIdentifier group.path ++ " " ++ arrow ++ " " ++
    String.intercalate " & " (group.dependencyNames.map nodeIdentifier)

/-- A line that neither writes edges nor styles them. -/
def Line.IsLinkless : Line → Prop
  | .edges _ _ _ | .linkStyle _ _ _ => False
  | _ => True

theorem Line.IsLinkless.silent {line : Line} (linkless : line.IsLinkless) :
    line.isEdges = false ∧ line.isLinkStyle = false := by
  cases line with
  | edges => exact linkless.elim
  | linkStyle => exact linkless.elim
  | _ => exact ⟨rfl, rfl⟩

variable (sheet : Sheet)

theorem isLinkless_classLines : ∀ line ∈ classLines sheet, line.IsLinkless := by
  intro line member
  obtain ⟨part, _, line_eq⟩ := List.mem_filterMap.mp member
  obtain ⟨attributes, _, rfl⟩ := Option.map_eq_some_iff.mp line_eq
  trivial

theorem isLinkless_nodeLines (level : Nat) (label : NodeLabel) :
    ∀ line ∈ nodeLines sheet level label, line.IsLinkless := by
  obtain ⟨_ | path, isTarget⟩ := label
  · exact List.forall_mem_nil _
  · simp [nodeLines, Line.IsLinkless]

theorem isLinkless_containerLines (level : Nat) (segment : String) :
    ∀ line ∈ containerLines sheet level segment, line.IsLinkless := by
  unfold containerLines
  split
  · exact List.forall_mem_nil _
  · simp [Line.IsLinkless]

theorem isLinkless_branchLines (namespaceName : String) (level : Nat) (branches : Branches) :
    ∀ line ∈ branchLines sheet namespaceName level branches, line.IsLinkless := by
  induction branches generalizing namespaceName level with
  | nil => exact List.forall_mem_nil _
  | cons segment label children siblings below beside =>
    rw [branchLines]
    refine List.forall_mem_append.mpr ⟨?_, beside namespaceName level⟩
    split
    · exact isLinkless_nodeLines sheet level label
    · have style := isLinkless_containerLines sheet (level + 1) segment
      have node := isLinkless_nodeLines sheet (level + 1) label
      have inner := below (namespaceName ++ segment) (level + 1)
      simp only [List.forall_mem_append]
      refine ⟨⟨⟨⟨?_, style⟩, node⟩, inner⟩, List.forall_mem_singleton.mpr trivial⟩
      simp [Line.IsLinkless]

theorem isLinkless_treeLines (tree : NamespaceTree) : ∀ line ∈ treeLines sheet tree, line.IsLinkless :=
  List.forall_mem_append.mpr ⟨isLinkless_nodeLines sheet _ tree.label,
    isLinkless_branchLines sheet "" 1 tree.children⟩

/-- In front of the edges there is nothing about them. -/
theorem lines_eq (module : Module) (tree : NamespaceTree) : ∃ front : List Line,
    (∀ line ∈ front, line.IsLinkless) ∧ lines module tree sheet = front ++ (edgeLines sheet module ++
      linkStyleLines sheet module.dependencies.length (edgeCount module)) := by
  refine ⟨[.settings, .opening] ++ classLines sheet ++ [.blank] ++ treeLines sheet tree ++ [.blank], ?_, ?_⟩
  · have blank : ∀ line ∈ [Line.blank], line.IsLinkless := List.forall_mem_singleton.mpr trivial
    simp only [List.forall_mem_append]
    refine ⟨⟨⟨⟨?_, isLinkless_classLines sheet⟩, blank⟩, isLinkless_treeLines sheet tree⟩, blank⟩
    simp [Line.IsLinkless]
  · simp [lines]

theorem filter_isEdges_linkStyleLines (direct count : Nat) :
    (linkStyleLines sheet direct count).filter Line.isEdges = [] := by
  unfold linkStyleLines
  cases sheet.list? .directLink <;> cases sheet.list? .link <;> (repeat' split) <;> rfl

/-- There are no more direct links than edges, so without edges there is nothing to style. -/
theorem filter_isLinkStyle_linkStyleLines {direct count : Nat} (among : direct ≤ count) :
    (linkStyleLines sheet direct count).filter Line.isLinkStyle =
      if 1 < direct then
        ((sheet.list? .directLink).map (.linkStyle 0 direct)).toList ++
          (if direct < count then (sheet.list? .link).map (.linkStyle direct count) else none).toList
      else [] := by
  unfold linkStyleLines
  by_cases several : 1 < direct
  · rw [if_neg (by omega), if_neg (by omega), if_pos several]
    cases sheet.list? .directLink <;> cases sheet.list? .link <;> split <;> rfl
  · rw [if_neg several, if_pos (Nat.not_lt.mp several)]
    split <;> rfl

theorem filter_isEdges_lines (module : Module) (tree : NamespaceTree) :
    (lines module tree sheet).filter Line.isEdges = edgeLines sheet module := by
  obtain ⟨front, linkless, written⟩ := lines_eq sheet module tree
  have silent : front.filter Line.isEdges = [] :=
    List.filter_eq_nil_iff.mpr fun line member => by simp [(linkless line member).silent]
  have kept : (edgeLines sheet module).filter Line.isEdges = edgeLines sheet module :=
    List.filter_eq_self.mpr (List.forall_mem_map.mpr fun _ _ => rfl)
  rw [written, List.filter_append, List.filter_append, silent, kept, filter_isEdges_linkStyleLines,
    List.append_nil, List.nil_append]

theorem filter_isLinkStyle_lines (module : Module) (tree : NamespaceTree) :
    (lines module tree sheet).filter Line.isLinkStyle =
      (linkStyleLines sheet module.dependencies.length (edgeCount module)).filter Line.isLinkStyle := by
  obtain ⟨front, linkless, written⟩ := lines_eq sheet module tree
  have silent : front.filter Line.isLinkStyle = [] :=
    List.filter_eq_nil_iff.mpr fun line member => by simp [(linkless line member).silent]
  have dropped : (edgeLines sheet module).filter Line.isLinkStyle = [] :=
    List.filter_eq_nil_iff.mpr (List.forall_mem_map.mpr fun _ _ => Bool.false_ne_true)
  rw [written, List.filter_append, List.filter_append, silent, dropped, List.nil_append, List.nil_append]

/-- The edges that the lines write are those of the groups. -/
theorem flatMap_drawn_lines (module : Module) (tree : NamespaceTree) :
    (lines module tree sheet).flatMap Line.drawn = module.drawnEdges := by
  have silent (line : Line) (other : line.isEdges = false) : line.drawn = [] := by
    cases line with
    | edges => cases other
    | _ => rfl
  rw [← flatMap_filter silent, filter_isEdges_lines, edgeLines, List.flatMap_map]
  rfl

theorem edgeCount_eq (module : Module) : edgeCount module = module.drawnEdges.length := by
  rw [edgeCount, Module.drawnEdges, List.length_flatMap]
  simp [List.sum, Module.dependencyNames]

/-- The numbers of some edges, those with a given source apart from the others. -/
structure Numbered (source : String) (edges : List (String × String)) (own others : List Nat) : Prop where
  inOrder : own ++ others = List.range edges.length
  own_iff : ∀ number edge, edges[number]? = some edge → (number ∈ own ↔ edge.1 = source)
  others_iff : ∀ number edge, edges[number]? = some edge → (number ∈ others ↔ edge.1 ≠ source)

theorem indices_eq (first past : Nat) : indices first past = List.range' first (past - first) :=
  List.range'_eq_map_range.symm

theorem numbered_append {source : String} {first rest : List (String × String)}
    (own : ∀ edge ∈ first, edge.1 = source) (others : ∀ edge ∈ rest, edge.1 ≠ source) :
    Numbered source (first ++ rest) (indices 0 first.length)
      (indices first.length (first ++ rest).length) := by
  have split (number : Nat) (edge : String × String) (found : (first ++ rest)[number]? = some edge) :
      (number < first.length ∧ edge.1 = source) ∨
        (first.length ≤ number ∧ number < (first ++ rest).length ∧ edge.1 ≠ source) := by
    by_cases early : number < first.length
    · rw [List.getElem?_append_left early] at found
      exact .inl ⟨early, own edge (List.mem_of_getElem? found)⟩
    · have late := Nat.not_lt.mp early
      have inside := (List.getElem?_eq_some_iff.mp found).1
      rw [List.getElem?_append_right late] at found
      exact .inr ⟨late, inside, others edge (List.mem_of_getElem? found)⟩
  rw [indices_eq, indices_eq]
  constructor
  · rw [Nat.sub_zero, List.range_eq_range', List.length_append, Nat.add_sub_cancel_left]
    simpa only [Nat.zero_add] using List.range'_append_1 (s := 0) (m := first.length) (n := rest.length)
  · intro number edge found
    rw [List.mem_range'_1]
    rcases split number edge found with ⟨early, same⟩ | ⟨late, inside, different⟩
    · simp [early, same]
    · simp [different, late]
  · intro number edge found
    rw [List.mem_range'_1]
    rcases split number edge found with ⟨early, same⟩ | ⟨late, inside, different⟩
    · simp [early, same]
    · simp only [different, late, ne_eq, not_false_eq_true, iff_true, true_and]
      omega

/-- Behind the edges of the first group there are no others with its source. -/
theorem numbered_drawnEdges (module : Module) : Numbered module.path module.drawnEdges
    (indices 0 module.dependencies.length) (indices module.dependencies.length (edgeCount module)) := by
  rw [edgeCount_eq]
  by_cases leaf : module.dependencies = []
  · rw [leaf, Module.drawnEdges, Module.edgeGroups_of_isEmpty leaf]
    exact numbered_append (List.forall_mem_nil _) (List.forall_mem_nil _)
  · obtain ⟨others, groups, apart⟩ := Module.edgeGroups_eq_cons leaf
    let first := module.dependencyNames.map (module.path, ·)
    have count : first.length = module.dependencies.length := by simp [first, Module.dependencyNames]
    rw [Module.drawnEdges, groups, List.flatMap_cons, ← count]
    refine numbered_append (List.forall_mem_map.mpr fun _ _ => rfl) fun edge member => ?_
    obtain ⟨group, listed, drawn⟩ := List.mem_flatMap.mp member
    obtain ⟨target, _, rfl⟩ := List.mem_map.mp drawn
    exact apart group listed

theorem direct_le_edgeCount (module : Module) : module.dependencies.length ≤ edgeCount module := by
  have lengths := congrArg List.length (numbered_drawnEdges module).inOrder
  rw [indices_eq, indices_eq, ← edgeCount_eq] at lengths
  simp only [List.length_append, List.length_range', List.length_range] at lengths
  omega

def linkStyleText (numbers : List Nat) (attributes : String) : String :=
  "linkStyle " ++ String.intercalate "," (numbers.map toString) ++ " " ++ attributes

theorem texts_linkStyles (module : Module) (tree : NamespaceTree) :
    let own := indices 0 module.dependencies.length
    let others := indices module.dependencies.length (edgeCount module)
    ((lines module tree sheet).filter Line.isLinkStyle).map Line.text =
      if 1 < module.dependencies.length then
        (sheet.list? .directLink).toList.map (linkStyleText own) ++
          if others = [] then [] else (sheet.list? .link).toList.map (linkStyleText others)
      else [] := by
  have texts (first past : Nat) (attributes : Option String) :
      ((attributes.map (.linkStyle first past)).toList).map Line.text =
        attributes.toList.map (linkStyleText (indices first past)) := by
    cases attributes <;> rfl
  have none_left (first past : Nat) : indices first past = [] ↔ ¬ first < past := by
    rw [indices_eq, List.range'_eq_nil_iff]
    omega
  rw [filter_isLinkStyle_lines, filter_isLinkStyle_linkStyleLines sheet (direct_le_edgeCount module)]
  simp only [none_left, ite_not]
  split
  · rw [List.map_append, texts]
    split
    · rw [texts]
    · rfl
  · rfl

end Mermaid

open Style (Sheet)

/-- The edges of a module with dependencies stand in the first group and in no other, and the first line of
edges alone has the attributes or the arrow of direct links: in DOT their list is printed in brackets behind
this line, and nothing behind the others. Of the edges numbered in the order in which Mermaid writes them, the
lines that style links name first those that start at the module and then the others, each of them once and in
order, if the module has several dependencies; otherwise there are no such lines. -/
theorem directLinks_first (module : Module) (tree : NamespaceTree) (sheet : Sheet) :
    Dot.render module tree sheet = String.intercalate "\n" ((Dot.lines module tree sheet).map Dot.Line.text) ∧
    Mermaid.render module tree sheet =
      String.intercalate "\n" ((Mermaid.lines module tree sheet).map Mermaid.Line.text) ∧
    (module.dependencies = [] → module.edgeGroups = []) ∧
    (module.dependencies ≠ [] → ∃ others, module.edgeGroups = module :: others ∧
      (∀ group ∈ others, group.path ≠ module.path) ∧
      (Dot.lines module tree sheet).filter Dot.Line.isEdges =
        .edges module.path module.dependencyNames (sheet.list? .directLink) ::
          others.map (fun group => .edges group.path group.dependencyNames none) ∧
      ((Dot.lines module tree sheet).filter Dot.Line.isEdges).map Dot.Line.text =
        (Dot.edgesText module ++
          (sheet.list? .directLink).elim "" fun attributes => " [" ++ attributes ++ "]") ::
            others.map Dot.edgesText ∧
      (Mermaid.lines module tree sheet).filter Mermaid.Line.isEdges =
        .edges module.path ((sheet.special? .directLink).getD "-->") module.dependencyNames ::
          others.map (fun group => .edges group.path ((sheet.special? .link).getD "-->") group.dependencyNames) ∧
      ((Mermaid.lines module tree sheet).filter Mermaid.Line.isEdges).map Mermaid.Line.text =
        Mermaid.edgesText ((sheet.special? .directLink).getD "-->") module ::
          others.map (Mermaid.edgesText ((sheet.special? .link).getD "-->"))) ∧
    ∃ own others : List Nat,
      Mermaid.Numbered module.path ((Mermaid.lines module tree sheet).flatMap Mermaid.Line.drawn) own others ∧
      ((Mermaid.lines module tree sheet).filter Mermaid.Line.isLinkStyle).map Mermaid.Line.text =
        if 1 < module.dependencies.length then
          (sheet.list? .directLink).toList.map (Mermaid.linkStyleText own) ++
            if others = [] then [] else (sheet.list? .link).toList.map (Mermaid.linkStyleText others)
        else [] := by
  refine ⟨rfl, rfl, Module.edgeGroups_of_isEmpty, fun has => ?_, ?_⟩
  · obtain ⟨others, groups, apart⟩ := Module.edgeGroups_eq_cons has
    have dotLines : (Dot.lines module tree sheet).filter Dot.Line.isEdges =
        Dot.edgeLine (sheet.list? .directLink) module :: others.map (Dot.edgeLine none) := by
      rw [Dot.filter_isEdges_lines, Dot.edgeLines_eq_cons _ groups]
    have mermaidLines : (Mermaid.lines module tree sheet).filter Mermaid.Line.isEdges =
        .edges module.path ((sheet.special? .directLink).getD "-->") module.dependencyNames ::
          others.map (fun group => .edges group.path ((sheet.special? .link).getD "-->") group.dependencyNames) := by
      rw [Mermaid.filter_isEdges_lines, Mermaid.edgeLines, groups, List.map_cons, Mermaid.edgeLine, if_pos rfl]
      refine congrArg _ (List.map_congr_left fun group member => ?_)
      rw [Mermaid.edgeLine, if_neg (apart group member)]
      rfl
    refine ⟨others, groups, apart, dotLines, ?_, mermaidLines, ?_⟩
    · rw [dotLines, List.map_cons, List.map_map, Dot.text_edgeLine]
      refine congrArg _ (List.map_congr_left fun group _ => ?_)
      rw [Function.comp_apply, Dot.text_edgeLine]
      exact String.append_empty
    · rw [mermaidLines, List.map_cons, List.map_map]
      rfl
  · have numbered := Mermaid.numbered_drawnEdges module
    rw [← Mermaid.flatMap_drawn_lines sheet module tree] at numbered
    exact ⟨_, _, numbered, Mermaid.texts_linkStyles sheet module tree⟩

/-- Colours for both sorts of links. -/
def linkColours : Style.Document :=
  { Style.Document.empty with link := some [("color", .string "grey")], directLink := some [("color", .string "red")] }

/-- The module is among its own dependencies and two others share a path, but direct links are coloured on one
line only. -/
theorem directLinks_conflicting :
    let module := Module.conflicting
    let tree := NamespaceTree.build ":app" module.dependencyPaths
    (module.dependencies ≠ [] ∧ ∃ others, module.edgeGroups = module :: others ∧
      ((Dot.lines module tree (Style.dotSheet (some linkColours))).filter Dot.Line.isEdges).map Dot.Line.text =
        (Dot.edgesText module ++ " [color=\"red\"]") :: others.map Dot.edgesText) ∧
    Dot.render module tree (Style.dotSheet (some linkColours)) = String.intercalate "\n"
      ["digraph \x7b", "\tedge [color=\"grey\"];", "", "\t\":app\"", "\t\":lib\"", "\t\":net\"", "",
        "\t\":app\" -> \x7b\":lib\" \":lib\" \":app\" \":net\"\x7d [color=\"red\"]",
        "\t\":lib\" -> \x7b\":net\"\x7d", "\x7d"] ∧
    ((Mermaid.lines module tree (Style.mermaidSheet (some linkColours))).filter
        Mermaid.Line.isLinkStyle).map Mermaid.Line.text =
      ["linkStyle 0,1,2,3 color:red", "linkStyle 4 color:grey"] := by
  intro module tree
  have has : module.dependencies ≠ [] := List.cons_ne_nil _ _
  obtain ⟨others, groups, _, _, texts, _⟩ :=
    (directLinks_first module tree (Style.dotSheet (some linkColours))).2.2.2.1 has
  have walked : module.edgeGroups = [module, ⟨":lib", [⟨":net", []⟩]⟩] := by
    rw [Module.edgeGroups_eq]
    rfl
  refine ⟨⟨has, others, groups, texts⟩, ?_, ?_⟩
  · rw [Dot.render, Dot.lines, Dot.edgeLines, walked]
    decide +kernel
  · rw [Mermaid.lines, Mermaid.edgeLines, Mermaid.edgeCount, walked]
    decide +kernel

end Diagram

end DependencyDiagram
