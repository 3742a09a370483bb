import DependencyDiagram.Proofs.RegularPaths
import DependencyDiagram.Proofs.WrittenIdentifiers

/-!
Identifiers of nodes. The suffix of a node's identifier stands behind a single underscore. In the identifier
of a namespace underscores come from hyphens, three for each, so what is in front of such an ending ends with
an underscore itself, which no identifier of a regular path does.
-/

namespace DependencyDiagram

namespace ModulePath

variable {text word : List Char}

/-- Any other character at the end of an identifier stands for itself. -/
theorem exists_of_flatMap_concat {last : Char} (other : last ≠ '_')
    (written : text.flatMap identifierPart = word ++ [last]) :
    ∃ front, text = front ++ [last] ∧ front.flatMap identifierPart = word := by
  rcases List.eq_nil_or_concat' text with rfl | ⟨front, c, rfl⟩
  · simp at written
  · rw [List.flatMap_append, List.flatMap_singleton] at written
    by_cases isSeparator : c = separator
    · rw [isSeparator, identifierPart_separator] at written
      have ends := congrArg List.getLast? written
      exact absurd (by simpa using ends : '_' = last).symm other
    · by_cases isHyphen : c = '-'
      · rw [isHyphen, identifierPart_hyphen] at written
        have ends := congrArg List.getLast? written
        exact absurd (by simpa using ends : '_' = last).symm other
      · rw [identifierPart_of_ne isSeparator isHyphen] at written
        obtain ⟨same, singleton⟩ := List.append_inj' written rfl
        obtain rfl := (List.cons.inj singleton).1
        exact ⟨front, rfl, same⟩

/-- An underscore at the end comes from a hyphen, which has written two more in front of it. -/
theorem getLast?_of_flatMap_concat (underscoreless : '_' ∉ text) (separatorless : separator ∉ text)
    (written : text.flatMap identifierPart = word ++ ['_']) : word.getLast? = some '_' := by
  rcases List.eq_nil_or_concat' text with rfl | ⟨front, c, rfl⟩
  · simp at written
  · rw [List.mem_append, not_or, List.mem_singleton] at underscoreless separatorless
    rw [List.flatMap_append, List.flatMap_singleton, identifierPart, if_neg (Ne.symm separatorless.2)] at written
    split at written
    · have longer : (front.flatMap identifierPart ++ ['_', '_']) ++ ['_'] = word ++ ['_'] := by
        simpa using written
      simp [← List.append_cancel_right longer]
    · have ends := congrArg List.getLast? written
      simp [Ne.symm underscoreless.2] at ends

/-- A text without underscores and separators has no identifier like that of the node of a regular path. -/
theorem IsRegular.nodeIdentifier_ne {path : String} (regular : IsRegular path) {name : String}
    (underscoreless : '_' ∉ name.toList) (separatorless : separator ∉ name.toList) :
    Diagram.Mermaid.nodeIdentifier path ≠ identifier name := by
  intro same
  have whole : dropSeparator name.toList = name.toList := by
    cases toList : name.toList with
    | nil => rfl
    | cons c rest =>
      rw [toList, List.mem_cons, not_or] at separatorless
      rw [dropSeparator, if_neg (Ne.symm separatorless.1)]
  have texts := congrArg String.toList same.symm
  rw [identifier, String.toList_ofList, whole, Diagram.Mermaid.nodeIdentifier, String.toList_append] at texts
  have written : name.toList.flatMap identifierPart = ((identifier path).toList ++ ['_'] ++ ['i']) ++ ['d'] := by
    simpa using texts
  obtain ⟨beforeD, toList, writtenBeforeD⟩ := exists_of_flatMap_concat (by decide) written
  obtain ⟨beforeI, rfl, writtenBeforeI⟩ := exists_of_flatMap_concat (by decide) writtenBeforeD
  rw [toList, List.append_assoc, List.mem_append, not_or] at underscoreless separatorless
  exact regular.getLast?_identifier (getLast?_of_flatMap_concat underscoreless.1 separatorless.1 writtenBeforeI)

/-- The segments of regular paths run together have neither underscores nor separators. -/
theorem notMem_join {paths chain : List String} (regular : ∀ path ∈ paths, IsRegular path)
    (begins : ∃ path ∈ paths, Begins chain (segments path)) :
    '_' ∉ (String.join chain).toList ∧ separator ∉ (String.join chain).toList := by
  obtain ⟨path, listed, start, _⟩ := begins
  have among (segment : String) (member : segment ∈ chain) :=
    (regular path listed).of_mem_segments (start.subset member)
  simp only [String.toList_join, List.mem_flatMap, not_exists, not_and]
  exact ⟨fun segment member => (among segment member).1.2.1, fun segment member => (among segment member).2⟩

end ModulePath

namespace Diagram

open ModulePath (Begins IsRegular)

/-- In the text of a Mermaid diagram of regular paths, every path has a node and every proper beginning of one
is a namespace; nodes of different modules have different identifiers, and none of them is that of a
namespace. -/
theorem Mermaid.identifiers_apart (target : String) (paths : List String) (regular : ∀ path ∈ paths, IsRegular path)
    (module : Module) (style : Option Style.Document) :
    let tree := NamespaceTree.build target paths
    let namings := Format.mermaid.namings module tree style
    Format.mermaid.render module tree style = Stretch.joined (Format.mermaid.stretches module tree style) ∧
    (∀ path, .node path ∈ namings ↔ path ∈ paths) ∧
    (∀ name, .container name ∈ namings ↔ ∃ chain ≠ [],
      (∃ path ∈ paths, Begins chain (ModulePath.segments path)) ∧ name = String.join chain) ∧
    (∀ first second, .node first ∈ namings → .node second ∈ namings → first ≠ second →
      (Naming.node first).identifier ≠ (Naming.node second).identifier) ∧
    ∀ path name, .node path ∈ namings → .container name ∈ namings →
      (Naming.node path).identifier ≠ (Naming.container name).identifier := by
  intro tree namings
  have nodes (path : String) : .node path ∈ namings ↔ path ∈ paths := by
    rw [← NamespaceTree.mem_carried_regular target regular, Format.mem_mermaidNamings]
    simp [Mermaid.chainNamings, tree]
  have containers (name : String) : .container name ∈ namings ↔ ∃ chain ≠ [],
      (∃ path ∈ paths, Begins chain (ModulePath.segments path)) ∧ name = String.join chain := by
    rw [Format.mem_mermaidNamings]
    simp [Mermaid.chainNamings, tree, NamespaceTree.mem_namespaces_build, and_assoc]
  refine ⟨Format.render_eq_joined _ _ _ _, nodes, containers, ?_, ?_⟩
  · intro first second firstNode secondNode different same
    apply different
    apply (regular first ((nodes first).mp firstNode)).eq_of_identifier (regular second ((nodes second).mp secondNode))
    simpa [Naming.identifier, nodeIdentifier] using same
  · intro path name node container
    obtain ⟨chain, _, begins, rfl⟩ := (containers name).mp container
    obtain ⟨underscoreless, separatorless⟩ := ModulePath.notMem_join regular begins
    exact (regular path ((nodes path).mp node)).nodeIdentifier_ne underscoreless separatorless

/-- A namespace whose name ends like the identifiers of nodes do. -/
theorem Mermaid.identifiers_suffixed : (∀ path ∈ [":core", ":core-id:net"], IsRegular path) ∧
    .node ":core" ∈ Format.mermaid.namings ⟨":core", []⟩ (.build ":core" [":core", ":core-id:net"]) none ∧
    .container "core-id" ∈ Format.mermaid.namings ⟨":core", []⟩ (.build ":core" [":core", ":core-id:net"]) none ∧
    (Naming.node ":core").identifier = "core_id" ∧ (Naming.container "core-id").identifier = "core___id" ∧
    (Naming.node ":core").identifier ≠ (Naming.container "core-id").identifier := by
  have regular : ∀ path ∈ [":core", ":core-id:net"], IsRegular path := by decide +kernel
  obtain ⟨_, nodes, containers, _, apart⟩ := Mermaid.identifiers_apart ":core" _ regular ⟨":core", []⟩ none
  have node := (nodes ":core").mpr List.mem_cons_self
  have begins : Begins ["core-id"] (ModulePath.segments ":core-id:net") := by
    have segments : ModulePath.segments ":core-id:net" = ["core-id", "net"] := by decide +kernel
    rw [segments]
    exact ⟨⟨["net"], rfl⟩, by decide⟩
  have container := (containers "core-id").mpr ⟨["core-id"], by decide, ⟨":core-id:net", by decide, begins⟩, rfl⟩
  exact ⟨regular, node, container, by decide +kernel, by decide +kernel, apart _ _ node container⟩

end Diagram

end DependencyDiagram
