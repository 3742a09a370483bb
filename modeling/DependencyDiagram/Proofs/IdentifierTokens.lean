import DependencyDiagram.Proofs.ConventionalPaths
import DependencyDiagram.Proofs.WrittenIdentifiers

/-!
Identifiers as tokens. An identifier exchanges the separators and hyphens of its text and keeps all other
characters, so those outside quotes are made of letters, digits and underscores, as far as ASCII goes, exactly
if the paths in the diagram have no other characters besides separators and hyphens.
-/

namespace DependencyDiagram

namespace ModulePath

/-- A character of words or one beyond ASCII. -/
def IsTokenChar (c : Char) : Prop := IsWordChar c ∨ 128 ≤ c.toNat

instance (c : Char) : Decidable (IsTokenChar c) :=
  inferInstanceAs (Decidable (_ ∨ _))

def IsToken (text : String) : Prop := ∀ c ∈ text.toList, IsTokenChar c

instance (text : String) : Decidable (IsToken text) :=
  List.decidableBAll IsTokenChar text.toList

theorem isToken_append (first second : String) : IsToken (first ++ second) ↔ IsToken first ∧ IsToken second := by
  rw [IsToken, String.toList_append, List.forall_mem_append]
  rfl

/-- A text whose identifier is a token. -/
def IsTokenSource (text : String) : Prop := ∀ c ∈ text.toList, c = separator ∨ c = '-' ∨ IsTokenChar c

theorem isToken_identifier_iff (text : String) : IsToken (identifier text) ↔ IsTokenSource text :=
  forall_mem_identifier (.inl (.inr rfl)) text

theorem isTokenSource_iff_segments (path : String) :
    IsTokenSource path ↔ ∀ segment ∈ segments path, IsTokenSource segment :=
  (forall_mem_segments (.inl rfl) path).symm

theorem isTokenSource_join {chain : List String} (each : ∀ segment ∈ chain, IsTokenSource segment) :
    IsTokenSource (String.join chain) := by
  intro c member
  rw [String.toList_join] at member
  obtain ⟨segment, listed, inside⟩ := List.mem_flatMap.mp member
  exact each segment listed c inside

/-- The last segments of a path's proper beginnings are all its segments but the last one. -/
theorem exists_begins_iff {segment : String} {segments : List String} :
    (∃ chain, Begins chain segments ∧ chain.getLast? = some segment) ↔ segment ∈ segments.dropLast := by
  constructor
  · intro beginning
    obtain ⟨chain, ⟨⟨rest, rfl⟩, different⟩, last⟩ := beginning
    have further : rest ≠ [] := fun none => different (by rw [none, List.append_nil])
    rw [List.dropLast_append_of_ne_nil further]
    exact List.mem_append_left _ (List.mem_of_getLast? last)
  · intro member
    obtain ⟨before, behind, split⟩ := List.append_of_mem member
    have nonempty : segments ≠ [] := by
      rintro rfl
      cases member
    have whole : segments = (before ++ [segment]) ++ (behind ++ [segments.getLast nonempty]) := by
      calc segments
        _ = segments.dropLast ++ [segments.getLast nonempty] := (List.dropLast_append_getLast nonempty).symm
        _ = _ := by simp [split]
    refine ⟨before ++ [segment], ⟨⟨_, whole.symm⟩, fun same => ?_⟩, List.getLast?_concat⟩
    have longer := congrArg List.length (same.trans whole)
    simp at longer

end ModulePath

namespace Diagram

open ModulePath (IsToken IsTokenSource)

/-- The text that an identifier is made from. -/
def Naming.source : Naming → String
  | .node path | .edgeEnd path => path
  | .container namespaceName => namespaceName
  | .containerStyle segment | .cluster segment => segment

theorem Naming.isToken_iff (naming : Naming) : IsToken naming.identifier ↔ IsTokenSource naming.source := by
  have suffixed (path : String) : IsToken (Mermaid.nodeIdentifier path) ↔ IsTokenSource path := by
    have suffix : IsToken "_id" := by decide
    rw [Mermaid.nodeIdentifier, ModulePath.isToken_append, and_iff_left suffix]
    exact ModulePath.isToken_identifier_iff path
  have prefixed (segment : String) :
      IsToken ("cluster_" ++ ModulePath.identifier segment) ↔ IsTokenSource segment := by
    have start : IsToken "cluster_" := by decide
    rw [ModulePath.isToken_append, and_iff_right start]
    exact ModulePath.isToken_identifier_iff segment
  cases naming with
  | node path => exact suffixed path
  | edgeEnd path => exact suffixed path
  | container name => exact ModulePath.isToken_identifier_iff name
  | containerStyle segment => exact ModulePath.isToken_identifier_iff segment
  | cluster segment => exact prefixed segment

theorem Format.dotNamings_tokens_iff (target : String) (paths : List String) (module : Module)
    (style : Option Style.Document) :
    (∀ naming ∈ Format.dot.namings module (.build target paths) style, IsToken naming.identifier) ↔
      ∀ path ∈ paths, ∀ segment ∈ (ModulePath.segments path).dropLast, IsTokenSource segment := by
  simp only [Naming.isToken_iff]
  constructor
  · intro tokens path listed segment member
    obtain ⟨chain, begins, last⟩ := ModulePath.exists_begins_iff.mpr member
    have proper : chain ≠ [] := fun none => by simp [none] at last
    have opened := (NamespaceTree.mem_namespaces_build target paths).mpr ⟨proper, path, listed, begins⟩
    exact tokens (.cluster segment) (mem_dotNamings.mpr ⟨chain, opened, by simp [Dot.chainNamings, last]⟩)
  · intro sources naming member
    obtain ⟨chain, opened, written⟩ := mem_dotNamings.mp member
    obtain ⟨_, path, listed, begins⟩ := (NamespaceTree.mem_namespaces_build target paths).mp opened
    simp only [Dot.chainNamings, List.mem_map, Option.mem_toList] at written
    obtain ⟨segment, last, rfl⟩ := written
    exact sources path listed segment (ModulePath.exists_begins_iff.mp ⟨chain, begins, last⟩)

theorem Format.mermaidNamings_tokens_iff (target : String) (paths : List String) (module : Module)
    (style : Option Style.Document) :
    (∀ naming ∈ Format.mermaid.namings module (.build target paths) style, IsToken naming.identifier) ↔
      (∀ path ∈ paths, IsTokenSource path) ∧
        ∀ group ∈ module.edgeGroups, ∀ path ∈ group.path :: group.dependencyNames, IsTokenSource path := by
  simp only [Naming.isToken_iff]
  constructor
  · intro tokens
    constructor
    · intro path listed
      rw [ModulePath.isTokenSource_iff_segments]
      by_cases nowhere : ModulePath.segments path = []
      · simp [nowhere]
      · -- The node may be that of another path with the same segments.
        obtain ⟨last, found⟩ := NamespaceTree.exists_lastAt listed
        have same := (NamespaceTree.of_lastAt found).2
        have carried : last ∈ (NamespaceTree.build target paths).carried := by
          rwa [NamespaceTree.mem_carried_build target paths (same ▸ nowhere), same]
        rw [← same, ← ModulePath.isTokenSource_iff_segments]
        exact tokens (.node last) (mem_mermaidNamings.mpr (.inl ⟨last, carried, rfl⟩))
    · intro group drawn path named
      exact tokens (.edgeEnd path) (mem_mermaidNamings.mpr (.inr (.inr ⟨group, drawn, path, named, rfl⟩)))
  · intro sources naming member
    rcases mem_mermaidNamings.mp member with node | namespaced | edgeEnd
    · obtain ⟨path, carried, rfl⟩ := node
      exact sources.1 path (NamespaceTree.proper_of_carried carried).1
    · obtain ⟨chain, opened, written⟩ := namespaced
      obtain ⟨_, path, listed, begins⟩ := (NamespaceTree.mem_namespaces_build target paths).mp opened
      have each : ∀ segment ∈ chain, IsTokenSource segment := fun segment among =>
        (ModulePath.isTokenSource_iff_segments path).mp (sources.1 path listed) segment (begins.1.subset among)
      rcases List.mem_cons.mp written with rfl | styled
      · exact ModulePath.isTokenSource_join each
      · split at styled
        · simp only [List.mem_map, Option.mem_toList] at styled
          obtain ⟨segment, last, rfl⟩ := styled
          exact each segment (List.mem_of_getLast? last)
        · cases styled
    · obtain ⟨group, drawn, path, named, rfl⟩ := edgeEnd
      exact sources.2 group drawn path named

/-- The identifiers in a text are tokens exactly if the paths have, besides separators and hyphens, only
characters of tokens: in DOT the segments that name clusters, in Mermaid the whole paths, those of the ends
of edges included. -/
theorem identifiers_tokens_iff (target : String) (paths : List String) (module : Module)
    (style : Option Style.Document) :
    let tree := NamespaceTree.build target paths
    (∀ format : Format, format.render module tree style = Stretch.joined (format.stretches module tree style)) ∧
    ((∀ naming ∈ Format.dot.namings module tree style, IsToken naming.identifier) ↔
      ∀ path ∈ paths, ∀ segment ∈ (ModulePath.segments path).dropLast, IsTokenSource segment) ∧
    ((∀ naming ∈ Format.mermaid.namings module tree style, IsToken naming.identifier) ↔
      (∀ path ∈ paths, IsTokenSource path) ∧
        ∀ group ∈ module.edgeGroups, ∀ path ∈ group.path :: group.dependencyNames, IsTokenSource path) := by
  intro tree
  refine ⟨fun format => format.render_eq_joined module tree style, ?_, ?_⟩
  · exact Format.dotNamings_tokens_iff target paths module style
  · exact Format.mermaidNamings_tokens_iff target paths module style

end Diagram

def Manifest.spaced : String := "[modules]\n\":a b:c\" = []\n"

/-- A blank in a segment is written into the name of its cluster. -/
theorem Resolver.generate_spaced : Manifest.parse Manifest.spaced "modules.toml" = .ok (.ofPairs [(":a b:c", [])]) ∧
    ModulePath.isValid ":a b:c" = true ∧
    ∃ diagram, ((Resolver.new (.ofPairs [(":a b:c", [])])).generate ":a b:c" .dot none).result = .ok diagram ∧
      diagram.content = "digraph \x7b\n\n\n\tsubgraph cluster_a b \x7b\n\t\tlabel = \"a b\";\n" ++
        "\t\ttooltip = \"a b\";\n\n\t\t\":a b:c\"\n\t\x7d\n\n\x7d" ∧
    ∃ naming ∈ Diagram.Format.dot.namings ⟨":a b:c", []⟩ (.build ":a b:c" [":a b:c"]) none,
      naming.identifier = "cluster_a b" ∧ ¬ ModulePath.IsToken naming.identifier := by
  refine ⟨by decide +kernel, by decide +kernel, _, rfl, ?_, .cluster "a b", ?_, by decide +kernel, by decide +kernel⟩
  · decide +kernel
  · decide +kernel

end DependencyDiagram
