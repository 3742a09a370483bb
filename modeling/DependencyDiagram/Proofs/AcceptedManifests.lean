import DependencyDiagram.Proofs.SortedCatalog
import DependencyDiagram.Proofs.TableKeys
import DependencyDiagram.Proofs.UnknownModules
import DependencyDiagram.Proofs.ValidPaths

/-!
Manifests that are accepted. The declarations of a manifest all come into its catalog, since none of them
repeats a path. What is accepted can only leave a dependency undeclared: no call for a declared module fails
in any other way.
-/

namespace DependencyDiagram

namespace Manifest

variable {declarations : List (String × List String)}

theorem keys_mapM {entries : Toml.Entries}
    (decoded : (entries.mapM fun (path, value) => (stringList? value).map (path, ·)) = some declarations) :
    declarations.map Prod.fst = entries.map Prod.fst := by
  induction entries generalizing declarations with
  | nil =>
    cases decoded
    rfl
  | cons entry rest ih =>
    rw [List.mapM_cons] at decoded
    obtain ⟨first, here, further⟩ := Option.bind_eq_some_iff.mp decoded
    obtain ⟨others, below, made⟩ := Option.bind_eq_some_iff.mp further
    obtain ⟨dependencies, _, rfl⟩ := Option.map_eq_some_iff.mp here
    cases made
    rw [List.map_cons, List.map_cons, ih below]

/-- A manifest that can be read declares no path twice. -/
theorem nodup_declarations {text : String} (decoded : (Toml.parse? text).bind declarations? = some declarations) :
    (declarations.map Prod.fst).Nodup := by
  obtain ⟨entries, parsed, further⟩ := Option.bind_eq_some_iff.mp decoded
  obtain ⟨modules, found, made⟩ := Option.bind_eq_some_iff.mp further
  split at made
  · cases made
    unfold Toml.optionalField at found
    split at found
    · cases found
      exact List.nodup_nil
    · next value listed =>
      obtain ⟨pairs, read, rfl⟩ := Option.map_eq_some_iff.mp found
      obtain ⟨before, behind, split, _⟩ := List.lookup_eq_some_iff.mp listed
      have keyed : value.Keyed := by
        cases Toml.parse?_keyed parsed with
        | table _ each => exact each ("modules", value) (by simp [split])
      cases keyed with
      | table distinct _ =>
        rw [Option.getD_some, keys_mapM read]
        exact distinct
      | string | integer | float | boolean | moment | array => cases read
  · cases made

end Manifest

namespace Catalog

theorem not_mem_paths_iff {catalog : Catalog} {path : String} :
    path ∉ catalog.paths ↔ catalog.dependencies? path = none := by
  rw [← dependencies?_isSome, Option.not_isSome_iff_eq_none]

theorem Declares.source_mem {catalog : Catalog} {source target : String} (declares : catalog.Declares source target) :
    source ∈ catalog.paths := by
  obtain ⟨declared, found, _⟩ := declares
  rw [← dependencies?_isSome, found]
  rfl

end Catalog

namespace Resolver

/-- A resolver of declarations only fails for a known module if one that is known needs one that is not. -/
theorem generate_known (catalog : Catalog) (calls : List Call) {target : String}
    (valid : ModulePath.isValid target = true) (known : target ∈ catalog.paths) (format : Diagram.Format)
    (style : Option Style.Document) :
    (∃ diagram, (((new catalog).after calls).generate target format style).result = .ok diagram) ∨
      ∃ source ∈ catalog.paths, ∃ missing, catalog.Declares source missing ∧ missing ∉ catalog.paths ∧
        (((new catalog).after calls).generate target format style).result =
          .error (.unknownModule missing catalog.paths) := by
  rw [generate_of_isValid _ valid, ((sound_after catalog calls).resolve_agree (sound_new catalog) target).1]
  have fresh := resolve_new_result catalog target
  cases found : catalog.firstUnknown? target with
  | none =>
    rw [found] at fresh
    obtain ⟨module, resolved⟩ := fresh
    rw [resolved]
    exact .inl ⟨_, rfl⟩
  | some missing =>
    rw [found] at fresh
    obtain ⟨reached, unknown⟩ := Catalog.reaches_firstUnknown found
    have absent := Catalog.not_mem_paths_iff.mpr unknown
    -- The target is known, so the way to the missing module has a last step.
    cases reached with
    | refl => exact absurd known absent
    | @tail source _ _ declares =>
      refine .inr ⟨source, declares.source_mem, missing, declares, absent, ?_⟩
      rw [fresh]
      rfl

end Resolver

/-- A text that declares modules is accepted exactly if all paths in it are valid. Its catalog lists the
declarations sorted by path, the first invalid one is reported, and no call on a resolver of the catalog,
whatever was called before, fails for a listed module except for a dependency that is not listed. -/
theorem Manifest.parse_accepts_iff (text name : String) (declarations : List (String × List String))
    (decoded : (Toml.parse? text).bind declarations? = some declarations) :
    ((∃ catalog, parse text name = .ok catalog) ↔
      ∀ pair ∈ declarations, ∀ path ∈ pair.1 :: pair.2, ModulePath.isValid path = true) ∧
    (∃ listed : Catalog, listed.Sorted ∧
      listed.declarations.Perm (declarations.map fun pair => ⟨pair.1, pair.2⟩) ∧
      parse text name = checked listed) ∧
    ∀ catalog, parse text name = .ok catalog → ∀ target ∈ catalog.paths, ∀ calls format style,
      (∃ diagram, (((Resolver.new catalog).after calls).generate target format style).result = .ok diagram) ∨
        ∃ source ∈ catalog.paths, ∃ missing, catalog.Declares source missing ∧ missing ∉ catalog.paths ∧
          (((Resolver.new catalog).after calls).generate target format style).result =
            .error (.unknownModule missing catalog.paths) := by
  have listed := Catalog.perm_sortedOfPairs declarations (nodup_declarations decoded)
  have parsed : parse text name = checked (.sortedOfPairs declarations) := by
    unfold parse
    rw [decoded, ← catalogOf_eq]
  refine ⟨?_, ⟨_, Catalog.sorted_sortedOfPairs declarations, listed, parsed⟩, ?_⟩
  · have valid_iff : (Catalog.sortedOfPairs declarations).Valid ↔
        ∀ pair ∈ declarations, ∀ path ∈ pair.1 :: pair.2, ModulePath.isValid path = true := by
      simp only [Catalog.Valid, listed.mem_iff, List.forall_mem_map]
    rw [parsed, ← valid_iff, ← Catalog.firstInvalid?_eq_none_iff, checked]
    cases Catalog.firstInvalid? _ <;> simp
  · intro catalog accepted target known calls format style
    obtain ⟨declaration, member, rfl⟩ := List.mem_map.mp known
    have valid := parse_valid accepted declaration member _ List.mem_cons_self
    exact Resolver.generate_known catalog calls valid known format style

/-- Two modules that need each other, one of them repeatedly, and an undeclared one. -/
def Manifest.dangling : String := "[modules]\n\":b\" = [\":a\", \":lost\", \":a\"]\n\":a\" = [\":b\"]\n"

theorem Manifest.parse_dangling : (Toml.parse? dangling).bind declarations? =
      some [(":b", [":a", ":lost", ":a"]), (":a", [":b"])] ∧
    ∃ catalog, parse dangling "modules.toml" = .ok catalog ∧
      ∃ source ∈ catalog.paths, ∃ missing, catalog.Declares source missing ∧ missing ∉ catalog.paths ∧
        (((Resolver.new catalog).after [.resolve ":b"]).generate ":a" .dot none).result =
          .error (.unknownModule missing catalog.paths) := by
  have decoded : (Toml.parse? dangling).bind declarations? =
      some [(":b", [":a", ":lost", ":a"]), (":a", [":b"])] := by decide +kernel
  have accepted : parse dangling "modules.toml" =
      .ok ⟨[⟨":a", [":b"]⟩, ⟨":b", [":a", ":lost", ":a"]⟩]⟩ := by decide +kernel
  refine ⟨decoded, _, accepted, ?_⟩
  obtain ⟨_, _, only⟩ := parse_accepts_iff dangling "modules.toml" _ decoded
  rcases only _ accepted ":a" (by decide) [.resolve ":b"] .dot none with ⟨diagram, drawn⟩ | failed
  · cases drawn
  · exact failed

end DependencyDiagram
