import DependencyDiagram.Proofs.AcceptedManifests
import DependencyDiagram.Proofs.ByteOrder
import DependencyDiagram.Proofs.ClosedCatalog
import DependencyDiagram.Proofs.RegisteredModules

/-!
Catalogs as their users see them: a list of paths and an answer for each path. However a catalog has come
about, it lists no path twice and answers for exactly those that it lists. Hence no failure offers the module
that is missing.
-/

namespace DependencyDiagram

namespace Resolver

def failing {α : Type} : Except Failure α → List Failure
  | .ok _ => []
  | .error failure => [failure]

/-- The failures that a call reports. Of many diagrams each may fail by itself. -/
def Call.failures (resolver : Resolver) : Call → List Failure
  | .resolve path => failing (resolver.resolve path).result
  | .directDependencies path => failing (resolver.directDependencies path).result
  | .resolveTarget target => failing (resolver.resolveTarget target).result
  | .generate target format style => failing (resolver.generate target format style).result
  | .generateAll targets format style =>
    (Resolver.generateAll format style resolver targets).2.flatMap fun drawn => failing drawn.2

variable {catalog : Catalog} {resolver : Resolver}

theorem mem_failing {α : Type} {result : Except Failure α} {failure : Failure} :
    failure ∈ failing result ↔ result = .error failure := by
  cases result <;> simp [failing, eq_comm]

/-- A resolution fails only for a path that is not known, and lists those that are. -/
theorem Sound.resolve_refusal (sound : resolver.Sound catalog) {path : String} {failure : Failure}
    (failed : (resolver.resolve path).result = .error failure) :
    ∃ missing, failure = .unknownModule missing catalog.paths ∧ catalog.dependencies? missing = none := by
  have fresh := resolve_new_result catalog path
  rw [← (sound.resolve_agree (sound_new catalog) path).1, failed] at fresh
  cases found : catalog.firstUnknown? path with
  | none =>
    rw [found] at fresh
    obtain ⟨module, resolved⟩ := fresh
    cases resolved
  | some missing =>
    rw [found] at fresh
    exact ⟨missing, Except.error.inj fresh, (Catalog.reaches_firstUnknown found).2⟩

theorem Sound.generate_refusal (sound : resolver.Sound catalog) {target missing : String} {available : List String}
    {format : Diagram.Format} {style : Option Style.Document}
    (failed : (resolver.generate target format style).result = .error (.unknownModule missing available)) :
    available = catalog.paths ∧ catalog.dependencies? missing = none := by
  cases valid : ModulePath.isValid target with
  | false =>
    rw [generate_of_not_isValid resolver valid] at failed
    cases failed
  | true =>
    rw [generate_of_isValid resolver valid] at failed
    cases resolved : (resolver.resolve target).result with
    | ok module =>
      rw [resolved] at failed
      cases failed
    | error failure =>
      rw [resolved] at failed
      obtain ⟨other, named, unknown⟩ := sound.resolve_refusal resolved
      cases named.symm.trans (Except.error.inj failed)
      exact ⟨rfl, unknown⟩

/-- Whatever a call is for, it reports only unknown paths as missing. -/
theorem Sound.failures_unknown (sound : resolver.Sound catalog) {call : Call} {missing : String}
    {available : List String} (reported : .unknownModule missing available ∈ call.failures resolver) :
    available = catalog.paths ∧ catalog.dependencies? missing = none := by
  cases call with
  | resolve path =>
    obtain ⟨other, named, unknown⟩ := sound.resolve_refusal (mem_failing.mp reported)
    cases named
    exact ⟨rfl, unknown⟩
  | directDependencies path =>
    obtain ⟨unasked, named⟩ := sound.grounded.refusal (mem_failing.mp reported)
    cases named
    exact ⟨rfl, Option.map_eq_none_iff.mp unasked⟩
  | resolveTarget target =>
    have failed := mem_failing.mp reported
    unfold Resolver.resolveTarget ModulePath.validate at failed
    split at failed
    · obtain ⟨other, named, unknown⟩ := sound.resolve_refusal failed
      cases named
      exact ⟨rfl, unknown⟩
    · next invalid =>
      split at invalid
      · cases invalid
      · cases Except.error.inj invalid
        cases failed
  | generate target format style => exact sound.generate_refusal (mem_failing.mp reported)
  | generateAll targets format style =>
    rw [Call.failures, sound.generateAll_agree (sound_new catalog), List.flatMap_map] at reported
    obtain ⟨target, _, failed⟩ := List.mem_flatMap.mp reported
    exact (sound_new catalog).generate_refusal (mem_failing.mp failed)

end Resolver

namespace Catalog

/-- What a catalog lists and what it answers fit together. -/
structure Coherent (catalog : Catalog) : Prop where
  distinct : catalog.paths.Nodup
  contains_iff : ∀ path, catalog.contains path = true ↔ path ∈ catalog.paths
  answers_iff : ∀ path, (∃ dependencies, catalog.dependencies? path = some dependencies) ↔ path ∈ catalog.paths
  /-- The module that a failure misses is not among those that it offers. -/
  unavailable : ∀ calls call missing available,
    .unknownModule missing available ∈ Resolver.Call.failures ((Resolver.new catalog).after calls) call →
      available = catalog.paths ∧ missing ∉ available

theorem coherent_of_nodup {catalog : Catalog} (distinct : catalog.paths.Nodup) : catalog.Coherent where
  distinct := distinct
  contains_iff _ := dependencies?_isSome
  answers_iff _ := by rw [← dependencies?_isSome, Option.isSome_iff_exists]
  unavailable calls call missing available reported := by
    obtain ⟨rfl, unknown⟩ := (Resolver.sound_after catalog calls).failures_unknown reported
    exact ⟨rfl, not_mem_paths_iff.mpr unknown⟩

/-- Each path is smaller than those after it when their bytes are compared. -/
def Ascending (catalog : Catalog) : Prop :=
  (catalog.paths.map Text.bytes).Pairwise (· < ·)

theorem Sorted.ascending {catalog : Catalog} (sorted : catalog.Sorted) : catalog.Ascending := by
  rw [Ascending, List.pairwise_map]
  exact List.Pairwise.imp Text.bytes_lt_bytes_iff.mpr sorted

end Catalog

theorem Manifest.parse_sorted {text name : String} {catalog : Catalog} (parsed : parse text name = .ok catalog) :
    catalog.Sorted := by
  unfold parse at parsed
  split at parsed
  · cases parsed
  · rw [catalogOf_eq, checked] at parsed
    split at parsed
    · cases parsed
      exact Catalog.sorted_sortedOfPairs _
    · cases parsed

theorem Package.discover_sorted {system : Files.System} {path : String} {filter : DependencyFilter}
    {catalog : Catalog} (discovered : (discover system path filter).outcome = .ok catalog) : catalog.Sorted := by
  obtain ⟨root, _, ended⟩ := discover_ok discovered
  obtain ⟨found, _, rfl⟩ := discoverAt_ok ended
  exact Catalog.sorted_sortedOfPairs _

/-- Catalogs are coherent. A register of declared modules keeps its two parts in step, and the catalog that it
stands for lists the modules in the order of their first declaration, each with the dependencies that were
declared last; those of manifests and packages are listed in ascending order. Packages are discovered in a
plain file system, so directories have texts as names. -/
theorem Catalog.coherent :
    (∀ pairs further, ((Register.ofPairs pairs).declareAll further).InStep ∧
      ((Register.ofPairs pairs).declareAll further).Mirrors ((ofPairs pairs).declareAll further) ∧
      ((Register.ofPairs pairs).declareAll further).catalog = (ofPairs pairs).declareAll further ∧
      ((Register.ofPairs pairs).declareAll further).size = ((ofPairs pairs).declareAll further).size ∧
      ((ofPairs pairs).declareAll further).Coherent ∧
      ((ofPairs pairs).declareAll further).paths = ((pairs ++ further).map Prod.fst).eraseDups ∧
      ((ofPairs pairs).declareAll further).size = ((pairs ++ further).map Prod.fst).eraseDups.length ∧
      ∀ path, ((ofPairs pairs).declareAll further).dependencies? path = (pairs ++ further).reverse.lookup path) ∧
    (∀ text name catalog, Manifest.parse text name = .ok catalog → catalog.Coherent ∧ catalog.Ascending) ∧
    (∀ system path filter catalog, (Package.discover system path filter).outcome = .ok catalog →
      catalog.Coherent ∧ catalog.Ascending) := by
  refine ⟨fun pairs further => ?_, ?_, ?_⟩
  · have once : (ofPairs pairs).declareAll further = empty.declareAll (pairs ++ further) := by
      rw [declareAll, declareAll, List.foldl_append, ofPairs]
    have paths := paths_declareAll (pairs ++ further) empty [] rfl
    rw [List.nil_append] at paths
    have registered : (Register.ofPairs pairs).declareAll further = Register.empty.declareAll (pairs ++ further) :=
      List.foldl_append.symm
    obtain ⟨inStep, mirrors⟩ := Register.declareAll_inStep (pairs ++ further) Register.inStep_empty
      Register.mirrors_empty
    rw [once, registered]
    refine ⟨inStep, mirrors, mirrors.catalog_eq inStep, ?_, coherent_of_nodup ?_, paths, ?_, fun path => ?_⟩
    · rw [Register.size, ← Array.length_toList]
      exact (congrArg List.length mirrors.paths).trans (List.length_map _)
    · rw [paths]
      exact Resolver.nodup_eraseDups _
    · rw [← paths, Catalog.paths, List.length_map, size]
    · rw [declareAll, dependencies?_foldl fun catalog pair path => dependencies?_declare catalog pair.1 pair.2 path]
      exact Option.or_none
  · intro text name catalog parsed
    have sorted := Manifest.parse_sorted parsed
    exact ⟨coherent_of_nodup sorted.nodup, sorted.ascending⟩
  · intro system path filter catalog discovered
    have sorted := Package.discover_sorted discovered
    exact ⟨coherent_of_nodup sorted.nodup, sorted.ascending⟩

/-- A module that is declared twice, a manifest that leaves a dependency undeclared, and packages of which two
share a module path. -/
theorem Catalog.coherent_samples :
    (((Register.ofPairs [(":b", [":a"]), (":a", [])]).declareAll [(":b", [":b"])]).paths = [":b", ":a"] ∧
      ((Register.ofPairs [(":b", [":a"]), (":a", [])]).declareAll [(":b", [":b"])]).contains ":c" = false) ∧
    ((ofPairs [(":b", [":a"]), (":a", [])]).declareAll [(":b", [":b"])]).paths = [":b", ":a"] ∧
    ((ofPairs [(":b", [":a"]), (":a", [])]).declareAll [(":b", [":b"])]).dependencies? ":b" = some [":b"] ∧
    (∃ catalog, Manifest.parse Manifest.dangling "modules.toml" = .ok catalog ∧
      catalog.Coherent ∧ catalog.Ascending ∧
      .unknownModule ":lost" catalog.paths ∈
        Resolver.Call.failures ((Resolver.new catalog).after [.resolve ":b"]) (.generateAll [":a", ":b"] .dot none) ∧
      ":lost" ∉ catalog.paths) ∧
    ∃ catalog, (Package.discover (Package.workshop "core") "." .includeAll).outcome = .ok catalog ∧
      catalog.Coherent ∧ catalog.Ascending := by
  obtain ⟨declared, manifests, packages⟩ := Catalog.coherent
  obtain ⟨inStep, mirrors, _, _, _, paths, _, last⟩ := declared [(":b", [":a"]), (":a", [])] [(":b", [":b"])]
  have listed := paths.trans (by decide : _ = [":b", ":a"])
  have registered := mirrors.paths.trans listed
  have accepted : Manifest.parse Manifest.dangling "modules.toml" =
      .ok ⟨[⟨":a", [":b"]⟩, ⟨":b", [":a", ":lost", ":a"]⟩]⟩ := by decide +kernel
  have discovered : (Package.discover (Package.workshop "core") "." .includeAll).outcome =
      .ok ⟨[⟨":core", []⟩, ⟨":data", []⟩]⟩ := by
    rw [Package.discover_workshop]
    decide +kernel
  obtain ⟨coherent, ascending⟩ := manifests _ _ _ accepted
  have reported : .unknownModule ":lost" [":a", ":b"] ∈ Resolver.Call.failures
      ((Resolver.new ⟨[⟨":a", [":b"]⟩, ⟨":b", [":a", ":lost", ":a"]⟩]⟩).after [.resolve ":b"])
      (.generateAll [":a", ":b"] .dot none) := by decide +kernel
  have unknown := (inStep.mem_iff ":c").not.mp (by rw [registered]; decide)
  refine ⟨⟨registered, Bool.not_eq_true _ ▸ unknown⟩, listed, (last ":b").trans (by decide), ?_, ?_⟩
  · exact ⟨_, accepted, coherent, ascending, reported, (coherent.unavailable _ _ _ _ reported).2⟩
  · exact ⟨_, discovered, packages _ _ _ _ discovered⟩

end DependencyDiagram
