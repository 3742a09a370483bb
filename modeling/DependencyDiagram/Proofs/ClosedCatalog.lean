import DependencyDiagram.Proofs.PackagePaths
import DependencyDiagram.Proofs.UnknownModules
import DependencyDiagram.Proofs.ValidPaths

/-!
Closed catalogs. Where everything that a known module depends on is known, nothing unknown can be reached, so
known modules resolve whatever has been asked before. Discovered packages are such a catalog, since they
depend on discovered packages only.
-/

namespace DependencyDiagram

namespace Catalog

/-- Known modules depend on known modules only. -/
def Closed (catalog : Catalog) : Prop :=
  ∀ path dependencies, catalog.dependencies? path = some dependencies →
    ∀ dependency ∈ dependencies, dependency ∈ catalog.paths

variable {catalog : Catalog} {source target : String}

theorem Closed.reaches (closed : catalog.Closed) (known : source ∈ catalog.paths)
    (reached : catalog.Reaches source target) : target ∈ catalog.paths := by
  cases reached with
  | refl => exact known
  | tail _ declares =>
    obtain ⟨declared, found, member⟩ := declares
    exact closed _ declared found target member

theorem Closed.firstUnknown_eq_none (closed : catalog.Closed) (known : source ∈ catalog.paths) :
    catalog.firstUnknown? source = none := by
  rw [← Option.not_isSome_iff_eq_none, firstUnknown_isSome_iff]
  rintro ⟨missing, reached, unknown⟩
  have present := dependencies?_isSome.mpr (closed.reaches known reached)
  rw [unknown] at present
  cases present

end Catalog

namespace Resolver

variable {catalog : Catalog} {resolver : Resolver} {target : String}

theorem Sound.resolve_closed (sound : resolver.Sound catalog) (closed : catalog.Closed)
    (known : target ∈ catalog.paths) : ∃ module, (resolver.resolve target).result = .ok module := by
  have fresh := resolve_new_result catalog target
  rw [closed.firstUnknown_eq_none known] at fresh
  rwa [(sound.resolve_agree (sound_new catalog) target).1]

/-- The only thing that can be wrong with a known module is its path. -/
theorem Sound.generate_closed (sound : resolver.Sound catalog) (closed : catalog.Closed)
    (known : target ∈ catalog.paths) (format : Diagram.Format) (style : Option Style.Document) :
    (ModulePath.isValid target = true → ∃ diagram, (resolver.generate target format style).result = .ok diagram) ∧
    (ModulePath.isValid target = false →
      (resolver.generate target format style).result = .error (.invalidPath target)) := by
  obtain ⟨module, resolved⟩ := sound.resolve_closed closed known
  refine ⟨fun valid => ?_, fun invalid => generate_of_not_isValid resolver invalid format style⟩
  rw [generate_of_isValid resolver valid, resolved]
  exact ⟨_, rfl⟩

end Resolver

namespace Package

variable {system : Files.System} {root : Files.Location} {filter : DependencyFilter} {survey : Survey}

/-- What a package depends on is a package of the same survey. -/
theorem mem_of_dependencies {package : Discovered} {target : String}
    (member : target ∈ dependencies system root filter survey package) :
    ∃ other ∈ survey.packages, other.modulePath = target := by
  obtain ⟨declared, _, leads⟩ := List.mem_filterMap.mp member
  obtain ⟨relative, _, arrives⟩ := Option.bind_eq_some_iff.mp leads
  split at arrives
  · cases arrives
  · obtain ⟨other, first, named⟩ := Option.map_eq_some_iff.mp arrives
    exact ⟨other, List.mem_of_find?_eq_some first, named⟩

theorem closed_sortedOfPairs (system : Files.System) (root : Files.Location) (filter : DependencyFilter)
    (survey : Survey) : (Catalog.sortedOfPairs (survey.packages.map fun package =>
      (package.modulePath, dependencies system root filter survey package))).Closed := by
  intro path listed found dependency member
  rw [Catalog.dependencies?_sortedOfPairs, List.lookup_eq_some_iff] at found
  obtain ⟨later, earlier, split, _⟩ := found
  have recorded : (path, listed) ∈ survey.packages.map fun package =>
      (package.modulePath, dependencies system root filter survey package) := by
    rw [← List.mem_reverse, split]
    simp
  obtain ⟨package, _, pair⟩ := List.mem_map.mp recorded
  obtain ⟨rfl, rfl⟩ := Prod.mk.inj pair
  obtain ⟨other, otherListed, named⟩ := mem_of_dependencies member
  rw [Catalog.mem_paths_sortedOfPairs, List.map_map]
  exact List.mem_map.mpr ⟨other, otherListed, named⟩

/-- Discovered packages depend on discovered packages, so each of them can be resolved at any time, and its
diagram can be drawn unless its path is refused. The file system is plain: it has no links, all of it can be
read, and its names are texts. -/
theorem discover_closed (system : Files.System) (path : String) (filter : DependencyFilter) (catalog : Catalog)
    (discovered : (discover system path filter).outcome = .ok catalog) :
    catalog.Closed ∧ ∀ calls, ∀ target ∈ catalog.paths,
      (∃ module, (((Resolver.new catalog).after calls).resolve target).result = .ok module) ∧
      ∀ format style,
        (ModulePath.isValid target = true →
          ∃ diagram, (((Resolver.new catalog).after calls).generate target format style).result = .ok diagram) ∧
        (ModulePath.isValid target = false →
          (((Resolver.new catalog).after calls).generate target format style).result = .error (.invalidPath target)) := by
  obtain ⟨root, _, discovered⟩ := discover_ok discovered
  obtain ⟨survey, _, recorded⟩ := discoverAt_ok discovered
  have closed : catalog.Closed := recorded ▸ closed_sortedOfPairs system root filter survey
  refine ⟨closed, fun calls target known => ?_⟩
  have sound := Resolver.sound_after catalog calls
  exact ⟨sound.resolve_closed closed known, sound.generate_closed closed known⟩

def namelessCatalog : Catalog := ⟨[⟨":", [":data"]⟩, ⟨":core", []⟩, ⟨":data", []⟩]⟩

/-- The package in the root has no name, so its module path has no segment. -/
theorem discover_nameless :
    (discover (workshop "") "." .includeAll).outcome = .ok namelessCatalog ∧
    (∃ module, (((Resolver.new namelessCatalog).after [.resolve ":gone"]).resolve ":").result = .ok module) ∧
    (((Resolver.new namelessCatalog).after [.resolve ":gone"]).generate ":" .dot none).result =
      .error (.invalidPath ":") ∧
    ∃ diagram, (((Resolver.new namelessCatalog).after [.resolve ":gone"]).generate ":core" .dot none).result =
      .ok diagram := by
  have discovered : (discover (workshop "") "." .includeAll).outcome = .ok namelessCatalog := by
    rw [discover_workshop]
    decide +kernel
  obtain ⟨_, answers⟩ := discover_closed (workshop "") "." .includeAll _ discovered
  obtain ⟨resolved, nameless⟩ := answers [.resolve ":gone"] ":" (by decide)
  obtain ⟨_, core⟩ := answers [.resolve ":gone"] ":core" (by decide)
  exact ⟨discovered, resolved, (nameless .dot none).2 (by decide +kernel), (core .dot none).1 (by decide +kernel)⟩

end Package

end DependencyDiagram
