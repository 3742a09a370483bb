import DependencyDiagram.Proofs.PackageEdges

/-!
Discovery under two filters. Which packages there are, and whether discovery fails, does not depend on the
filter. A filter that excludes more takes away the edges of those declarations that only it excludes, and no
others.
-/

namespace DependencyDiagram.Package

open Files (Location System)

/-- The filter excludes whatever the other one excludes. -/
def Stricter (filter wider : DependencyFilter) : Prop :=
  ∀ declared, ¬ Admits wider declared → ¬ Admits filter declared

theorem stricter_iff {filter wider : DependencyFilter} : Stricter filter wider ↔
    (wider.excludeDev = true → filter.excludeDev = true) ∧
    (wider.excludeBuild = true → filter.excludeBuild = true) ∧
    (wider.excludeTarget = true → filter.excludeTarget = true) := by
  constructor
  · intro stricter
    have excludes (kind : DependencyKind) (forTarget : Bool) :
        wider.admits kind forTarget = false → filter.admits kind forTarget = false := by
      have excluded := stricter ⟨"", .registry, kind, forTarget⟩
      simpa only [← admits_iff, Bool.not_eq_true] using excluded
    have dev := excludes .dev false
    have build := excludes .build false
    have target := excludes .normal true
    simp_all [DependencyFilter.admits, DependencyFilter.admitsKind, DependencyFilter.includesDev,
      DependencyFilter.includesBuild, DependencyFilter.includesTarget]
  · intro flags declared excluded admits
    obtain ⟨dev, build, target⟩ := flags
    have raised {flag wide : Bool} (raises : wide = true → flag = true) (lowered : flag = false) : wide = false :=
      Bool.eq_false_iff.mpr fun set => Bool.false_ne_true (lowered.symm.trans (raises set))
    exact excluded ⟨fun kind => raised dev (admits.dev kind), fun kind => raised build (admits.build kind),
      fun bound => raised target (admits.target bound)⟩

/-- Two lists of edges that some declarations give: all of them and, in the same order, those that are left
without the edges of declarations that are not kept. -/
inductive Thinned (leads : Declared → String → Prop) (keeps : Declared → Prop) :
    List Declared → List String → List String → Prop
  | nil : Thinned leads keeps [] [] []
  | kept {declared : Declared} {target : String} {rest : List Declared} {all left : List String}
      (found : leads declared target) (keep : keeps declared) (later : Thinned leads keeps rest all left) :
      Thinned leads keeps (declared :: rest) (target :: all) (target :: left)
  | removed {declared : Declared} {target : String} {rest : List Declared} {all left : List String}
      (found : leads declared target) (excluded : ¬ keeps declared) (later : Thinned leads keeps rest all left) :
      Thinned leads keeps (declared :: rest) (target :: all) left
  | none {declared : Declared} {rest : List Declared} {all left : List String}
      (nowhere : ∀ target, ¬ leads declared target) (later : Thinned leads keeps rest all left) :
      Thinned leads keeps (declared :: rest) all left

section Thinning

variable {leads : Declared → String → Prop} {keeps : Declared → Prop} {declarations : List Declared}
variable {all left : List String} {target : String}

theorem Thinned.sublist (thinned : Thinned leads keeps declarations all left) : left.Sublist all := by
  induction thinned with
  | nil => exact .slnil
  | kept found keep later ih => exact ih.cons_cons _
  | removed found excluded later ih => exact ih.cons _
  | none nowhere later ih => exact ih

/-- An edge is left exactly if some declaration of it is kept. -/
theorem Thinned.mem_iff (thinned : Thinned leads keeps declarations all left)
    (functional : ∀ declared first second, leads declared first → leads declared second → first = second) :
    target ∈ left ↔ ∃ declared ∈ declarations, keeps declared ∧ leads declared target := by
  induction thinned with
  | nil => simp
  | @kept declared other _ _ _ found keep later ih =>
    rw [List.mem_cons, List.exists_mem_cons_iff, ih]
    refine or_congr_left ⟨?_, fun ⟨_, leadsTo⟩ => functional declared target other leadsTo found⟩
    rintro rfl
    exact ⟨keep, found⟩
  | removed found excluded later ih =>
    rw [List.exists_mem_cons_iff, ih]
    exact (or_iff_right fun ⟨keep, _⟩ => excluded keep).symm
  | none nowhere later ih =>
    rw [List.exists_mem_cons_iff, ih]
    exact (or_iff_right fun ⟨_, leadsTo⟩ => nowhere target leadsTo).symm

/-- Where the module that a declaration leads to can be computed, the results for the declarations that two
filters admit are two such lists. -/
theorem thinned_filterMap {search : Declared → Option String}
    (search_iff : ∀ declared target, search declared = some target ↔ leads declared target)
    {filter wider : DependencyFilter} (stricter : Stricter filter wider) (declarations : List Declared) :
    Thinned (fun declared target => Admits wider declared ∧ leads declared target) (Admits filter) declarations
      ((declarations.filter fun declared => wider.admits declared.kind declared.forTarget).filterMap search)
      ((declarations.filter fun declared => filter.admits declared.kind declared.forTarget).filterMap search) := by
  induction declarations with
  | nil => exact .nil
  | cons declared rest ih =>
    by_cases admits : wider.admits declared.kind declared.forTarget = true
    · rw [List.filter_cons, if_pos admits]
      cases present : search declared with
      | none =>
        have nowhere (target : String) : ¬ leads declared target := fun leadsTo => by
          cases present.symm.trans ((search_iff declared target).mpr leadsTo)
        have unchanged : ((declared :: rest).filter fun declared =>
            filter.admits declared.kind declared.forTarget).filterMap search =
              (rest.filter fun declared => filter.admits declared.kind declared.forTarget).filterMap search := by
          rw [List.filter_cons]
          split
          · rw [List.filterMap_cons_none present]
          · rfl
        rw [List.filterMap_cons_none present, unchanged]
        exact .none (fun target edge => nowhere target edge.2) ih
      | some target =>
        have found := (search_iff declared target).mp present
        rw [List.filterMap_cons_some present]
        by_cases keep : filter.admits declared.kind declared.forTarget = true
        · rw [List.filter_cons, if_pos keep, List.filterMap_cons_some present]
          exact .kept ⟨admits_iff.mp admits, found⟩ (admits_iff.mp keep) ih
        · rw [List.filter_cons, if_neg keep]
          exact .removed ⟨admits_iff.mp admits, found⟩ (mt admits_iff.mpr keep) ih
    · have excluded : ¬ Admits wider declared := mt admits_iff.mpr admits
      have stillExcluded := mt admits_iff.mp (stricter declared excluded)
      rw [List.filter_cons, if_neg admits, List.filter_cons, if_neg stillExcluded]
      exact .none (fun _ edge => excluded edge.1) ih

end Thinning

section Discovery

variable {system : System} {root below : Location} {found : Survey} {description : Description} {path : String}

/-- The modules of a catalog are those that have been surveyed, whatever the filter. -/
theorem paths_toCatalog (filter wider : DependencyFilter) :
    (found.toCatalog system root filter).paths = (found.toCatalog system root wider).paths := by
  refine (Catalog.sorted_sortedOfPairs _).paths_eq (Catalog.sorted_sortedOfPairs _) fun path => ?_
  simp only [Survey.toCatalog, Catalog.mem_paths_sortedOfPairs, List.map_map]
  exact Iff.rfl

/-- A filter has no part in success. -/
theorem discover_succeeds_iff (system : System) (path : String) (filter wider : DependencyFilter) :
    (∃ catalog, (discover system path filter).outcome = .ok catalog) ↔
      ∃ catalog, (discover system path wider).outcome = .ok catalog := by
  rw [discover_outcome, discover_outcome]
  cases system.locate path with
  | error fault => simp
  | ok root =>
    dsimp only
    cases (survey system root (findManifests system root)).outcome <;> simp [Except.map]

theorem discover_fails_iff (system : System) (path : String) (filter wider : DependencyFilter)
    (failure : Failure) : (discover system path filter).outcome = .error failure ↔
      (discover system path wider).outcome = .error failure := by
  rw [discover_outcome, discover_outcome]
  cases system.locate path with
  | error fault => exact Iff.rfl
  | ok root =>
    dsimp only
    cases (survey system root (findManifests system root)).outcome <;> simp [Except.map]

theorem LeadsTo.functional (proper : system.tree.distinct = true)
    (ended : (survey system root (findManifests system root)).outcome = .ok found)
    (moduleAt : ModuleAt system root below description path) (declared : Declared) (first second : String)
    (left : LeadsTo system root below declared first) (right : LeadsTo system root below declared second) :
    first = second := by
  rw [← edge?_eq_some proper ended moduleAt] at left right
  exact Option.some.inj (left.symm.trans right)

theorem thinned_dependencies (proper : system.tree.distinct = true)
    (ended : (survey system root (findManifests system root)).outcome = .ok found)
    (moduleAt : ModuleAt system root below description path) {filter wider : DependencyFilter}
    (stricter : Stricter filter wider) :
    Thinned (fun declared target => Admits wider declared ∧ LeadsTo system root below declared target)
      (Admits filter) description.declared
      (dependencies system root wider found ⟨root ++ below, path, description⟩)
      (dependencies system root filter found ⟨root ++ below, path, description⟩) := by
  have search_iff (declared : Declared) (target : String) :
      edge? system found (found.enclosingWorkspace? root (root ++ below)) ⟨root ++ below, path, description⟩
        declared = some target ↔ LeadsTo system root below declared target :=
    edge?_eq_some proper ended moduleAt
  exact thinned_filterMap search_iff stricter description.declared

end Discovery

/-- Of two filters one of which excludes whatever the other one excludes, both fail alike and find the same
modules. Of a module's edges exactly those of declarations that only the stricter filter excludes are gone under
it, so an edge stays that any declaration gives which this filter admits. The file system is plain: both runs
find the same tree, without links and with nothing in it that cannot be read. -/
theorem discover_thins (system : System) (path : String) (filter wider : DependencyFilter)
    (proper : system.tree.distinct = true) (stricter : Stricter filter wider) :
    ((∃ catalog, (discover system path filter).outcome = .ok catalog) ↔
      ∃ catalog, (discover system path wider).outcome = .ok catalog) ∧
    (∀ failure, (discover system path filter).outcome = .error failure ↔
      (discover system path wider).outcome = .error failure) ∧
    ∀ catalog widerCatalog, (discover system path filter).outcome = .ok catalog →
      (discover system path wider).outcome = .ok widerCatalog →
      catalog.paths = widerCatalog.paths ∧ ∃ root, system.locate path = .ok root ∧
        ∀ name ∈ catalog.paths, ∃ below description all left, RecordedAs system root below description name ∧
          widerCatalog.dependencies? name = some all ∧ catalog.dependencies? name = some left ∧
          Thinned (fun declared target => Admits wider declared ∧ LeadsTo system root below declared target)
            (Admits filter) description.declared all left ∧ left.Sublist all ∧
          ∀ target, target ∈ left ↔ ∃ declared ∈ description.declared,
            Admits filter declared ∧ LeadsTo system root below declared target := by
  refine ⟨discover_succeeds_iff system path filter wider, discover_fails_iff system path filter wider, ?_⟩
  intro catalog widerCatalog discovered widerDiscovered
  obtain ⟨root, located, ended⟩ := discover_ok discovered
  obtain ⟨found, surveyed, rfl⟩ := discoverAt_ok ended
  rw [discover_outcome, located] at widerDiscovered
  dsimp only at widerDiscovered
  rw [surveyed] at widerDiscovered
  obtain rfl := Except.ok.inj widerDiscovered
  refine ⟨paths_toCatalog filter wider, root, located, fun name member => ?_⟩
  obtain ⟨below, description, recorded⟩ := (mem_paths_toCatalog proper surveyed filter).mp member
  have moduleAt := recorded.toModuleAt
  have thinned := thinned_dependencies proper surveyed moduleAt stricter
  refine ⟨below, description, _, _, recorded, dependencies?_toCatalog proper surveyed wider recorded,
    dependencies?_toCatalog proper surveyed filter recorded, thinned, thinned.sublist, fun target => ?_⟩
  refine (thinned.mem_iff fun declared first second left right =>
    LeadsTo.functional proper surveyed moduleAt declared first second left.2 right.2).trans ?_
  constructor
  · rintro ⟨declared, listed, keep, _, leadsTo⟩
    exact ⟨declared, listed, keep, leadsTo⟩
  · rintro ⟨declared, listed, keep, leadsTo⟩
    have admits : Admits wider declared := Classical.not_not.mp fun excluded => stricter declared excluded keep
    exact ⟨declared, listed, keep, admits, leadsTo⟩

/-- Without dependencies for development one of two equal edges is left. -/
theorem discover_inheriting_thinned :
    (discover inheriting "." ⟨true, false, false⟩).outcome = .ok ⟨[⟨":app", [":lib"]⟩, ⟨":lib", [":app"]⟩]⟩ ∧
    (discover inheriting "." .includeAll).outcome = .ok ⟨[⟨":app", [":lib", ":lib"]⟩, ⟨":lib", [":app"]⟩]⟩ ∧
    ∃ root below description, RecordedAs inheriting root below description ":app" ∧
      Thinned (fun declared target => Admits .includeAll declared ∧ LeadsTo inheriting root below declared target)
        (Admits ⟨true, false, false⟩) description.declared [":lib", ":lib"] [":lib"] := by
  obtain ⟨full, thin⟩ := inheriting_outcomes
  obtain ⟨_, _, both⟩ := discover_thins inheriting "." ⟨true, false, false⟩ .includeAll (by decide +kernel)
    (stricter_iff.mpr (by decide))
  obtain ⟨_, root, _, modules⟩ := both _ _ thin full
  obtain ⟨below, description, all, left, recorded, allListed, leftListed, thinned, _, _⟩ := modules ":app" (by decide)
  cases allListed
  cases leftListed
  exact ⟨thin, full, root, below, description, recorded, thinned⟩

end DependencyDiagram.Package
