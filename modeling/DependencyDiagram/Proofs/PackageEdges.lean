import DependencyDiagram.Proofs.EnclosingWorkspace

/-!
Dependencies of packages. A package's dependencies are the modules that its admitted declarations lead to, in
the order of the declarations and as often as they are declared. Where packages share a module path, those of
the package whose manifest comes last are recorded.
-/

namespace DependencyDiagram.Package

open Files (Location System)

/-- Where a declared dependency is looked for: a path and the directory it is relative to. A dependency that
is inherited is looked for where the workspace around the package has it. -/
inductive PointsTo (system : System) (root below : Location) (declared : Declared) : Location → String → Prop
  | own {path : String} (direct : declared.dependency.inherited = false)
      (path_eq : declared.dependency.path = some path) : PointsTo system root below declared (root ++ below) path
  | inherited {above : Location} {table : DependencyTable} {path : String}
      (inherits : declared.dependency.inherited = true) (encloses : Encloses system root below above table)
      (offers : Offers table declared.name path) : PointsTo system root below declared (root ++ above) path

/-- A package with its module path. -/
structure ModuleAt (system : System) (root below : Location) (description : Description) (path : String) : Prop
    extends PackageAt system root below description where
  path_eq : modulePath? root (root ++ below) description = some path

/-- A dependency that is declared by the package in `below` leads to the directory of a package, which has
this module path. -/
def LeadsTo (system : System) (root below : Location) (declared : Declared) (target : String) : Prop :=
  ∃ base path there description, PointsTo system root below declared base path ∧
    system.locateFrom base path = .ok (root ++ there) ∧ ModuleAt system root there description target

/-- No reason for which the filter excludes dependencies applies. -/
structure Admits (filter : DependencyFilter) (declared : Declared) : Prop where
  dev : declared.kind = .dev → filter.excludeDev = false
  build : declared.kind = .build → filter.excludeBuild = false
  target : declared.forTarget = true → filter.excludeTarget = false

/-- The edges that some declarations give: in order, the module to which each one leads that leads to any. -/
inductive EdgesOf (leads : Declared → String → Prop) : List Declared → List String → Prop
  | nil : EdgesOf leads [] []
  | edge {declared : Declared} {target : String} {rest : List Declared} {targets : List String}
      (found : leads declared target) (later : EdgesOf leads rest targets) :
      EdgesOf leads (declared :: rest) (target :: targets)
  | none {declared : Declared} {rest : List Declared} {targets : List String}
      (nowhere : ∀ target, ¬ leads declared target) (later : EdgesOf leads rest targets) :
      EdgesOf leads (declared :: rest) targets

/-- Of all packages with its module path this one's manifest comes last. -/
structure RecordedAs (system : System) (root below : Location) (description : Description) (path : String) : Prop
    extends ModuleAt system root below description path where
  last : ∀ other otherDescription, ModuleAt system root other otherDescription path →
    notAfter (root ++ other ++ [manifestName]) (root ++ below ++ [manifestName]) = true

/-- The declarations of one kind, those for all targets before those for single ones. -/
def Description.declaredAs (description : Description) (kind : DependencyKind) : List Declared :=
  declaredIn kind false description.sections ++ description.targets.flatMap fun target => declaredIn kind true target.2

theorem Description.declared_eq (description : Description) : description.declared =
    description.declaredAs .normal ++ description.declaredAs .build ++ description.declaredAs .dev := by
  simp [declared, declaredAs]

theorem admits_iff {filter : DependencyFilter} {declared : Declared} :
    filter.admits declared.kind declared.forTarget = true ↔ Admits filter declared := by
  have kind_iff : filter.admitsKind declared.kind = true ↔
      (declared.kind = .dev → filter.excludeDev = false) ∧ (declared.kind = .build → filter.excludeBuild = false) := by
    cases declared.kind <;>
      simp [DependencyFilter.admitsKind, DependencyFilter.includesDev, DependencyFilter.includesBuild]
  have target_iff : (!declared.forTarget || filter.includesTarget) = true ↔
      (declared.forTarget = true → filter.excludeTarget = false) := by
    cases declared.forTarget <;> simp [DependencyFilter.includesTarget]
  rw [DependencyFilter.admits, Bool.and_eq_true, kind_iff, target_iff]
  exact ⟨fun ⟨⟨dev, build⟩, target⟩ => ⟨dev, build, target⟩, fun ⟨dev, build, target⟩ => ⟨⟨dev, build⟩, target⟩⟩

/-- Where the module that a declaration leads to can be computed, the edges are the results in order. -/
theorem edgesOf_iff {leads : Declared → String → Prop} {search : Declared → Option String}
    (search_iff : ∀ declared target, search declared = some target ↔ leads declared target)
    {declarations : List Declared} {targets : List String} :
    EdgesOf leads declarations targets ↔ declarations.filterMap search = targets := by
  constructor
  · intro edges
    induction edges with
    | nil => rfl
    | edge found later ih => rw [List.filterMap_cons_some ((search_iff _ _).mpr found), ih]
    | none nowhere later ih =>
      have absent := Option.eq_none_iff_forall_ne_some.mpr fun target present =>
        nowhere target ((search_iff _ target).mp present)
      rw [List.filterMap_cons_none absent, ih]
  · rintro rfl
    induction declarations with
    | nil => exact .nil
    | cons declared rest ih =>
      rw [List.filterMap_cons]
      cases present : search declared with
      | none => exact .none (fun target leadsTo => by cases present.symm.trans ((search_iff _ _).mpr leadsTo)) ih
      | some target => exact .edge ((search_iff declared target).mp present) ih

theorem EdgesOf.congr {leads others : Declared → String → Prop} {declarations : List Declared} {targets : List String}
    (edges : EdgesOf leads declarations targets)
    (same : ∀ declared ∈ declarations, ∀ target, leads declared target ↔ others declared target) :
    EdgesOf others declarations targets := by
  induction edges with
  | nil => exact .nil
  | edge found later ih =>
    obtain ⟨here, below⟩ := List.forall_mem_cons.mp same
    exact .edge ((here _).mp found) (ih below)
  | none nowhere later ih =>
    obtain ⟨here, below⟩ := List.forall_mem_cons.mp same
    exact .none (fun target leadsTo => nowhere target ((here target).mpr leadsTo)) (ih below)

section Order

variable {first second third : Location}

theorem notAfter_refl (location : Location) : notAfter location location = true := by
  induction location with
  | nil => rfl
  | cons name rest ih => rwa [notAfter, if_pos rfl]

theorem notAfter_trans (before : notAfter first second = true) (after : notAfter second third = true) :
    notAfter first third = true := by
  induction first generalizing second third with
  | nil => rfl
  | cons name rest ih =>
    cases second with
    | nil => cases before
    | cons other others =>
      cases third with
      | nil => cases after
      | cons last lasts =>
        rw [notAfter] at before after ⊢
        by_cases same : name = other
        · subst same
          rw [if_pos rfl] at before
          by_cases equal : name = last
          · rw [if_pos equal] at after ⊢
            exact ih before after
          · rwa [if_neg equal] at after ⊢
        · rw [if_neg same, decide_eq_true_eq] at before
          by_cases equal : other = last
          · subst equal
            rwa [if_neg same, decide_eq_true_eq]
          · rw [if_neg equal, decide_eq_true_eq] at after
            have smaller := String.lt_trans before after
            have different : name ≠ last := fun equal => String.lt_irrefl _ (equal ▸ smaller)
            rwa [if_neg different, decide_eq_true_eq]

theorem notAfter_total (first second : Location) : (notAfter first second || notAfter second first) = true := by
  induction first generalizing second with
  | nil => rfl
  | cons name rest ih =>
    cases second with
    | nil => rfl
    | cons other others =>
      rw [notAfter, notAfter]
      by_cases same : name = other
      · subst same
        rw [if_pos rfl, if_pos rfl]
        exact ih others
      · rw [if_neg same, if_neg (Ne.symm same), Bool.or_eq_true, decide_eq_true_eq, decide_eq_true_eq]
        rcases Decidable.em (name < other) with smaller | notSmaller
        · exact .inl smaller
        · exact .inr (Std.lt_of_le_of_ne (String.not_lt.mp notSmaller) (Ne.symm same))

theorem notAfter_antisymm (before : notAfter first second = true) (after : notAfter second first = true) :
    first = second := by
  induction first generalizing second with
  | nil =>
    cases second with
    | nil => rfl
    | cons other others => cases after
  | cons name rest ih =>
    cases second with
    | nil => cases before
    | cons other others =>
      rw [notAfter] at before after
      by_cases same : name = other
      · subst same
        rw [if_pos rfl] at before after
        rw [ih before after]
      · rw [if_neg same, decide_eq_true_eq] at before
        rw [if_neg (Ne.symm same), decide_eq_true_eq] at after
        exact absurd (String.lt_trans before after) (String.lt_irrefl name)

theorem notAfter_append (root first second : Location) :
    notAfter (root ++ first) (root ++ second) = notAfter first second := by
  induction root with
  | nil => rfl
  | cons name root ih => rw [List.cons_append, List.cons_append, notAfter, if_pos rfl, ih]

theorem pairwise_findManifests (system : System) (root : Location) :
    (findManifests system root).Pairwise (notAfter · · = true) := by
  unfold findManifests
  split
  · exact .nil
  · split
    · exact .nil
    · split
      · exact List.pairwise_singleton _ _
      · exact .nil
    · exact @List.pairwise_mergeSort Location notAfter (fun _ _ _ => notAfter_trans) notAfter_total _

end Order

section Edges

variable {system : System} {root below : Location} {filter : DependencyFilter} {found : Survey}
variable {description : Description} {path target : String}

theorem Surveys.mem_packages_iff (surveys : Surveys system root found) :
    ⟨root ++ below, path, description⟩ ∈ found.packages ↔ ModuleAt system root below description path := by
  rw [surveys.package_iff]
  constructor
  · rintro ⟨other, placed, isPackage, named⟩
    obtain rfl := List.append_cancel_left placed
    exact ⟨isPackage, named⟩
  · intro moduleAt
    exact ⟨below, rfl, moduleAt.toPackageAt, moduleAt.path_eq⟩

theorem Surveys.moduleAt (surveys : Surveys system root found) {package : Discovered}
    (member : package ∈ found.packages) : ∃ below, package.directory = root ++ below ∧
      ModuleAt system root below package.description package.modulePath := by
  obtain ⟨below, placed, isPackage, named⟩ := (surveys.package_iff package).mp member
  exact ⟨below, placed, isPackage, placed ▸ named⟩

theorem Surveys.packageAt?_eq_some (surveys : Surveys system root found) {location : Location} :
    found.packageAt? location = some target ↔
      ∃ there description, location = root ++ there ∧ ModuleAt system root there description target := by
  unfold Survey.packageAt?
  rw [Option.map_eq_some_iff]
  constructor
  · rintro ⟨package, first, rfl⟩
    obtain ⟨there, placed, moduleAt⟩ := surveys.moduleAt (List.mem_of_find?_eq_some first)
    have directory : package.directory = location := by simpa using List.find?_some first
    exact ⟨there, package.description, directory.symm.trans placed, moduleAt⟩
  · rintro ⟨there, description, rfl, moduleAt⟩
    have member := surveys.mem_packages_iff.mpr moduleAt
    obtain ⟨package, first⟩ := Option.isSome_iff_exists.mp
      (List.find?_isSome.mpr ⟨_, member, beq_self_eq_true _⟩ :
        (found.packages.find? (·.directory == root ++ there)).isSome = true)
    have directory : package.directory = root ++ there := by simpa using List.find?_some first
    have same := List.inj_on_of_nodup_map surveys.distinct (List.mem_of_find?_eq_some first) member directory
    exact ⟨package, first, by rw [same]⟩

/-- A declaration is followed to where it points. -/
theorem locationOf?_eq_some (proper : system.tree.distinct = true)
    (ended : (survey system root (findManifests system root)).outcome = .ok found)
    (moduleAt : ModuleAt system root below description path) {declared : Declared} {base : Location} {text : String} :
    locationOf? (found.enclosingWorkspace? root (root ++ below)) ⟨root ++ below, path, description⟩ declared =
      some ⟨base, text⟩ ↔ PointsTo system root below declared base text := by
  have encloses_iff (workspace : Workspace) :
      found.enclosingWorkspace? root (root ++ below) = some workspace ↔ ∃ above table,
        Encloses system root below above table ∧ workspace = ⟨root ++ above, offeredPaths table⟩ :=
    enclosingWorkspace?_eq_some proper ended moduleAt.rootEntered moduleAt.entered
  unfold locationOf?
  by_cases inherits : declared.dependency.inherited = true
  · simp only [inherits, if_true, bind, Option.bind_eq_some_iff, Option.some.injEq, RelativePath.mk.injEq]
    constructor
    · rintro ⟨workspace, enclosing, offered, listed, rfl, rfl⟩
      obtain ⟨above, table, encloses, rfl⟩ := (encloses_iff workspace).mp enclosing
      exact .inherited inherits encloses (lookup_offeredPaths.mp listed)
    · rintro (⟨direct, _⟩ | ⟨_, encloses, offers⟩)
      · cases inherits.symm.trans direct
      · exact ⟨_, (encloses_iff _).mpr ⟨_, _, encloses, rfl⟩, _, lookup_offeredPaths.mpr offers, rfl, rfl⟩
  · have direct : declared.dependency.inherited = false := by simpa using inherits
    simp only [direct, Bool.false_eq_true, if_false, Option.map_eq_some_iff, RelativePath.mk.injEq]
    constructor
    · rintro ⟨_, present, rfl, rfl⟩
      exact .own direct present
    · rintro (⟨_, present⟩ | ⟨inherits, _, _⟩)
      · exact ⟨_, present, rfl, rfl⟩
      · cases inherits.symm.trans direct

theorem edge?_eq_some (proper : system.tree.distinct = true)
    (ended : (survey system root (findManifests system root)).outcome = .ok found)
    (moduleAt : ModuleAt system root below description path) {declared : Declared} :
    edge? system found (found.enclosingWorkspace? root (root ++ below)) ⟨root ++ below, path, description⟩ declared =
      some target ↔ LeadsTo system root below declared target := by
  unfold edge? LeadsTo
  rw [Option.bind_eq_some_iff]
  constructor
  · rintro ⟨⟨base, text⟩, points, arrives⟩
    cases located : system.locateFrom base text with
    | error fault => simp [located] at arrives
    | ok location =>
      simp only [located] at arrives
      obtain ⟨there, other, rfl, otherAt⟩ := (surveys proper ended).packageAt?_eq_some.mp arrives
      exact ⟨base, text, there, other, (locationOf?_eq_some proper ended moduleAt).mp points, located, otherAt⟩
  · rintro ⟨base, text, there, other, points, located, otherAt⟩
    refine ⟨⟨base, text⟩, (locationOf?_eq_some proper ended moduleAt).mpr points, ?_⟩
    simp only [located]
    exact (surveys proper ended).packageAt?_eq_some.mpr ⟨there, other, rfl, otherAt⟩

/-- The dependency list of a package has an edge for each admitted declaration that leads to a package. -/
theorem dependencies_eq_iff (proper : system.tree.distinct = true)
    (ended : (survey system root (findManifests system root)).outcome = .ok found)
    (moduleAt : ModuleAt system root below description path) (targets : List String) :
    dependencies system root filter found ⟨root ++ below, path, description⟩ = targets ↔
      EdgesOf (fun declared target => Admits filter declared ∧ LeadsTo system root below declared target)
        (description.declaredAs .normal ++ description.declaredAs .build ++ description.declaredAs .dev) targets := by
  unfold dependencies admitted
  rw [List.filterMap_filter, Description.declared_eq]
  refine (edgesOf_iff fun declared target => ?_).symm
  rw [← edge?_eq_some proper ended moduleAt, ← admits_iff]
  by_cases admits : filter.admits declared.kind declared.forTarget = true
  · simp [admits]
  · simp [admits]

end Edges

section Records

variable {system : System} {root below : Location} {found : Survey} {description : Description} {path : String}

/-- Packages are surveyed in the order of their manifests. -/
theorem pairwise_packages (proper : system.tree.distinct = true)
    (ended : (survey system root (findManifests system root)).outcome = .ok found) :
    found.packages.Pairwise fun first second =>
      notAfter (first.directory ++ [manifestName]) (second.directory ++ [manifestName]) = true := by
  have packages := congrArg Survey.packages (survey_ok ended)
  dsimp only at packages
  rw [packages, List.pairwise_filterMap]
  refine List.Pairwise.imp_of_mem ?_ (pairwise_findManifests system root)
  intro first second firstWalked secondWalked before package surveyed other otherSurveyed
  obtain ⟨_, rfl, placed, _⟩ := packageAt_of_surveyed? proper firstWalked surveyed
  obtain ⟨_, rfl, otherPlaced, _⟩ := packageAt_of_surveyed? proper secondWalked otherSurveyed
  rwa [placed, otherPlaced]

/-- A package is the one recorded under its module path if no package that is surveyed later has this path. -/
theorem recordedAs_iff (proper : system.tree.distinct = true)
    (ended : (survey system root (findManifests system root)).outcome = .ok found) {earlier later : List Discovered}
    (split : found.packages = earlier ++ ⟨root ++ below, path, description⟩ :: later) :
    RecordedAs system root below description path ↔ ∀ package ∈ later, package.modulePath ≠ path := by
  have complete := surveys proper ended
  have ordered := pairwise_packages proper ended
  have distinct := complete.distinct
  have listed : ⟨root ++ below, path, description⟩ ∈ found.packages := by simp [split]
  rw [split, List.pairwise_append, List.pairwise_cons] at ordered
  rw [split, List.map_append, List.map_cons, List.nodup_append, List.nodup_cons] at distinct
  constructor
  · rintro recorded package member rfl
    have packageListed : package ∈ found.packages := by simp [split, member]
    obtain ⟨other, placed, otherAt⟩ := complete.moduleAt packageListed
    have after := ordered.2.1.1 package member
    rw [placed] at after
    have same := notAfter_antisymm after (recorded.last other package.description otherAt)
    rw [List.append_cancel_right_eq] at same
    exact distinct.2.1.1 (List.mem_map.mpr ⟨package, member, placed.trans same.symm⟩)
  · intro unique
    refine ⟨complete.mem_packages_iff.mp listed, fun other otherDescription otherAt => ?_⟩
    have otherListed := complete.mem_packages_iff.mpr otherAt
    rw [split, List.mem_append, List.mem_cons] at otherListed
    rcases otherListed with before | itself | after
    · exact ordered.2.2 _ before _ List.mem_cons_self
    · rw [(Discovered.mk.inj itself).1]
      exact notAfter_refl _
    · exact absurd rfl (unique _ after)

/-- Looking a key up from the end gives what belongs to the last item with this key. -/
theorem lookup_reverse_map {α β : Type} (key : α → String) (value : α → β) (items : List α) (name : String)
    (result : β) : (items.map fun item => (key item, value item)).reverse.lookup name = some result ↔
      ∃ earlier item later, items = earlier ++ item :: later ∧ key item = name ∧ value item = result ∧
        ∀ other ∈ later, key other ≠ name := by
  rw [← List.map_reverse, List.lookup_eq_some_iff]
  constructor
  · rintro ⟨front, back, split, absent⟩
    obtain ⟨after, rest, reversed, rfl, same⟩ := List.map_eq_append_iff.mp split
    obtain ⟨item, before, rfl, pair, rfl⟩ := List.map_eq_cons_iff.mp same
    obtain ⟨named, gives⟩ := Prod.mk.inj pair
    refine ⟨before.reverse, item, after.reverse, ?_, named, gives, fun other member => ?_⟩
    · rw [← List.reverse_reverse items, reversed]
      simp
    · have elsewhere := absent _ (List.mem_map_of_mem (List.mem_reverse.mp member))
      exact (bne_iff_ne.mp elsewhere).symm
  · rintro ⟨earlier, item, later, rfl, rfl, rfl, absent⟩
    refine ⟨(later.map fun item => (key item, value item)).reverse,
      (earlier.map fun item => (key item, value item)).reverse, by simp, fun pair member => ?_⟩
    obtain ⟨other, listed, rfl⟩ := List.mem_map.mp (List.mem_reverse.mp member)
    exact bne_iff_ne.mpr (Ne.symm (absent other listed))

/-- The paths of the catalog are those under which packages are recorded. -/
theorem mem_paths_toCatalog (proper : system.tree.distinct = true)
    (ended : (survey system root (findManifests system root)).outcome = .ok found) (filter : DependencyFilter) :
    path ∈ (found.toCatalog system root filter).paths ↔
      ∃ below description, RecordedAs system root below description path := by
  have complete := surveys proper ended
  rw [← Catalog.dependencies?_isSome, Survey.toCatalog, Catalog.dependencies?_sortedOfPairs,
    Option.isSome_iff_exists]
  simp only [lookup_reverse_map]
  constructor
  · rintro ⟨_, earlier, package, later, split, rfl, rfl, absent⟩
    have listed : package ∈ found.packages := by simp [split]
    obtain ⟨below, placed, _⟩ := complete.moduleAt listed
    obtain ⟨directory, name, description⟩ := package
    obtain rfl : directory = root ++ below := placed
    exact ⟨below, description, (recordedAs_iff proper ended split).mpr absent⟩
  · rintro ⟨below, description, recorded⟩
    obtain ⟨earlier, later, split⟩ := List.append_of_mem (complete.mem_packages_iff.mpr recorded.toModuleAt)
    exact ⟨_, earlier, _, later, split, rfl, rfl, (recordedAs_iff proper ended split).mp recorded⟩

theorem dependencies?_toCatalog (proper : system.tree.distinct = true)
    (ended : (survey system root (findManifests system root)).outcome = .ok found) (filter : DependencyFilter)
    (recorded : RecordedAs system root below description path) :
    (found.toCatalog system root filter).dependencies? path =
      some (dependencies system root filter found ⟨root ++ below, path, description⟩) := by
  have listed := (surveys proper ended).mem_packages_iff.mpr recorded.toModuleAt
  obtain ⟨earlier, later, split⟩ := List.append_of_mem listed
  rw [Survey.toCatalog, Catalog.dependencies?_sortedOfPairs, lookup_reverse_map]
  exact ⟨earlier, _, later, split, rfl, rfl, (recordedAs_iff proper ended split).mp recorded⟩

/-- The list of a recorded package has its edges. -/
theorem dependencies?_toCatalog_eq_some (proper : system.tree.distinct = true)
    (ended : (survey system root (findManifests system root)).outcome = .ok found) (filter : DependencyFilter)
    (recorded : RecordedAs system root below description path) (targets : List String) :
    (found.toCatalog system root filter).dependencies? path = some targets ↔
      EdgesOf (fun declared target => Admits filter declared ∧ LeadsTo system root below declared target)
        (description.declaredAs .normal ++ description.declaredAs .build ++ description.declaredAs .dev) targets := by
  rw [dependencies?_toCatalog proper ended filter recorded, Option.some.injEq]
  exact dependencies_eq_iff proper ended recorded.toModuleAt targets

theorem listed_toCatalog_iff (proper : system.tree.distinct = true)
    (ended : (survey system root (findManifests system root)).outcome = .ok found) (filter : DependencyFilter)
    (name : String) (targets : List String) :
    (found.toCatalog system root filter).dependencies? name = some targets ↔
      ∃ below description, RecordedAs system root below description name ∧
        EdgesOf (fun declared target => Admits filter declared ∧ LeadsTo system root below declared target)
          description.declared targets := by
  simp only [Description.declared_eq]
  constructor
  · intro listed
    have known : name ∈ (found.toCatalog system root filter).paths := by
      rw [← Catalog.dependencies?_isSome, listed]
      rfl
    obtain ⟨below, description, recorded⟩ := (mem_paths_toCatalog proper ended filter).mp known
    exact ⟨below, description, recorded, (dependencies?_toCatalog_eq_some proper ended filter recorded _).mp listed⟩
  · rintro ⟨below, description, recorded, edges⟩
    exact (dependencies?_toCatalog_eq_some proper ended filter recorded _).mpr edges

end Records

/-- Where packages are discovered, each module path belongs to one package, and its dependencies are the edges
of that package's declarations: normal ones, then those for building, then those for development. The file
system is plain: without links a location is canonical, and every directory and manifest can be read. -/
theorem discover_edges (system : System) (path : String) (filter : DependencyFilter) (catalog : Catalog)
    (proper : system.tree.distinct = true) (discovered : (discover system path filter).outcome = .ok catalog) :
    ∃ root, system.locate path = .ok root ∧
      (∀ name, name ∈ catalog.paths ↔ ∃ below description, RecordedAs system root below description name) ∧
      (∀ below description name, ModuleAt system root below description name → name ∈ catalog.paths) ∧
      ∀ below description name, RecordedAs system root below description name → ∀ dependencies,
        catalog.dependencies? name = some dependencies ↔
          EdgesOf (fun declared target => Admits filter declared ∧ LeadsTo system root below declared target)
            (description.declaredAs .normal ++ description.declaredAs .build ++ description.declaredAs .dev)
            dependencies := by
  obtain ⟨root, located, discovered⟩ := discover_ok discovered
  obtain ⟨found, surveyed, rfl⟩ := discoverAt_ok discovered
  have complete := surveys proper surveyed
  refine ⟨root, located, fun name => mem_paths_toCatalog proper surveyed filter, ?_, ?_⟩
  · intro below description name moduleAt
    rw [Survey.toCatalog, Catalog.mem_paths_sortedOfPairs, List.map_map]
    exact List.mem_map.mpr ⟨_, complete.mem_packages_iff.mpr moduleAt, rfl⟩
  · intro below description name recorded targets
    exact dependencies?_toCatalog_eq_some proper surveyed filter recorded targets

/-- Two packages that need each other, one of them twice. The outer workspace offers one of them, the inner one
nothing at all. -/
def inheriting : System where
  tree :=
    .file "Cargo.toml" "[workspace.dependencies]\nlib = \x7b path = \"lib\" \x7d\n".toUTF8
      (.directory "app" (.file "Cargo.toml" ("[package]\nname = \"app\"\n" ++
          "[dev-dependencies]\nlib = \x7b path = \"../lib\" \x7d\n" ++
          "[dependencies]\ngone = \x7b path = \"..\" \x7d\nlib = \x7b workspace = true \x7d\n").toUTF8 .nil)
        (.directory "lib" (.file "Cargo.toml" ("[package]\nname = \"lib\"\n[workspace]\n" ++
            "[dependencies]\nlib = \x7b workspace = true \x7d\napp = \x7b path = \"../app\" \x7d\n").toUTF8 .nil) .nil))
  workingDirectory := []

theorem findManifests_inheriting :
    findManifests inheriting [] = [["Cargo.toml"], ["app", "Cargo.toml"], ["lib", "Cargo.toml"]] := by
  have ordered : [["Cargo.toml"], ["app", "Cargo.toml"], ["lib", "Cargo.toml"]].Pairwise (notAfter · ·) := by
    decide +kernel
  exact List.mergeSort_of_pairwise ordered

theorem inheriting_outcomes :
    (discover inheriting "." .includeAll).outcome = .ok ⟨[⟨":app", [":lib", ":lib"]⟩, ⟨":lib", [":app"]⟩]⟩ ∧
    (discover inheriting "." ⟨true, false, false⟩).outcome = .ok ⟨[⟨":app", [":lib"]⟩, ⟨":lib", [":app"]⟩]⟩ := by
  have located : inheriting.locate "." = .ok [] := rfl
  rw [discover_outcome, discover_outcome, located]
  dsimp only
  rw [findManifests_inheriting]
  decide +kernel

theorem discover_inheriting :
    (discover inheriting "." .includeAll).outcome = .ok ⟨[⟨":app", [":lib", ":lib"]⟩, ⟨":lib", [":app"]⟩]⟩ ∧
    ∃ root below description, RecordedAs inheriting root below description ":app" ∧
      EdgesOf (fun declared target => Admits .includeAll declared ∧ LeadsTo inheriting root below declared target)
        (description.declaredAs .normal ++ description.declaredAs .build ++ description.declaredAs .dev)
        [":lib", ":lib"] := by
  have discovered := inheriting_outcomes.1
  obtain ⟨root, _, recorded_iff, _, edges_iff⟩ :=
    discover_edges inheriting "." .includeAll _ (by decide +kernel) discovered
  obtain ⟨below, description, recorded⟩ := (recorded_iff ":app").mp (by decide)
  exact ⟨discovered, root, below, description, recorded, (edges_iff below description ":app" recorded _).mp rfl⟩

end DependencyDiagram.Package
