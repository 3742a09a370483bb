import DependencyDiagram.Proofs.PackageEdges

/-!
Discovery in other places. As long as no path dependency leaves the root, what is found depends on the entries
below it and not on where they are, with one exception: a root that is called like a skipped directory is
skipped itself, so nothing is found in it.
-/

namespace DependencyDiagram

namespace Files.System

/-- A directory as a file system of its own. -/
def alone (inside : Entries) : System := ⟨inside, []⟩

/-- Whether a way that starts some levels below a directory never leaves it. -/
def staysBelow : Nat → List String → Bool
  | _, [] => true
  | depth, part :: rest =>
    if Path.isIdle part then staysBelow depth rest
    else if part == ".." then 0 < depth && staysBelow (depth - 1) rest
    else staysBelow (depth + 1) rest

/-- The first step of such a way does not leave the directory, and neither does what comes after it. -/
theorem staysBelow_cons {here : Location} {part : String} {parts : List String}
    (stays : staysBelow here.length (part :: parts) = true) : (part = ".." → here ≠ []) ∧
      ∀ (system : System) next, system.advance here part = .ok next → staysBelow next.length parts = true := by
  rw [staysBelow] at stays
  constructor
  · intro up
    rw [up, if_neg (by decide), if_pos (beq_self_eq_true _), Bool.and_eq_true, decide_eq_true_eq] at stays
    exact List.ne_nil_of_length_pos stays.1
  · intro system next advanced
    obtain ⟨_, ⟨idle, rfl⟩ | ⟨counts, rfl, rfl⟩ | ⟨counts, ahead, _, _, rfl⟩⟩ := advance_ok_iff.mp advanced
    · rwa [if_pos idle] at stays
    · rw [if_neg (by decide), if_pos (beq_self_eq_true _), Bool.and_eq_true] at stays
      rw [List.length_dropLast]
      exact stays.2
    · rw [counts, beq_false_of_ne ahead] at stays
      rw [List.length_append]
      exact stays

section Below

variable {system : System} {root here : Location} {inside : Entries} {part path : String} {parts : List String}
variable (holds : system.entryAt? root = some (.directory inside))

include holds

theorem entryAt?_below (below : Location) : system.entryAt? (root ++ below) = (alone inside).entryAt? below := by
  unfold entryAt? at holds ⊢
  rw [Entries.entryAt?_append, holds]
  rfl

theorem isDirectoryAt_below (below : Location) :
    system.isDirectoryAt (root ++ below) = (alone inside).isDirectoryAt below := by
  unfold isDirectoryAt
  rw [entryAt?_below holds]

theorem readAt_below (below : Location) : system.readAt (root ++ below) = (alone inside).readAt below := by
  unfold readAt
  rw [entryAt?_below holds]

theorem advance_below (stays : part = ".." → here ≠ []) :
    system.advance (root ++ here) part = ((alone inside).advance here part).map (root ++ ·) := by
  unfold advance
  rw [isDirectoryAt_below holds, List.append_assoc, entryAt?_below holds]
  by_cases up : part = ".."
  -- The way up from a directory below the root does not pass it.
  · rw [List.dropLast_append_of_ne_nil (stays up)]
    subst up
    cases (alone inside).isDirectoryAt here <;> rfl
  · have ahead : (part == "..") = false := beq_false_of_ne up
    rw [ahead]
    cases (alone inside).isDirectoryAt here <;> cases Path.isIdle part <;> try rfl
    by_cases long : longestName < part.utf8ByteSize
    · simp [long, Except.map]
    · cases ((alone inside).entryAt? (here ++ [part])).isSome <;> simp [long, Except.map]

/-- A way that does not leave the directory leads to the same place in it. -/
theorem foldlM_advance_below (stays : staysBelow here.length parts = true) :
    parts.foldlM system.advance (root ++ here) = (parts.foldlM (alone inside).advance here).map (root ++ ·) := by
  induction parts generalizing here with
  | nil => rfl
  | cons part rest ih =>
    have step := advance_below holds (staysBelow_cons stays).1
    rw [List.foldlM_cons, List.foldlM_cons, step]
    cases advanced : (alone inside).advance here part with
    | error fault => rfl
    | ok next => exact ih ((staysBelow_cons stays).2 (alone inside) next advanced)

theorem locateFrom_below (relative : Path.isAbsolute path = false)
    (stays : staysBelow here.length (Path.parts path) = true) :
    system.locateFrom (root ++ here) path = ((alone inside).locateFrom here path).map (root ++ ·) := by
  unfold locateFrom origin
  rw [relative]
  cases hasNul path with
  | true => rfl
  | false => exact foldlM_advance_below holds stays

end Below

end Files.System

namespace Package

open Files (Location System Entries)

/-- The root itself has the name of a directory that is not entered. -/
def Skipped (root : Location) : Prop := ∃ name ∈ root.getLast?, name ∈ skippedNames

instance (root : Location) : Decidable (Skipped root) :=
  decidable_of_iff (root.getLast?.any (· ∈ skippedNames) = true) (by simp [Skipped, Option.any_eq_true])

/-- A path dependency that does not leave the root. -/
def RelativePath.StaysWithin (relative : RelativePath) : Prop :=
  Files.Path.isAbsolute relative.path = false ∧
    System.staysBelow relative.base.length (Files.Path.parts relative.path) = true

instance (relative : RelativePath) : Decidable relative.StaysWithin :=
  inferInstanceAs (Decidable (_ ∧ _))

/-- No path dependency of a package below the root leaves it, whether it leads anywhere or not. -/
def SelfContained (inside : Entries) : Prop :=
  ∀ below description, PackageAt (.alone inside) [] below description → ∀ declared ∈ description.declared,
    ∀ base path, PointsTo (.alone inside) [] below declared base path → RelativePath.StaysWithin ⟨base, path⟩

section Below

variable {system : System} {root below above : Location} {inside : Entries} {description : Description}
variable {declared : Declared} {table : DependencyTable} {path target : String}
variable (holds : system.entryAt? root = some (.directory inside))

include holds

theorem readManifest_below (location : Location) : readManifest system (root ++ location) = .ok description ↔
    readManifest (.alone inside) location = .ok description := by
  unfold readManifest
  rw [System.readAt_below holds]
  cases System.readAt (.alone inside) location with
  | error fault => simp
  | ok text => cases parsed : Description.parse? text <;> simp [parsed]

theorem packageAt_below (entered : ¬ Skipped root) : PackageAt system root below description ↔
    PackageAt (.alone inside) [] below description := by
  have read_iff : readManifest system (root ++ below ++ [manifestName]) = .ok description ↔
      readManifest (.alone inside) (below ++ [manifestName]) = .ok description := by
    rw [List.append_assoc]
    exact readManifest_below holds _
  constructor
  · intro isPackage
    exact ⟨by simp, isPackage.entered, read_iff.mp isPackage.read, isPackage.named⟩
  · intro isPackage
    refine ⟨fun name last skipped => entered ⟨name, last, skipped⟩, isPackage.entered, ?_, isPackage.named⟩
    exact read_iff.mpr isPackage.read

theorem moduleAt_below (entered : ¬ Skipped root) : ModuleAt system root below description path ↔
    ModuleAt (.alone inside) [] below description path := by
  have named : modulePath? root (root ++ below) description = modulePath? [] ([] ++ below) description := by
    rw [modulePath?_append, modulePath?_append]
  constructor
  · intro moduleAt
    exact ⟨(packageAt_below holds entered).mp moduleAt.toPackageAt, named.symm.trans moduleAt.path_eq⟩
  · intro moduleAt
    exact ⟨(packageAt_below holds entered).mpr moduleAt.toPackageAt, named.trans moduleAt.path_eq⟩

theorem recordedAs_below (entered : ¬ Skipped root) : RecordedAs system root below description path ↔
    RecordedAs (.alone inside) [] below description path := by
  have order (first second : Location) :
      notAfter (root ++ first ++ [manifestName]) (root ++ second ++ [manifestName]) =
        notAfter ([] ++ first ++ [manifestName]) ([] ++ second ++ [manifestName]) := by
    rw [List.append_assoc, List.append_assoc, notAfter_append]
    rfl
  constructor
  · intro recorded
    refine ⟨(moduleAt_below holds entered).mp recorded.toModuleAt, fun other otherDescription otherAt => ?_⟩
    rw [← order]
    exact recorded.last other otherDescription ((moduleAt_below holds entered).mpr otherAt)
  · intro recorded
    refine ⟨(moduleAt_below holds entered).mpr recorded.toModuleAt, fun other otherDescription otherAt => ?_⟩
    rw [order]
    exact recorded.last other otherDescription ((moduleAt_below holds entered).mp otherAt)

theorem workspaceAt_below (directory : Location) : WorkspaceAt system (root ++ directory) table ↔
    WorkspaceAt (.alone inside) directory table := by
  unfold WorkspaceAt
  rw [List.append_assoc]
  exact exists_congr fun description => and_congr_left fun _ => readManifest_below holds _

theorem encloses_below : Encloses system root below above table ↔
    Encloses (.alone inside) [] below above table := by
  constructor
  · intro encloses
    refine ⟨encloses.onTheWay, (workspaceAt_below holds above).mp encloses.opened, ?_⟩
    exact fun between way longer other opened =>
      encloses.nearest between way longer other ((workspaceAt_below holds between).mpr opened)
  · intro encloses
    refine ⟨encloses.onTheWay, (workspaceAt_below holds above).mpr encloses.opened, ?_⟩
    exact fun between way longer other opened =>
      encloses.nearest between way longer other ((workspaceAt_below holds between).mp opened)

theorem pointsTo_below {base : Location} : PointsTo system root below declared base path ↔
    ∃ inner, base = root ++ inner ∧ PointsTo (.alone inside) [] below declared inner path := by
  constructor
  · rintro (⟨direct, path_eq⟩ | ⟨inherits, encloses, offers⟩)
    · exact ⟨below, rfl, .own direct path_eq⟩
    · exact ⟨_, rfl, .inherited inherits ((encloses_below holds).mp encloses) offers⟩
  · rintro ⟨_, rfl, ⟨direct, path_eq⟩ | ⟨inherits, encloses, offers⟩⟩
    · exact .own direct path_eq
    · exact .inherited inherits ((encloses_below holds).mpr encloses) offers

/-- Where no dependency leaves the root, all of them lead to the same modules. -/
theorem leadsTo_below (entered : ¬ Skipped root) (stays : ∀ base path,
      PointsTo (.alone inside) [] below declared base path → RelativePath.StaysWithin ⟨base, path⟩) :
    LeadsTo system root below declared target ↔ LeadsTo (.alone inside) [] below declared target := by
  have located (base there : Location) (path : String) (within : RelativePath.StaysWithin ⟨base, path⟩) :
      system.locateFrom (root ++ base) path = .ok (root ++ there) ↔
        System.locateFrom (.alone inside) base path = .ok there := by
    rw [System.locateFrom_below holds within.1 within.2]
    cases System.locateFrom (.alone inside) base path <;> simp [Except.map]
  constructor
  · rintro ⟨base, path, there, description, points, leads, moduleAt⟩
    obtain ⟨inner, rfl, innerPoints⟩ := (pointsTo_below holds).mp points
    exact ⟨inner, path, there, description, innerPoints,
      (located inner there path (stays inner path innerPoints)).mp leads, (moduleAt_below holds entered).mp moduleAt⟩
  · rintro ⟨base, path, there, description, points, leads, moduleAt⟩
    exact ⟨root ++ base, path, there, description, (pointsTo_below holds).mpr ⟨base, rfl, points⟩,
      (located base there path (stays base path points)).mpr leads, (moduleAt_below holds entered).mpr moduleAt⟩

end Below

section Catalogs

variable {system : System} {root : Location} {inside : Entries} {filter : DependencyFilter} {catalog : Catalog}

/-- The survey of a root that is not skipped ends well exactly if all manifests in it can be read. -/
theorem survey_below_succeeds_iff (proper : system.tree.distinct = true)
    (holds : system.entryAt? root = some (.directory inside)) (entered : ¬ Skipped root) :
    (∃ found, (survey system root (findManifests system root)).outcome = .ok found) ↔
      ∀ below, HasManifest inside below →
        ∃ description, readManifest (.alone inside) (below ++ [manifestName]) = .ok description := by
  rw [survey_succeeds_iff]
  constructor
  · intro readable below has
    have walked : root ++ below ++ [manifestName] ∈ findManifests system root := by
      rw [mem_findManifests proper]
      exact ⟨fun name last skipped => entered ⟨name, last, skipped⟩, .inl ⟨inside, below, holds, rfl, has⟩⟩
    obtain ⟨description, read⟩ := readable _ walked
    rw [List.append_assoc] at read
    exact ⟨description, (readManifest_below holds _).mp read⟩
  · intro readable location walked
    obtain ⟨_, ⟨_, below, found, rfl, has⟩ | ⟨⟨_, found⟩, _⟩⟩ := (mem_findManifests proper).mp walked
    · obtain rfl := Files.Entry.directory.inj (Option.some.inj (holds.symm.trans found))
      obtain ⟨description, read⟩ := readable below has
      rw [List.append_assoc]
      exact ⟨description, (readManifest_below holds _).mpr read⟩
    · cases holds.symm.trans found

theorem not_skipped_nil : ¬ Skipped [] := by decide

/-- Both surveys make the same catalog, since a sorted catalog is determined by the lists in it. -/
theorem toCatalog_below {found other : Survey} (proper : system.tree.distinct = true)
    (holds : system.entryAt? root = some (.directory inside)) (entered : ¬ Skipped root)
    (contained : SelfContained inside)
    (ended : (survey system root (findManifests system root)).outcome = .ok found)
    (otherEnded : (survey (.alone inside) [] (findManifests (.alone inside) [])).outcome = .ok other) :
    found.toCatalog system root filter = other.toCatalog (.alone inside) [] filter := by
  have aloneProper : (System.alone inside).tree.distinct = true := Entries.distinct_of_entryAt? proper holds
  apply (Catalog.sorted_sortedOfPairs _).ext (Catalog.sorted_sortedOfPairs _)
  intro name
  apply Option.ext
  intro targets
  change (found.toCatalog system root filter).dependencies? name = some targets ↔
    (other.toCatalog (.alone inside) [] filter).dependencies? name = some targets
  rw [listed_toCatalog_iff proper ended, listed_toCatalog_iff aloneProper otherEnded]
  refine exists_congr fun below => exists_congr fun description => ?_
  rw [recordedAs_below holds entered]
  refine and_congr_right fun recorded => ?_
  have edges_iff : ∀ declared ∈ description.declared, ∀ target,
      Admits filter declared ∧ LeadsTo system root below declared target ↔
        Admits filter declared ∧ LeadsTo (.alone inside) [] below declared target :=
    fun declared listed target => and_congr_right fun _ =>
      leadsTo_below holds entered (contained below description recorded.toPackageAt declared listed)
  exact ⟨fun edges => edges.congr edges_iff,
    fun edges => edges.congr fun declared listed target => (edges_iff declared listed target).symm⟩

/-- A root that is not skipped gives what its entries give on their own. -/
theorem discoverAt_alone_iff (proper : system.tree.distinct = true)
    (holds : system.entryAt? root = some (.directory inside)) (entered : ¬ Skipped root)
    (contained : SelfContained inside) : (discoverAt system root filter).outcome = .ok catalog ↔
      (discoverAt (.alone inside) [] filter).outcome = .ok catalog := by
  have aloneProper : (System.alone inside).tree.distinct = true := Entries.distinct_of_entryAt? proper holds
  have aloneHolds : (System.alone inside).entryAt? [] = some (.directory inside) := rfl
  have succeed_iff := (survey_below_succeeds_iff proper holds entered).trans
    (survey_below_succeeds_iff aloneProper aloneHolds not_skipped_nil).symm
  constructor
  · intro discovered
    obtain ⟨found, ended, rfl⟩ := discoverAt_ok discovered
    obtain ⟨other, otherEnded⟩ := succeed_iff.mp ⟨found, ended⟩
    rw [discoverAt_outcome, otherEnded, toCatalog_below proper holds entered contained ended otherEnded]
    rfl
  · intro discovered
    obtain ⟨other, otherEnded, rfl⟩ := discoverAt_ok discovered
    obtain ⟨found, ended⟩ := succeed_iff.mpr ⟨other, otherEnded⟩
    rw [discoverAt_outcome, ended, ← toCatalog_below proper holds entered contained ended otherEnded]
    rfl

/-- In a skipped root nothing is found, whatever is in it. -/
theorem discoverAt_skipped (system : System) (filter : DependencyFilter) (skipped : Skipped root) :
    (discoverAt system root filter).outcome = .ok .empty := by
  obtain ⟨name, last, hidden⟩ := skipped
  have nothing : findManifests system root = [] := by
    unfold findManifests
    rw [if_pos (by simp [Option.mem_def.mp last, hidden])]
  rw [discoverAt_outcome, nothing]
  rfl

/-- Nothing is found on its own exactly if all manifests can be read and none of them has a package. -/
theorem discoverAt_alone_empty_iff (proper : inside.distinct = true) :
    (discoverAt (.alone inside) [] filter).outcome = .ok .empty ↔ ∀ below, HasManifest inside below →
      ∃ description, readManifest (.alone inside) (below ++ [manifestName]) = .ok description ∧
        description.name = none := by
  have holds : (System.alone inside).entryAt? [] = some (.directory inside) := rfl
  have aloneProper : (System.alone inside).tree.distinct = true := proper
  have readable_iff := survey_below_succeeds_iff aloneProper holds not_skipped_nil
  constructor
  · intro discovered below has
    obtain ⟨found, ended, empty⟩ := discoverAt_ok discovered
    obtain ⟨description, read⟩ := readable_iff.mp ⟨found, ended⟩ below has
    refine ⟨description, read, Option.eq_none_iff_forall_ne_some.mpr fun name named => ?_⟩
    have isPackage : PackageAt (.alone inside) [] below description :=
      ⟨by simp, has.entered, read, Option.isSome_of_eq_some named⟩
    obtain ⟨package, listed, _⟩ := (surveys aloneProper ended).exists_package isPackage
    have known : package.modulePath ∈ (found.toCatalog (.alone inside) [] filter).paths := by
      rw [Survey.toCatalog, Catalog.mem_paths_sortedOfPairs, List.map_map]
      exact List.mem_map.mpr ⟨package, listed, rfl⟩
    rw [← empty] at known
    cases known
  · intro bare
    obtain ⟨found, ended⟩ := readable_iff.mpr fun below has => by
      obtain ⟨description, read, _⟩ := bare below has
      exact ⟨description, read⟩
    have none : (found.toCatalog (.alone inside) [] filter).paths = [] := by
      refine List.eq_nil_iff_forall_not_mem.mpr fun name known => ?_
      obtain ⟨below, description, recorded⟩ := (mem_paths_toCatalog aloneProper ended filter).mp known
      have has : HasManifest inside below := ⟨isFile_of_readManifest recorded.read, recorded.entered⟩
      obtain ⟨other, read, nameless⟩ := bare below has
      obtain rfl := Except.ok.inj (recorded.read.symm.trans read)
      have named := recorded.named
      rw [nameless] at named
      cases named
    rw [discoverAt_outcome, ended]
    exact congrArg Except.ok (congrArg Catalog.mk (List.map_eq_nil_iff.mp none))

end Catalogs

/-- No path dependency of a surveyed package leaves the root. -/
def Survey.selfContained (survey : Survey) : Bool :=
  survey.packages.all fun package => package.description.declared.all fun declared =>
    (locationOf? (survey.enclosingWorkspace? [] package.directory) package declared).all
      fun relative => decide relative.StaysWithin

/-- That entries contain all they depend on can be computed from the manifests in them. -/
theorem selfContained_of_survey {inside : Entries} {locations : List Location} (proper : inside.distinct = true)
    (walked : findManifests (.alone inside) [] = locations)
    (stays : (survey (.alone inside) [] locations).outcome.map (·.selfContained) = .ok true) :
    SelfContained inside := by
  have aloneProper : (System.alone inside).tree.distinct = true := proper
  rw [← walked] at stays
  cases ended : (survey (.alone inside) [] (findManifests (.alone inside) [])).outcome with
  | error failure =>
    rw [ended] at stays
    cases stays
  | ok found =>
    rw [ended] at stays
    have each := Except.ok.inj stays
    simp only [Survey.selfContained, List.all_eq_true, Option.all_eq_true, decide_eq_true_eq] at each
    have complete := surveys aloneProper ended
    intro below description isPackage declared listed base path points
    obtain ⟨package, member, placed, rfl⟩ := complete.exists_package isPackage
    obtain ⟨directory, name, description⟩ := package
    obtain rfl : directory = [] ++ below := placed
    have moduleAt := complete.mem_packages_iff.mp member
    exact each _ member declared listed ⟨base, path⟩ ((locationOf?_eq_some aloneProper ended moduleAt).mpr points)

/-- A path leads to a directory with these entries. -/
structure RootAt (system : System) (path : String) (root : Location) (inside : Entries) : Prop where
  proper : system.tree.distinct = true
  located : system.locate path = .ok root
  holds : system.entryAt? root = some (.directory inside)

theorem RootAt.discover_iff {system : System} {path : String} {root : Location} {inside : Entries}
    (rootAt : RootAt system path root inside) (contained : SelfContained inside) (filter : DependencyFilter)
    (catalog : Catalog) : (discover system path filter).outcome = .ok catalog ↔
      if Skipped root then Catalog.empty = catalog
      else (discoverAt (.alone inside) [] filter).outcome = .ok catalog := by
  unfold discover
  rw [rootAt.located]
  dsimp only
  split
  · next skipped => rw [discoverAt_skipped system filter skipped, Except.ok.injEq]
  · next entered => exact discoverAt_alone_iff rootAt.proper rootAt.holds entered contained

/-- Two roots with the same entries, which no path dependency leaves, have the same modules with the same
dependencies exactly if both or none of them are called like a skipped directory, or if there is nothing to be
found in them. Both file systems are plain: no link leads out of a root, and how long the way to it is does not
matter. -/
theorem discover_relocated_iff (system other : System) (path otherPath : String) (root otherRoot : Location)
    (inside : Entries) (filter : DependencyFilter) (first : RootAt system path root inside)
    (second : RootAt other otherPath otherRoot inside) (contained : SelfContained inside) :
    (∀ catalog, (discover system path filter).outcome = .ok catalog ↔
        (discover other otherPath filter).outcome = .ok catalog) ↔
      (Skipped root ↔ Skipped otherRoot) ∨ ∀ below, HasManifest inside below →
        ∃ description, readManifest (.alone inside) (below ++ [manifestName]) = .ok description ∧
          description.name = none := by
  have proper : inside.distinct = true := Entries.distinct_of_entryAt? first.proper first.holds
  have empty_iff : (∀ catalog, Catalog.empty = catalog ↔
      (discoverAt (.alone inside) [] filter).outcome = .ok catalog) ↔
        (discoverAt (.alone inside) [] filter).outcome = .ok .empty :=
    ⟨fun same => (same .empty).mp rfl, fun discovered catalog => by rw [discovered, Except.ok.injEq]⟩
  rw [← @discoverAt_alone_empty_iff inside filter proper, ← empty_iff]
  simp only [first.discover_iff contained, second.discover_iff contained]
  by_cases skipped : Skipped root
  · by_cases otherSkipped : Skipped otherRoot
    · simp [skipped, otherSkipped]
    · simp [skipped, otherSkipped]
  · by_cases otherSkipped : Skipped otherRoot
    -- The equation of the two results is stated the other way round than in the case before.
    · simp only [skipped, otherSkipped, if_false, if_true, false_iff, not_true_eq_false, false_or]
      exact forall_congr' fun _ => iff_comm
    · simp [skipped, otherSkipped]

/-- A directory of this name with these entries. -/
def housed (name : String) (inside : Entries) : System := ⟨.directory name inside .nil, []⟩

theorem selfContained_workshop : SelfContained (workshop "app").tree :=
  selfContained_of_survey (by decide +kernel) (findManifests_workshop "app") (by decide +kernel)

theorem discover_relocated_workshop :
    RootAt (housed "work" (workshop "app").tree) "work" ["work"] (workshop "app").tree ∧
    RootAt (housed "play" (workshop "app").tree) "play/." ["play"] (workshop "app").tree ∧
    (discover (housed "work" (workshop "app").tree) "work" .includeAll).outcome =
      .ok ⟨[⟨":app", [":data"]⟩, ⟨":core", []⟩, ⟨":data", []⟩]⟩ ∧
    (discover (housed "play" (workshop "app").tree) "play/." .includeAll).outcome =
      .ok ⟨[⟨":app", [":data"]⟩, ⟨":core", []⟩, ⟨":data", []⟩]⟩ := by
  have first : RootAt (housed "work" (workshop "app").tree) "work" ["work"] (workshop "app").tree :=
    ⟨by decide +kernel, rfl, rfl⟩
  have second : RootAt (housed "play" (workshop "app").tree) "play/." ["play"] (workshop "app").tree :=
    ⟨by decide +kernel, rfl, rfl⟩
  have discovered : (discover (housed "work" (workshop "app").tree) "work" .includeAll).outcome =
      .ok ⟨[⟨":app", [":data"]⟩, ⟨":core", []⟩, ⟨":data", []⟩]⟩ := by
    rw [first.discover_iff selfContained_workshop, if_neg (by decide)]
    change (discoverAt (workshop "app") [] .includeAll).outcome = _
    rw [discoverAt, findManifests_workshop]
    decide +kernel
  have both := (discover_relocated_iff _ _ _ _ _ _ _ .includeAll first second selfContained_workshop).mpr
    (.inl (by decide))
  exact ⟨first, second, discovered, (both _).mp discovered⟩

/-- A single package. -/
def lonely : Entries := .file "Cargo.toml" "[package]\nname = \"app\"\n".toUTF8 .nil

/-- Called `target`, the directory of a package is empty for the walk. -/
theorem discover_target :
    RootAt (housed "work" lonely) "work" ["work"] lonely ∧ RootAt (housed "target" lonely) "target" ["target"] lonely ∧
    SelfContained lonely ∧ (discover (housed "work" lonely) "work" .includeAll).outcome = .ok ⟨[⟨":app", []⟩]⟩ ∧
    (discover (housed "target" lonely) "target" .includeAll).outcome = .ok ⟨[]⟩ := by
  have first : RootAt (housed "work" lonely) "work" ["work"] lonely := ⟨by decide +kernel, rfl, rfl⟩
  have second : RootAt (housed "target" lonely) "target" ["target"] lonely := ⟨by decide +kernel, rfl, rfl⟩
  have walked : findManifests (.alone lonely) [] = [["Cargo.toml"]] :=
    List.mergeSort_of_pairwise (List.pairwise_singleton (notAfter · ·) _)
  have contained : SelfContained lonely := selfContained_of_survey (by decide +kernel) walked (by decide +kernel)
  refine ⟨first, second, contained, ?_, ?_⟩
  · rw [first.discover_iff contained, if_neg (by decide), discoverAt, walked]
    decide +kernel
  · rw [second.discover_iff contained, if_pos (by decide)]
    rfl

end Package

end DependencyDiagram
