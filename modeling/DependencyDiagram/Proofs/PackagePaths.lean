import DependencyDiagram.ModulePath
import DependencyDiagram.Proofs.PackageTree
import DependencyDiagram.Proofs.SortedCatalog
import Mathlib.Data.List.Nodup

/-!
Module paths of packages. Every package below a root is surveyed once, but the catalog has one place for
each module path. A package in the root is named after itself and all others after their directories, so a
package is lost where these two ways of naming meet, or where a directory's name has a separator in it.
-/

namespace DependencyDiagram

namespace Package

open Files (Location System)
open Log (Recorded)

/-- A package in the directory that these names lead to from the root, outside the skipped directories. -/
structure PackageAt (system : System) (root below : Location) (description : Description) : Prop where
  rootEntered : ∀ name ∈ root.getLast?, name ∉ skippedNames
  entered : ∀ name ∈ below, name ∉ skippedNames
  read : readManifest system (root ++ below ++ [manifestName]) = .ok description
  named : description.name.isSome

section Survey

variable {system : System} {root : Location} {locations : List Location} {found : Survey}

/-- What a survey makes of a manifest. -/
def surveyed? (system : System) (root location : Location) : Option Discovered :=
  match readManifest system location with
  | .error _ => none
  | .ok description =>
    (modulePath? root location.dropLast description).map fun path => ⟨location.dropLast, path, description⟩

/-- The workspace that a manifest opens. -/
def workspace? (system : System) (location : Location) : Option Workspace :=
  match readManifest system location with
  | .error _ => none
  | .ok description => description.workspace.map fun table => ⟨location.dropLast, offeredPaths table⟩

theorem survey_ok (ended : (survey system root locations).outcome = .ok found) :
    found = ⟨locations.filterMap (surveyed? system root), locations.filterMap (workspace? system)⟩ := by
  induction locations generalizing found with
  | nil => exact (Recorded.pure_ok_iff.mp ended).symm
  | cons location rest ih =>
    rw [survey] at ended
    obtain ⟨description, read, ended⟩ := Recorded.bind_ok_iff.mp ended
    replace read : readManifest system location = .ok description := read
    dsimp only at ended
    rw [List.filterMap_cons, List.filterMap_cons, surveyed?, workspace?, read]
    dsimp only
    split at ended
    · next unnamed =>
      obtain ⟨later, laterEnded, ended⟩ := Recorded.bind_ok_iff.mp ended
      obtain rfl := Recorded.pure_ok_iff.mp ended
      rw [unnamed, ih laterEnded]
      cases description.workspace <;> rfl
    · next path named =>
      obtain ⟨_, _, ended⟩ := Recorded.bind_ok_iff.mp ended
      obtain ⟨later, laterEnded, ended⟩ := Recorded.bind_ok_iff.mp ended
      obtain rfl := Recorded.pure_ok_iff.mp ended
      rw [named, ih laterEnded]
      cases description.workspace <;> rfl

/-- A survey ends well exactly if every manifest can be read. -/
theorem survey_succeeds_iff (system : System) (root : Location) (locations : List Location) :
    (∃ found, (survey system root locations).outcome = .ok found) ↔
      ∀ location ∈ locations, ∃ description, readManifest system location = .ok description := by
  induction locations with
  | nil => exact ⟨fun _ _ member => absurd member List.not_mem_nil, fun _ => ⟨_, rfl⟩⟩
  | cons location rest ih =>
    rw [List.forall_mem_cons, ← ih, survey, Recorded.bind_succeeds_iff, ← exists_and_right]
    refine exists_congr fun description => and_congr_right fun _ => ?_
    dsimp only
    cases modulePath? root location.dropLast description with
    | none =>
      rw [Recorded.bind_succeeds_iff]
      exact ⟨fun ⟨later, ended, _⟩ => ⟨later, ended⟩, fun ⟨later, ended⟩ => ⟨later, ended, _, rfl⟩⟩
    | some path =>
      simp only [Recorded.bind_succeeds_iff]
      exact ⟨fun ⟨_, _, later, ended, _⟩ => ⟨later, ended⟩, fun ⟨later, ended⟩ => ⟨(), rfl, later, ended, _, rfl⟩⟩

theorem surveyed?_eq_some {location : Location} {package : Discovered} :
    surveyed? system root location = some package ↔
      readManifest system location = .ok package.description ∧ package.directory = location.dropLast ∧
        modulePath? root package.directory package.description = some package.modulePath := by
  obtain ⟨directory, path, description⟩ := package
  unfold surveyed?
  cases readManifest system location with
  | error failure => simp
  | ok read =>
    simp only [Option.map_eq_some_iff, Discovered.mk.injEq, Except.ok.injEq]
    constructor
    · rintro ⟨_, named, rfl, rfl, rfl⟩
      exact ⟨rfl, rfl, named⟩
    · rintro ⟨rfl, rfl, named⟩
      exact ⟨path, named, rfl, rfl, rfl⟩

/-- The names in a module path: those of the directories below the root or, in the root, the package's. -/
def pathNames (name : String) (below : Location) : List String := if below.isEmpty then [name] else below

theorem modulePath?_append (root below : Location) (description : Description) :
    modulePath? root (root ++ below) description =
      description.name.map fun name => String.join ((pathNames name below).map (":" ++ ·)) := by
  have starts : root.isPrefixOf (root ++ below) = true := List.isPrefixOf_iff_prefix.mpr (List.prefix_append root below)
  unfold modulePath? pathNames
  cases description.name with
  | none => rfl
  | some name => simp [starts]

theorem prefix_of_modulePath? {directory : Location} {description : Description} {path : String}
    (named : modulePath? root directory description = some path) : ∃ below, directory = root ++ below := by
  unfold modulePath? at named
  by_cases starts : root.isPrefixOf directory = true
  · obtain ⟨below, rfl⟩ := List.isPrefixOf_iff_prefix.mp starts
    exact ⟨below, rfl⟩
  · cases name : description.name <;> simp [name, starts] at named

theorem isFile_of_readManifest {location : Location} {description : Description}
    (read : readManifest system location = .ok description) : (system.tree.fileAt? location).isSome := by
  unfold readManifest System.readAt System.entryAt? at read
  unfold Files.Entries.fileAt?
  rcases found : system.tree.entryAt? location with _ | ⟨content⟩ | ⟨inside⟩
  · simp [found] at read
  · rfl
  · simp [found] at read

/-- The manifests at or below a root are those that no skipped directory hides. -/
theorem walked_iff (proper : system.tree.distinct = true) {location : Location} :
    (∃ below, location.dropLast = root ++ below) ∧ location ∈ findManifests system root ↔
      ∃ below, location = root ++ below ++ [manifestName] ∧ (∀ name ∈ root.getLast?, name ∉ skippedNames) ∧
        (∀ name ∈ below, name ∉ skippedNames) ∧ (system.tree.fileAt? location).isSome := by
  constructor
  · rintro ⟨⟨below, placed⟩, walked⟩
    obtain ⟨rootEntered, ⟨inside, deeper, found, rfl, has⟩ | ⟨_, isManifest, rfl⟩⟩ := (mem_findManifests proper).mp walked
    · refine ⟨deeper, rfl, rootEntered, has.entered, ?_⟩
      have present := has.present
      unfold Files.Entries.fileAt? at present ⊢
      rw [List.append_assoc, Files.Entries.entryAt?_append]
      unfold System.entryAt? at found
      rw [found]
      exact present
    · -- A root that is a manifest itself is not at or below itself.
      have lengths := congrArg List.length placed
      rw [List.length_append, List.length_dropLast] at lengths
      have nonempty : location ≠ [] := by
        rintro rfl
        cases isManifest
      have positive : 0 < location.length := List.length_pos_iff.mpr nonempty
      omega
  · rintro ⟨below, rfl, rootEntered, entered, isFile⟩
    refine ⟨⟨below, List.dropLast_concat⟩, (mem_findManifests proper).mpr ⟨rootEntered, .inl ?_⟩⟩
    rw [List.append_assoc] at isFile
    unfold Files.Entries.fileAt? at isFile
    rw [Files.Entries.entryAt?_append] at isFile
    unfold System.entryAt?
    rcases found : system.tree.entryAt? root with _ | ⟨content⟩ | ⟨inside⟩
    · simp [found] at isFile
    · simp [found] at isFile
    · rw [found] at isFile
      exact ⟨inside, below, rfl, rfl, isFile, entered⟩

/-- A manifest that the walk has come to and that makes a package does so for the directory it is in. -/
theorem packageAt_of_surveyed? (proper : system.tree.distinct = true) {location : Location}
    (walked : location ∈ findManifests system root) {package : Discovered}
    (surveyed : surveyed? system root location = some package) :
    ∃ below, location = root ++ below ++ [manifestName] ∧ package.directory = root ++ below ∧
      PackageAt system root below package.description := by
  obtain ⟨read, placed, named⟩ := surveyed?_eq_some.mp surveyed
  obtain ⟨_, directory⟩ := prefix_of_modulePath? named
  obtain ⟨below, rfl, rootEntered, entered, _⟩ := (walked_iff proper).mp ⟨⟨_, placed.symm.trans directory⟩, walked⟩
  rw [List.dropLast_concat] at placed
  rw [placed, modulePath?_append] at named
  have hasName : package.description.name.isSome := by
    obtain ⟨name, present, _⟩ := Option.map_eq_some_iff.mp named
    exact Option.isSome_of_eq_some present
  exact ⟨below, rfl, placed, rootEntered, entered, read, hasName⟩

theorem PackageAt.walked {below : Location} {description : Description}
    (isPackage : PackageAt system root below description) (proper : system.tree.distinct = true) :
    root ++ below ++ [manifestName] ∈ findManifests system root :=
  ((walked_iff proper).mpr ⟨below, rfl, isPackage.rootEntered, isPackage.entered,
    isFile_of_readManifest isPackage.read⟩).2

/-- What a survey of all manifests has found: each package that is there, once. -/
structure Surveys (system : System) (root : Location) (found : Survey) : Prop where
  distinct : (found.packages.map (·.directory)).Nodup
  package_iff : ∀ package, package ∈ found.packages ↔
    ∃ below, package.directory = root ++ below ∧ PackageAt system root below package.description ∧
      modulePath? root package.directory package.description = some package.modulePath

theorem surveys (proper : system.tree.distinct = true)
    (ended : (survey system root (findManifests system root)).outcome = .ok found) : Surveys system root found := by
  have packages := congrArg Survey.packages (survey_ok ended)
  constructor
  · rw [packages, List.Nodup, List.pairwise_map, List.pairwise_filterMap]
    refine List.Pairwise.imp_of_mem ?_ (nodup_findManifests proper)
    intro first second firstWalked secondWalked different package surveyed other otherSurveyed same
    obtain ⟨below, rfl, directory, _⟩ := packageAt_of_surveyed? proper firstWalked surveyed
    obtain ⟨otherBelow, rfl, otherDirectory, _⟩ := packageAt_of_surveyed? proper secondWalked otherSurveyed
    rw [directory, otherDirectory] at same
    exact different (by rw [same])
  · intro package
    rw [packages, List.mem_filterMap]
    constructor
    · rintro ⟨location, walked, surveyed⟩
      obtain ⟨below, _, directory, isPackage⟩ := packageAt_of_surveyed? proper walked surveyed
      exact ⟨below, directory, isPackage, (surveyed?_eq_some.mp surveyed).2.2⟩
    · rintro ⟨below, directory, isPackage, named⟩
      refine ⟨_, isPackage.walked proper, surveyed?_eq_some.mpr ⟨isPackage.read, ?_, named⟩⟩
      rw [directory, List.dropLast_concat]

end Survey

section Discovery

variable {system : System} {root : Location} {filter : DependencyFilter} {found : Survey} {catalog : Catalog}

/-- The module that a declared dependency leads to. -/
def edge? (system : System) (survey : Survey) (workspace : Option Workspace) (package : Discovered)
    (declared : Declared) : Option String :=
  (locationOf? workspace package declared).bind fun relative =>
    match system.locateFrom relative.base relative.path with
    | .error _ => none
    | .ok location => survey.packageAt? location

/-- The dependency list of a package. -/
def dependencies (system : System) (root : Location) (filter : DependencyFilter) (survey : Survey)
    (package : Discovered) : List String :=
  (admitted filter package).filterMap
    (edge? system survey (survey.enclosingWorkspace? root package.directory) package)

theorem edges_outcome (system : System) (survey : Survey) (workspace : Option Workspace) (package : Discovered)
    (declarations : List Declared) : (edges system survey workspace package declarations).outcome =
      .ok (declarations.filterMap (edge? system survey workspace package)) := by
  induction declarations with
  | nil => rfl
  | cons declared rest ih =>
    rw [edges, List.filterMap_cons, edge?]
    cases locationOf? workspace package declared with
    | none => exact ih
    | some relative =>
      dsimp only [Option.bind_some]
      cases system.locateFrom relative.base relative.path with
      | error fault => exact Recorded.bind_ok_iff.mpr ⟨(), rfl, ih⟩
      | ok location =>
        refine Recorded.bind_ok_iff.mpr ⟨_, ih, Recorded.pure_ok_iff.mpr ?_⟩
        dsimp only
        cases survey.packageAt? location <;> rfl

theorem allEdges_outcome (system : System) (root : Location) (filter : DependencyFilter) (survey : Survey)
    (packages : List Discovered) : (allEdges system root filter survey packages).outcome =
      .ok (packages.map fun package => (package.modulePath, dependencies system root filter survey package)) := by
  induction packages with
  | nil => rfl
  | cons package rest ih =>
    rw [allEdges]
    exact Recorded.bind_ok_iff.mpr ⟨_, edges_outcome .., Recorded.bind_ok_iff.mpr ⟨_, ih, rfl⟩⟩

/-- The catalog of what a survey has found. -/
def Survey.toCatalog (survey : Survey) (system : System) (root : Location) (filter : DependencyFilter) : Catalog :=
  .sortedOfPairs (survey.packages.map fun package =>
    (package.modulePath, dependencies system root filter survey package))

/-- Only the survey can fail. -/
theorem discoverAt_outcome (system : System) (root : Location) (filter : DependencyFilter) :
    (discoverAt system root filter).outcome =
      (survey system root (findManifests system root)).outcome.map (·.toCatalog system root filter) := by
  cases surveyed : (survey system root (findManifests system root)).outcome with
  | error failure =>
    unfold discoverAt
    change (Recorded.bind _ _).outcome = _
    rw [Recorded.bind, surveyed]
    rfl
  | ok found =>
    refine Recorded.bind_ok_iff.mpr ⟨found, surveyed, Recorded.bind_ok_iff.mpr ⟨_, allEdges_outcome .., ?_⟩⟩
    exact Recorded.pure_ok_iff.mpr rfl

theorem discoverAt_ok (ended : (discoverAt system root filter).outcome = .ok catalog) :
    ∃ found, (survey system root (findManifests system root)).outcome = .ok found ∧
      catalog = found.toCatalog system root filter := by
  rw [discoverAt_outcome] at ended
  cases surveyed : (survey system root (findManifests system root)).outcome with
  | error failure =>
    rw [surveyed] at ended
    cases ended
  | ok found =>
    rw [surveyed] at ended
    exact ⟨found, rfl, (Except.ok.inj ended).symm⟩

theorem discover_outcome (system : System) (path : String) (filter : DependencyFilter) :
    (discover system path filter).outcome = match system.locate path with
      | .error fault => .error (.unreadableFile path fault)
      | .ok root => (survey system root (findManifests system root)).outcome.map
          (·.toCatalog system root filter) := by
  unfold discover
  cases system.locate path with
  | error fault => rfl
  | ok root => exact discoverAt_outcome system root filter

theorem discover_ok {path : String} (ended : (discover system path filter).outcome = .ok catalog) :
    ∃ location, system.locate path = .ok location ∧ (discoverAt system location filter).outcome = .ok catalog := by
  unfold discover at ended
  cases located : system.locate path with
  | error fault =>
    rw [located] at ended
    cases ended
  | ok location =>
    rw [located] at ended
    exact ⟨location, rfl, ended⟩

/-- The catalog has a declaration for each package, and each package's dependencies are those of its path. -/
structure KeepsAll (system : System) (root : Location) (filter : DependencyFilter) (found : Survey)
    (catalog : Catalog) : Prop where
  size : catalog.size = found.packages.length
  own : ∀ package ∈ found.packages,
    catalog.dependencies? package.modulePath = some (dependencies system root filter found package)

theorem keepsAll_iff (found : Survey) : KeepsAll system root filter found (found.toCatalog system root filter) ↔
    (found.packages.map (·.modulePath)).Nodup := by
  have size := Catalog.size_sortedOfPairs_eq_iff (found.packages.map
    fun package => (package.modulePath, dependencies system root filter found package))
  rw [List.length_map, List.map_map] at size
  constructor
  · intro keeps
    exact size.mp keeps.size
  · intro distinct
    refine ⟨size.mpr distinct, fun package member => ?_⟩
    apply Catalog.dependencies?_of_nodup
    · rwa [List.map_map]
    · exact List.mem_map_of_mem member

end Discovery

section Names

variable {names others : List String}

/-- No name has a separator in it. -/
def Plain (names : List String) : Prop := ∀ name ∈ names, ModulePath.separator ∉ name.toList

theorem join_separated (first : String) (names : List String) :
    String.join ((first :: names).map (":" ++ ·)) = ":" ++ String.intercalate ":" (first :: names) := by
  apply String.toList_injective
  rw [String.toList_join, String.toList_append, String.toList_intercalate, List.flatMap_map]
  induction names generalizing first with
  | nil => simp
  | cons second rest ih =>
    rw [List.flatMap_cons, ih second]
    simp only [List.map_cons, List.intercalate_cons_cons, String.toList_append, List.append_assoc]

theorem intercalate_injective (plain : Plain names) (otherPlain : Plain others) (nonempty : names ≠ [])
    (otherNonempty : others ≠ [])
    (same : String.intercalate ":" names = String.intercalate ":" others) : names = others := by
  have parts {names : List String} (plain : Plain names) (nonempty : names ≠ []) :
      (String.intercalate ":" names).toList.splitOn ModulePath.separator = names.map String.toList := by
    rw [String.toList_intercalate]
    apply List.splitOn_intercalate
    · exact List.forall_mem_map.mpr plain
    · simpa using nonempty
  have texts := parts plain nonempty
  rw [same, parts otherPlain otherNonempty] at texts
  have injective : Function.Injective String.toList := fun _ _ => String.toList_injective
  exact (List.map_injective_iff.mpr injective texts).symm

end Names

section Paths

variable {system : System} {root : Location} {found : Survey} {package : Discovered}

theorem Surveys.exists_package (surveys : Surveys system root found) {below : Location}
    {description : Description} (isPackage : PackageAt system root below description) :
    ∃ package ∈ found.packages, package.directory = root ++ below ∧ package.description = description := by
  obtain ⟨name, named⟩ := Option.isSome_iff_exists.mp isPackage.named
  have path := modulePath?_append root below description
  rw [named] at path
  exact ⟨⟨root ++ below, _, description⟩, (surveys.package_iff _).mpr ⟨below, rfl, isPackage, path⟩, rfl, rfl⟩

/-- A package's path is that of its directory or, in the root, its name behind a separator. -/
theorem Surveys.modulePath_eq (surveys : Surveys system root found) (member : package ∈ found.packages) :
    ∃ below name, package.directory = root ++ below ∧ PackageAt system root below package.description ∧
      package.description.name = some name ∧
      package.modulePath = ":" ++ String.intercalate ":" (pathNames name below) := by
  obtain ⟨below, placed, isPackage, named⟩ := (surveys.package_iff package).mp member
  rw [placed, modulePath?_append] at named
  obtain ⟨name, present, path⟩ := Option.map_eq_some_iff.mp named
  refine ⟨below, name, placed, isPackage, present, path.symm.trans ?_⟩
  unfold pathNames
  cases below with
  | nil => exact join_separated name []
  | cons first below => exact join_separated first below

/-- Among plain directory names the only package that can get the path of another one is that of the root. -/
theorem Surveys.nodup_iff (surveys : Surveys system root found)
    (plain : ∀ below description, PackageAt system root below description → Plain below) :
    (found.packages.map (·.modulePath)).Nodup ↔
      ∀ own below other, PackageAt system root [] own → below ≠ [] → PackageAt system root below other →
        own.name ≠ some (String.intercalate ":" below) := by
  constructor
  · intro distinct own below other ownPackage deeper otherPackage meets
    obtain ⟨first, firstMember, firstPlaced, rfl⟩ := surveys.exists_package ownPackage
    obtain ⟨second, secondMember, secondPlaced, rfl⟩ := surveys.exists_package otherPackage
    obtain ⟨nowhere, name, placed, _, present, path⟩ := surveys.modulePath_eq firstMember
    obtain ⟨_, otherName, otherPlaced, _, _, otherPath⟩ := surveys.modulePath_eq secondMember
    obtain rfl : nowhere = [] := List.append_cancel_left (placed.symm.trans firstPlaced)
    obtain rfl := List.append_cancel_left (otherPlaced.symm.trans secondPlaced)
    obtain rfl := Option.some.inj (present.symm.trans meets)
    have same : first.modulePath = second.modulePath := by
      rw [path, otherPath]
      simp [pathNames, deeper]
    obtain rfl := List.inj_on_of_nodup_map distinct firstMember secondMember same
    exact deeper (List.append_cancel_left (secondPlaced.symm.trans firstPlaced))
  · intro apart
    refine List.Nodup.map_on ?_ (List.Nodup.of_map _ surveys.distinct)
    intro first firstMember second secondMember same
    obtain ⟨below, name, placed, isPackage, present, path⟩ := surveys.modulePath_eq firstMember
    obtain ⟨otherBelow, otherName, otherPlaced, otherIsPackage, otherPresent, otherPath⟩ :=
      surveys.modulePath_eq secondMember
    rw [path, otherPath, String.append_right_inj] at same
    have directories : below = otherBelow := by
      -- Only one of the two can be in the root, and then the other one is below it.
      by_cases inRoot : below = []
      · by_cases otherInRoot : otherBelow = []
        · rw [inRoot, otherInRoot]
        · subst inRoot
          have meets : name = String.intercalate ":" otherBelow := by simpa [pathNames, otherInRoot] using same
          exact absurd (present.trans (congrArg some meets))
            (apart _ otherBelow _ isPackage otherInRoot otherIsPackage)
      · by_cases otherInRoot : otherBelow = []
        · subst otherInRoot
          have meets : otherName = String.intercalate ":" below := by
            simpa [pathNames, inRoot] using same.symm
          exact absurd (otherPresent.trans (congrArg some meets))
            (apart _ below _ otherIsPackage inRoot isPackage)
        · have texts : String.intercalate ":" below = String.intercalate ":" otherBelow := by
            simpa [pathNames, inRoot, otherInRoot] using same
          exact intercalate_injective (plain _ _ isPackage) (plain _ _ otherIsPackage) inRoot otherInRoot texts
    apply List.inj_on_of_nodup_map surveys.distinct firstMember secondMember
    rw [placed, otherPlaced, directories]

/-- All packages below a root are kept exactly if their module paths are distinct. If no directory has a
separator in its name, that is the case exactly if the package in the root has not the name of another one's
directory. The file system is plain: it has no links, all of it can be read, and its names are texts. -/
theorem discover_keepsAll_iff (system : System) (path : String) (filter : DependencyFilter) (catalog : Catalog)
    (proper : system.tree.distinct = true) (discovered : (discover system path filter).outcome = .ok catalog) :
    ∃ root found, system.locate path = .ok root ∧
      (survey system root (findManifests system root)).outcome = .ok found ∧ Surveys system root found ∧
      (∀ path, path ∈ catalog.paths ↔ ∃ package ∈ found.packages, package.modulePath = path) ∧
      (KeepsAll system root filter found catalog ↔ (found.packages.map (·.modulePath)).Nodup) ∧
      ((∀ below description, PackageAt system root below description → Plain below) →
        (KeepsAll system root filter found catalog ↔
          ∀ own below other, PackageAt system root [] own → below ≠ [] → PackageAt system root below other →
            own.name ≠ some (String.intercalate ":" below))) := by
  obtain ⟨root, located, discovered⟩ := discover_ok discovered
  obtain ⟨found, surveyed, rfl⟩ := discoverAt_ok discovered
  have complete := surveys proper surveyed
  refine ⟨root, found, located, surveyed, complete, fun path => ?_, keepsAll_iff found, fun plain => ?_⟩
  · rw [Survey.toCatalog, Catalog.mem_paths_sortedOfPairs, List.map_map]
    exact List.mem_map
  · rw [keepsAll_iff]
    exact complete.nodup_iff plain

/-- A package in the root that depends on one below it, and a package in a directory called `core`. -/
def workshop (name : String) : System where
  tree :=
    .file "Cargo.toml"
      ("[package]\nname = \"" ++ name ++ "\"\n[dependencies]\ndata = \x7b path = \"data\" \x7d\n").toUTF8
      (.directory "core" (.file "Cargo.toml" "[package]\nname = \"x\"\n".toUTF8 .nil)
        (.directory "data" (.file "Cargo.toml" "[package]\nname = \"data\"\n".toUTF8 .nil) .nil))
  workingDirectory := []

theorem findManifests_workshop (name : String) :
    findManifests (workshop name) [] = [["Cargo.toml"], ["core", "Cargo.toml"], ["data", "Cargo.toml"]] := by
  have ordered : [["Cargo.toml"], ["core", "Cargo.toml"], ["data", "Cargo.toml"]].Pairwise (notAfter · ·) := by
    decide +kernel
  exact List.mergeSort_of_pairwise ordered

theorem discover_workshop (name : String) : discover (workshop name) "." .includeAll =
    (do
      let survey ← survey (workshop name) [] [["Cargo.toml"], ["core", "Cargo.toml"], ["data", "Cargo.toml"]]
      let pairs ← allEdges (workshop name) [] .includeAll survey survey.packages
      pure (Catalog.sortedOfPairs pairs)) := by
  have located : (workshop name).locate "." = .ok [] := rfl
  rw [discover, located]
  dsimp only
  rw [discoverAt, findManifests_workshop]

/-- The directories of its packages and the names they have. -/
def workshopPackages (name : String) : List (Location × Option String) :=
  [([], name), (["core"], "x"), (["data"], "data")]

theorem discover_apart :
    (discover (workshop "app") "." .includeAll).outcome =
      .ok ⟨[⟨":app", [":data"]⟩, ⟨":core", []⟩, ⟨":data", []⟩]⟩ ∧
    ∃ found, found.packages.map (fun package => (package.directory, package.description.name)) =
        workshopPackages "app" ∧
      KeepsAll (workshop "app") [] .includeAll found ⟨[⟨":app", [":data"]⟩, ⟨":core", []⟩, ⟨":data", []⟩]⟩ := by
  have discovered : (discover (workshop "app") "." .includeAll).outcome =
      .ok ⟨[⟨":app", [":data"]⟩, ⟨":core", []⟩, ⟨":data", []⟩]⟩ := by
    rw [discover_workshop]
    decide +kernel
  obtain ⟨root, found, located, surveyed, surveys, _, _, keepsAll_iff⟩ :=
    discover_keepsAll_iff (workshop "app") "." .includeAll _ (by decide +kernel) discovered
  obtain rfl : root = [] := (Except.ok.inj located).symm
  have all : (survey (workshop "app") [] [["Cargo.toml"], ["core", "Cargo.toml"], ["data", "Cargo.toml"]]).outcome.map
      (fun found => found.packages.map fun package => (package.directory, package.description.name)) =
        .ok (workshopPackages "app") := by
    decide +kernel
  rw [← findManifests_workshop "app", surveyed] at all
  have packages := Except.ok.inj all
  have listed {below : Location} {description : Description}
      (isPackage : PackageAt (workshop "app") [] below description) :
      (below, description.name) ∈ workshopPackages "app" := by
    obtain ⟨package, member, placed, rfl⟩ := surveys.exists_package isPackage
    rw [← packages]
    exact List.mem_map.mpr ⟨package, member, by rw [placed, List.nil_append]⟩
  have plain : ∀ entry ∈ workshopPackages "app", Plain entry.1 := by
    unfold Plain
    decide
  have apart : ∀ own ∈ workshopPackages "app", own.1 = [] → ∀ other ∈ workshopPackages "app", other.1 ≠ [] →
      own.2 ≠ some (String.intercalate ":" other.1) := by
    decide +kernel
  refine ⟨discovered, found, packages, (keepsAll_iff fun below description isPackage => ?_).mpr ?_⟩
  · exact plain _ (listed isPackage)
  · intro own below other ownPackage deeper otherPackage
    exact apart _ (listed ownPackage) rfl _ (listed otherPackage) deeper

/-- With the name of that directory the root's package is lost, and what it depends on with it. -/
theorem discover_overshadowed :
    (discover (workshop "core") "." .includeAll).outcome = .ok ⟨[⟨":core", []⟩, ⟨":data", []⟩]⟩ ∧
    ∃ found, (survey (workshop "core") [] (findManifests (workshop "core") [])).outcome = .ok found ∧
      found.packages.map (fun package => (package.directory, package.modulePath,
        dependencies (workshop "core") [] .includeAll found package)) =
        [([], ":core", [":data"]), (["core"], ":core", []), (["data"], ":data", [])] ∧
      ¬ KeepsAll (workshop "core") [] .includeAll found ⟨[⟨":core", []⟩, ⟨":data", []⟩]⟩ := by
  have discovered : (discover (workshop "core") "." .includeAll).outcome =
      .ok ⟨[⟨":core", []⟩, ⟨":data", []⟩]⟩ := by
    rw [discover_workshop]
    decide +kernel
  obtain ⟨root, located, ended⟩ := discover_ok discovered
  obtain rfl : root = [] := (Except.ok.inj located).symm
  obtain ⟨found, surveyed, _⟩ := discoverAt_ok ended
  have all : (survey (workshop "core") [] [["Cargo.toml"], ["core", "Cargo.toml"], ["data", "Cargo.toml"]]).outcome.map
      (fun found => found.packages.map fun package => (package.directory, package.modulePath,
        dependencies (workshop "core") [] .includeAll found package)) =
        .ok [([], ":core", [":data"]), (["core"], ":core", []), (["data"], ":data", [])] := by
    decide +kernel
  rw [← findManifests_workshop "core", surveyed] at all
  have packages := Except.ok.inj all
  refine ⟨discovered, found, surveyed, packages, fun keeps => ?_⟩
  have length := congrArg List.length packages
  rw [List.length_map] at length
  have size := keeps.size
  rw [length] at size
  cases size

end Paths

end Package

end DependencyDiagram
