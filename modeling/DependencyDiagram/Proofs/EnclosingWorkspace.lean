import DependencyDiagram.Proofs.PackagePaths
import Mathlib.Data.List.Induction

/-!
Workspaces around packages. A survey keeps what each workspace below the root offers, and a package looks for
one from its own directory upwards, so it inherits from the nearest workspace and from no other.
-/

namespace DependencyDiagram.Package

open Files (Location System)

/-- The manifest in this directory opens a workspace that offers these dependencies. -/
def WorkspaceAt (system : System) (directory : Location) (table : DependencyTable) : Prop :=
  ∃ description, readManifest system (directory ++ [manifestName]) = .ok description ∧
    description.workspace = some table

/-- The workspace at `above` is the nearest one at or above `below`, both seen from the root. -/
structure Encloses (system : System) (root below above : Location) (table : DependencyTable) : Prop where
  onTheWay : above <+: below
  opened : WorkspaceAt system (root ++ above) table
  nearest : ∀ between, between <+: below → above.length < between.length →
    ∀ other, ¬ WorkspaceAt system (root ++ between) other

/-- A dependency of this name is offered with this path. A TOML table has a name only once; where one had it
more often, the first entry with a path would count. -/
def Offers (table : DependencyTable) (name path : String) : Prop :=
  ∃ earlier dependency later, table = earlier ++ (name, dependency) :: later ∧ dependency.path = some path ∧
    ∀ entry ∈ earlier, entry.1 = name → entry.2.path = none

theorem lookup_offeredPaths {table : DependencyTable} {name path : String} :
    (offeredPaths table).lookup name = some path ↔ Offers table name path := by
  induction table with
  | nil => simp [offeredPaths, Offers]
  | cons entry rest ih =>
    obtain ⟨key, dependency⟩ := entry
    -- An entry that is passed over joins those before the one that counts.
    have passed (skipped : key = name → dependency.path = none) :
        Offers ((key, dependency) :: rest) name path ↔ Offers rest name path := by
      constructor
      · rintro ⟨_ | ⟨first, earlier⟩, found, later, same, present, before⟩
        · obtain ⟨rfl, rfl⟩ := Prod.mk.inj (List.cons.inj same).1
          cases (skipped rfl).symm.trans present
        · obtain ⟨rfl, rfl⟩ := List.cons.inj same
          exact ⟨earlier, found, later, rfl, present, fun entry member =>
            before entry (List.mem_cons_of_mem _ member)⟩
      · rintro ⟨earlier, found, later, rfl, present, before⟩
        refine ⟨(key, dependency) :: earlier, found, later, rfl, present, ?_⟩
        exact List.forall_mem_cons.mpr ⟨skipped, before⟩
    unfold offeredPaths at ih ⊢
    cases present : dependency.path with
    | none =>
      rw [passed fun _ => present, List.filterMap_cons, ← ih]
      simp [present]
    | some offered =>
      by_cases same : key = name
      · subst same
        have counts : Offers ((key, dependency) :: rest) key path ↔ offered = path := by
          constructor
          · rintro ⟨_ | ⟨first, earlier⟩, found, later, same, foundPath, before⟩
            · obtain ⟨_, rfl⟩ := Prod.mk.inj (List.cons.inj same).1
              exact Option.some.inj (present.symm.trans foundPath)
            · obtain ⟨rfl, _⟩ := List.cons.inj same
              cases present.symm.trans (before (key, dependency) List.mem_cons_self rfl)
          · rintro rfl
            exact ⟨[], dependency, rest, rfl, present, by simp⟩
        rw [counts, List.filterMap_cons]
        simp [present]
      · rw [passed fun equal => absurd equal same, List.filterMap_cons, ← ih]
        simp [present, List.lookup_cons, beq_false_of_ne (Ne.symm same)]

section Upwards

variable {root below : Location} {name : String}

theorem upTo_root (root : Location) : Survey.upTo root root = [root] := by
  simp [Survey.upTo]

/-- After a directory come those that its parent has. -/
theorem upTo_concat (root below : Location) (name : String) : Survey.upTo root (root ++ (below ++ [name])) =
    (root ++ (below ++ [name])) :: Survey.upTo root (root ++ below) := by
  have size : (root ++ (below ++ [name])).length + 1 - root.length = (root ++ below).length + 1 - root.length + 1 := by
    simp only [List.length_append, List.length_singleton]
    omega
  rw [Survey.upTo, size, List.range_succ_eq_map, List.map_cons, List.map_map, Nat.sub_zero, List.take_length,
    Survey.upTo]
  refine congrArg (List.cons _) (List.map_congr_left fun steps _ => ?_)
  have shorter : (root ++ (below ++ [name])).length - (steps + 1) = (root ++ below).length - steps := by
    simp only [List.length_append, List.length_singleton]
    omega
  rw [Function.comp_apply, shorter, ← List.append_assoc]
  exact List.take_append_of_le_length (Nat.sub_le _ _)

/-- A search upwards ends with the nearest directory that has something. -/
theorem findSome?_upTo {α : Type} (search : Location → Option α) (value : α) :
    (Survey.upTo root (root ++ below)).findSome? search = some value ↔
      ∃ above, above <+: below ∧ search (root ++ above) = some value ∧
        ∀ between, between <+: below → above.length < between.length → search (root ++ between) = none := by
  induction below using List.reverseRecOn with
  | nil =>
    rw [List.append_nil, upTo_root, List.findSome?_singleton]
    constructor
    · intro found
      refine ⟨[], List.nil_prefix, by rwa [List.append_nil], fun between inside longer => ?_⟩
      rw [List.prefix_nil.mp inside] at longer
      exact absurd longer (Nat.lt_irrefl 0)
    · rintro ⟨above, inside, found, _⟩
      rwa [List.prefix_nil.mp inside, List.append_nil] at found
  | append_singleton below name ih =>
    rw [upTo_concat, List.findSome?_cons]
    cases here : search (root ++ (below ++ [name])) with
    | some first =>
      dsimp only
      constructor
      · intro same
        refine ⟨below ++ [name], List.prefix_rfl, here.trans same, fun between inside longer => ?_⟩
        exact absurd inside.length_le (Nat.not_le_of_lt longer)
      · rintro ⟨above, inside, found, nearest⟩
        rcases List.prefix_concat_iff.mp inside with rfl | shorter
        · exact here.symm.trans found
        · have longer : above.length < (below ++ [name]).length := by
            rw [List.length_append, List.length_singleton]
            exact Nat.lt_succ_of_le shorter.length_le
          cases here.symm.trans (nearest _ List.prefix_rfl longer)
    | none =>
      dsimp only
      rw [ih]
      constructor
      · rintro ⟨above, inside, found, nearest⟩
        refine ⟨above, inside.trans (List.prefix_append below [name]), found, fun between between_inside longer => ?_⟩
        rcases List.prefix_concat_iff.mp between_inside with rfl | shorter
        · exact here
        · exact nearest between shorter longer
      · rintro ⟨above, inside, found, nearest⟩
        rcases List.prefix_concat_iff.mp inside with rfl | shorter
        · cases here.symm.trans found
        · exact ⟨above, shorter, found, fun between between_inside =>
            nearest between (between_inside.trans (List.prefix_append below [name]))⟩

end Upwards

section Enclosing

variable {system : System} {root below : Location} {found : Survey} {workspace : Workspace}

theorem workspace?_eq_some {location : Location} : workspace? system location = some workspace ↔
    ∃ description table, readManifest system location = .ok description ∧ description.workspace = some table ∧
      workspace = ⟨location.dropLast, offeredPaths table⟩ := by
  unfold workspace?
  cases readManifest system location with
  | error failure => simp
  | ok description =>
    simp only [Option.map_eq_some_iff, Except.ok.injEq]
    constructor
    · rintro ⟨table, opened, rfl⟩
      exact ⟨description, table, rfl, opened, rfl⟩
    · rintro ⟨_, table, rfl, opened, rfl⟩
      exact ⟨table, opened, rfl⟩

/-- In directories that are not skipped the survey has found every workspace. -/
theorem workspaceAt?_eq_some (proper : system.tree.distinct = true)
    (ended : (survey system root (findManifests system root)).outcome = .ok found)
    (rootEntered : ∀ name ∈ root.getLast?, name ∉ skippedNames) (entered : ∀ name ∈ below, name ∉ skippedNames) :
    found.workspaceAt? (root ++ below) = some workspace ↔
      ∃ table, WorkspaceAt system (root ++ below) table ∧ workspace = ⟨root ++ below, offeredPaths table⟩ := by
  have workspaces := congrArg Survey.workspaces (survey_ok ended)
  dsimp only at workspaces
  have listed_iff (other : Workspace) : other ∈ found.workspaces ∧ other.directory = root ++ below ↔
      ∃ table, WorkspaceAt system (root ++ below) table ∧ other = ⟨root ++ below, offeredPaths table⟩ := by
    rw [workspaces, List.mem_filterMap]
    constructor
    · rintro ⟨⟨location, walked, opened⟩, placed⟩
      obtain ⟨description, table, read, offers, rfl⟩ := workspace?_eq_some.mp opened
      dsimp only at placed
      obtain ⟨deeper, rfl, _, _, _⟩ := (walked_iff proper).mp ⟨⟨below, placed⟩, walked⟩
      rw [List.dropLast_concat] at placed
      rw [placed] at read
      exact ⟨table, ⟨description, read, offers⟩, by rw [List.dropLast_concat, placed]⟩
    · rintro ⟨table, ⟨description, read, offers⟩, rfl⟩
      have walked := ((walked_iff proper).mpr
        ⟨below, rfl, rootEntered, entered, isFile_of_readManifest read⟩).2
      refine ⟨⟨_, walked, workspace?_eq_some.mpr ⟨description, table, read, offers, ?_⟩⟩, rfl⟩
      rw [List.dropLast_concat]
  unfold Survey.workspaceAt?
  constructor
  · intro first
    have placed : workspace.directory = root ++ below := by simpa using List.find?_some first
    exact (listed_iff workspace).mp ⟨List.mem_of_find?_eq_some first, placed⟩
  · rintro ⟨table, opened, rfl⟩
    obtain ⟨listed, placed⟩ := (listed_iff _).mpr ⟨table, opened, rfl⟩
    obtain ⟨first, first_eq⟩ := Option.isSome_iff_exists.mp
      (List.find?_isSome.mpr ⟨_, listed, beq_iff_eq.mpr placed⟩ :
        (found.workspaces.find? (·.directory == root ++ below)).isSome = true)
    -- One manifest opens one workspace only.
    have firstPlaced : first.directory = root ++ below := by simpa using List.find?_some first_eq
    obtain ⟨other, ⟨description, read, offers⟩, rfl⟩ :=
      (listed_iff first).mp ⟨List.mem_of_find?_eq_some first_eq, firstPlaced⟩
    obtain ⟨_, sameRead, sameOffers⟩ := opened
    obtain rfl := Except.ok.inj (read.symm.trans sameRead)
    obtain rfl := Option.some.inj (offers.symm.trans sameOffers)
    exact first_eq

/-- The workspace that a package inherits from is the one that encloses it. -/
theorem enclosingWorkspace?_eq_some (proper : system.tree.distinct = true)
    (ended : (survey system root (findManifests system root)).outcome = .ok found)
    (rootEntered : ∀ name ∈ root.getLast?, name ∉ skippedNames) (entered : ∀ name ∈ below, name ∉ skippedNames) :
    found.enclosingWorkspace? root (root ++ below) = some workspace ↔
      ∃ above table, Encloses system root below above table ∧ workspace = ⟨root ++ above, offeredPaths table⟩ := by
  have at_iff {above : Location} (inside : above <+: below) (workspace : Workspace) :
      found.workspaceAt? (root ++ above) = some workspace ↔
        ∃ table, WorkspaceAt system (root ++ above) table ∧ workspace = ⟨root ++ above, offeredPaths table⟩ :=
    workspaceAt?_eq_some proper ended rootEntered fun name member => entered name (inside.subset member)
  have none_iff {between : Location} (inside : between <+: below) :
      found.workspaceAt? (root ++ between) = none ↔ ∀ table, ¬ WorkspaceAt system (root ++ between) table := by
    rw [Option.eq_none_iff_forall_ne_some]
    constructor
    · intro absent table opened
      exact absent _ ((at_iff inside _).mpr ⟨table, opened, rfl⟩)
    · intro absent other present
      obtain ⟨table, opened, _⟩ := (at_iff inside other).mp present
      exact absent table opened
  rw [Survey.enclosingWorkspace?, findSome?_upTo]
  constructor
  · rintro ⟨above, inside, present, nearest⟩
    obtain ⟨table, opened, rfl⟩ := (at_iff inside workspace).mp present
    refine ⟨above, table, ⟨inside, opened, fun between inside longer => ?_⟩, rfl⟩
    exact (none_iff inside).mp (nearest between inside longer)
  · rintro ⟨above, table, encloses, rfl⟩
    refine ⟨above, encloses.onTheWay, (at_iff encloses.onTheWay _).mpr ⟨table, encloses.opened, rfl⟩, ?_⟩
    intro between inside longer
    exact (none_iff inside).mpr (encloses.nearest between inside longer)

end Enclosing

end DependencyDiagram.Package
