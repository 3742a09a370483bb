import DependencyDiagram.Package.Discovery
import DependencyDiagram.Proofs.FileTree

/-!
Manifests in a directory tree. A walk finds exactly the files with the manifest's name that are not below
a skipped directory, each of them once, provided that the names in every directory are distinct.
-/

namespace DependencyDiagram

namespace Files.Entries

/-- No directory has two entries of one name. -/
def distinct : Entries → Bool
  | .nil => true
  | .file name _ rest => (rest.find? name).isNone && rest.distinct
  | .directory name inside rest => (rest.find? name).isNone && inside.distinct && rest.distinct

theorem distinct_of_find? {name : String} {inside entries : Entries} (proper : entries.distinct = true)
    (found : entries.find? name = some (.directory inside)) : inside.distinct = true := by
  induction entries with
  | nil => cases found
  | file other content rest ih =>
    rw [distinct, Bool.and_eq_true] at proper
    rw [find?] at found
    split at found
    · cases found
    · exact ih proper.2 found
  | directory other below rest _ ih =>
    rw [distinct, Bool.and_eq_true, Bool.and_eq_true] at proper
    rw [find?] at found
    split at found
    · obtain rfl := Entry.directory.inj (Option.some.inj found)
      exact proper.1.2
    · exact ih proper.2 found

theorem entryAt?_append (first second : Location) (entries : Entries) :
    entries.entryAt? (first ++ second) = match entries.entryAt? first with
      | some (.directory inside) => inside.entryAt? second
      | some (.file content) => if second = [] then some (.file content) else none
      | none => none := by
  induction first generalizing entries with
  | nil => rw [List.nil_append, entryAt?]
  | cons name first ih =>
    rw [List.cons_append, entryAt?, entryAt?]
    cases entries.find? name with
    | none => rfl
    | some entry =>
      cases entry with
      | directory inside => exact ih inside
      | file content =>
        cases first with
        | nil => cases second <;> rfl
        | cons other first => rfl

theorem distinct_of_entryAt? {location : Location} {inside entries : Entries} (proper : entries.distinct = true)
    (found : entries.entryAt? location = some (.directory inside)) : inside.distinct = true := by
  induction location generalizing entries with
  | nil =>
    obtain rfl := Entry.directory.inj (Option.some.inj found)
    exact proper
  | cons name location ih =>
    rw [entryAt?] at found
    split at found
    · next below first => exact ih (distinct_of_find? proper first) found
    · split at found <;> cases found
    · cases found

theorem fileAt?_root (entries : Entries) : entries.fileAt? [] = none := by
  rw [fileAt?, entryAt?]

theorem fileAt?_cons (entries : Entries) (name : String) (location : Location) :
    entries.fileAt? (name :: location) = match entries.find? name with
      | some (.directory inside) => inside.fileAt? location
      | some (.file content) => if location = [] then some content else none
      | none => none := by
  rw [fileAt?, entryAt?]
  cases entries.find? name with
  | none => rfl
  | some entry =>
    cases entry with
    | directory inside => rfl
    | file content => cases location <;> rfl

end Files.Entries

namespace Package

open Files (Location Entries System)

/-- Below this directory there is a manifest in which a walk ends: a file with the right name in a directory
that is reached without entering one that is skipped. -/
structure HasManifest (entries : Entries) (below : Location) : Prop where
  present : (entries.fileAt? (below ++ [manifestName])).isSome
  entered : ∀ name ∈ below, name ∉ skippedNames

section Walk

variable {entries rest inside : Entries} {name first : String} {content : ByteArray} {below location : Location}

theorem hasManifest_root : HasManifest entries [] ↔ ∃ content, entries.find? manifestName = some (.file content) := by
  have present_iff : (entries.fileAt? [manifestName]).isSome ↔
      ∃ content, entries.find? manifestName = some (.file content) := by
    rw [Entries.fileAt?_cons]
    rcases entries.find? manifestName with _ | ⟨content⟩ | ⟨inside⟩ <;> simp [Entries.fileAt?_root]
  rw [← present_iff]
  exact ⟨fun has => has.present, fun present => ⟨present, by simp⟩⟩

theorem hasManifest_cons : HasManifest entries (first :: below) ↔
    first ∉ skippedNames ∧ ∃ inside, entries.find? first = some (.directory inside) ∧ HasManifest inside below := by
  have present_iff : (entries.fileAt? (first :: (below ++ [manifestName]))).isSome ↔
      ∃ inside, entries.find? first = some (.directory inside) ∧
        (inside.fileAt? (below ++ [manifestName])).isSome := by
    rw [Entries.fileAt?_cons]
    rcases entries.find? first with _ | ⟨content⟩ | ⟨inside⟩ <;> simp
  constructor
  · intro has
    obtain ⟨enteredFirst, entered⟩ := List.forall_mem_cons.mp has.entered
    obtain ⟨inside, found, present⟩ := present_iff.mp has.present
    exact ⟨enteredFirst, inside, found, present, entered⟩
  · intro has
    obtain ⟨enteredFirst, inside, found, has⟩ := has
    exact ⟨present_iff.mpr ⟨inside, found, has.present⟩, List.forall_mem_cons.mpr ⟨enteredFirst, has.entered⟩⟩

theorem hasManifest_file (absent : rest.find? name = none) :
    HasManifest (.file name content rest) below ↔ (name = manifestName ∧ below = []) ∨ HasManifest rest below := by
  cases below with
  | nil =>
    rw [hasManifest_root, hasManifest_root, Entries.find?]
    by_cases named : name = manifestName <;> simp [named]
  | cons first below =>
    rw [hasManifest_cons, hasManifest_cons, Entries.find?]
    by_cases same : name = first
    · subst same
      simp [absent]
    · simp [same]

theorem hasManifest_directory (absent : rest.find? name = none) :
    HasManifest (.directory name inside rest) below ↔
      (name ∉ skippedNames ∧ ∃ deeper, below = name :: deeper ∧ HasManifest inside deeper) ∨
        HasManifest rest below := by
  cases below with
  | nil =>
    rw [hasManifest_root, hasManifest_root, Entries.find?]
    by_cases named : name = manifestName
    · subst named
      simp [absent]
    · simp [named]
  | cons first below =>
    rw [hasManifest_cons, hasManifest_cons, Entries.find?]
    by_cases same : name = first
    · subst same
      simp [absent]
    · simp [same, Ne.symm same]

/-- The walk finds the manifests that are there. -/
theorem mem_manifestsBelow (here : Location) (proper : entries.distinct = true) :
    location ∈ manifestsBelow here entries ↔
      ∃ below, location = here ++ below ++ [manifestName] ∧ HasManifest entries below := by
  induction entries generalizing here with
  | nil =>
    simp only [manifestsBelow, List.not_mem_nil, false_iff, not_exists, not_and]
    intro below _ has
    cases below with
    | nil => simp [hasManifest_root, Entries.find?] at has
    | cons first below => simp [hasManifest_cons, Entries.find?] at has
  | file name content rest ih =>
    rw [Entries.distinct, Bool.and_eq_true, Option.isNone_iff_eq_none] at proper
    have later := ih here proper.2
    simp only [hasManifest_file proper.1]
    rw [manifestsBelow]
    by_cases named : name = manifestName
    · rw [if_pos named, List.mem_cons, later, named]
      constructor
      · rintro (rfl | ⟨below, placed, has⟩)
        · exact ⟨[], by simp, .inl ⟨rfl, rfl⟩⟩
        · exact ⟨below, placed, .inr has⟩
      · rintro ⟨below, placed, ⟨_, rfl⟩ | has⟩
        · exact .inl (by simpa using placed)
        · exact .inr ⟨below, placed, has⟩
    · rw [if_neg named, later]
      simp only [named, false_and, false_or]
  | directory name inside rest ihInside ih =>
    rw [Entries.distinct, Bool.and_eq_true, Bool.and_eq_true, Option.isNone_iff_eq_none] at proper
    obtain ⟨⟨absent, insideProper⟩, restProper⟩ := proper
    have later := ih here restProper
    simp only [hasManifest_directory absent]
    rw [manifestsBelow]
    by_cases skipped : name ∈ skippedNames
    · rw [if_pos skipped, later]
      simp only [skipped, not_true_eq_false, false_and, false_or]
    · rw [if_neg skipped, List.mem_append, later, ihInside (here ++ [name]) insideProper]
      constructor
      · rintro (⟨deeper, placed, has⟩ | ⟨below, placed, has⟩)
        · exact ⟨name :: deeper, by simpa using placed, .inl ⟨skipped, deeper, rfl, has⟩⟩
        · exact ⟨below, placed, .inr has⟩
      · rintro ⟨below, placed, ⟨_, deeper, rfl, has⟩ | has⟩
        · exact .inl ⟨deeper, by simpa using placed, has⟩
        · exact .inr ⟨below, placed, has⟩

theorem nodup_manifestsBelow (here : Location) (proper : entries.distinct = true) : (manifestsBelow here entries).Nodup := by
  induction entries generalizing here with
  | nil => exact List.nodup_nil
  | file name content rest ih =>
    rw [Entries.distinct, Bool.and_eq_true, Option.isNone_iff_eq_none] at proper
    have restNodup := ih here proper.2
    rw [manifestsBelow]
    split
    · next named =>
      refine List.nodup_cons.mpr ⟨fun again => ?_, restNodup⟩
      obtain ⟨below, placed, has⟩ := (mem_manifestsBelow here proper.2).mp again
      obtain rfl : below = [] := by simpa [named] using placed
      rw [named] at proper
      simp [hasManifest_root, proper.1] at has
    · exact restNodup
  | directory name inside rest ihInside ih =>
    rw [Entries.distinct, Bool.and_eq_true, Bool.and_eq_true, Option.isNone_iff_eq_none] at proper
    obtain ⟨⟨absent, insideProper⟩, restProper⟩ := proper
    have restNodup := ih here restProper
    rw [manifestsBelow]
    split
    · exact restNodup
    · refine List.nodup_append.mpr ⟨ihInside (here ++ [name]) insideProper, restNodup, ?_⟩
      intro first inFirst second inSecond same
      subst same
      obtain ⟨deeper, placed, _⟩ := (mem_manifestsBelow _ insideProper).mp inFirst
      obtain ⟨below, placedAgain, has⟩ := (mem_manifestsBelow here restProper).mp inSecond
      have both := placed.symm.trans placedAgain
      rw [List.append_cancel_right_eq, List.append_assoc, List.append_cancel_left_eq] at both
      subst both
      simp [hasManifest_cons, absent] at has

end Walk

section Find

variable {system : System} {root below location : Location}

theorem mem_findManifests (proper : system.tree.distinct = true) : location ∈ findManifests system root ↔
    (∀ name ∈ root.getLast?, name ∉ skippedNames) ∧
      ((∃ inside below, system.entryAt? root = some (.directory inside) ∧
          location = root ++ below ++ [manifestName] ∧ HasManifest inside below) ∨
        ((∃ content, system.entryAt? root = some (.file content)) ∧ root.getLast? = some manifestName ∧
          location = root)) := by
  have skipped_iff : root.getLast?.any (· ∈ skippedNames) = true ↔ ¬ ∀ name ∈ root.getLast?, name ∉ skippedNames := by
    cases root.getLast? <;> simp
  unfold findManifests
  by_cases entered : ∀ name ∈ root.getLast?, name ∉ skippedNames
  · rw [if_neg (fun skipped => skipped_iff.mp skipped entered)]
    cases found : system.entryAt? root with
    | none => simp
    | some entry =>
      cases entry with
      | file content =>
        by_cases named : root.getLast? = some manifestName
        · simpa [named] using fun _ => entered manifestName named
        · simp [named]
      | directory inside =>
        have insideProper := Entries.distinct_of_entryAt? proper found
        simp only [List.mem_mergeSort, mem_manifestsBelow root insideProper, Option.some.injEq,
          Files.Entry.directory.injEq, reduceCtorEq, exists_false, false_and, or_false]
        constructor
        · rintro ⟨below, placed, has⟩
          exact ⟨entered, inside, below, rfl, placed, has⟩
        · rintro ⟨_, _, below, rfl, placed, has⟩
          exact ⟨below, placed, has⟩
  · rw [if_pos (skipped_iff.mpr entered)]
    exact iff_of_false List.not_mem_nil fun found => entered found.1

theorem nodup_findManifests (proper : system.tree.distinct = true) : (findManifests system root).Nodup := by
  unfold findManifests
  split
  · exact List.nodup_nil
  · split
    · exact List.nodup_nil
    · split
      · exact List.pairwise_singleton _ _
      · exact List.nodup_nil
    · next inside found =>
      have walked := nodup_manifestsBelow root (Entries.distinct_of_entryAt? proper found)
      exact (List.mergeSort_perm _ _).nodup_iff.mpr walked

end Find

end Package

end DependencyDiagram
