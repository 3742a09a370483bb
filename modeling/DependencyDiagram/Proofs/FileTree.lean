import DependencyDiagram.Files.System

/-!
What file operations change. All that an operation asks of a tree can be said of what its locations hold:
nothing, a directory or a file. Writing a file or creating a directory changes what one location holds
and leaves all others as they are.
-/

namespace DependencyDiagram.Files

/-- What a location holds, without what is inside a directory. -/
inductive Content where
  | directory
  | file (bytes : ByteArray)

def Content.bytes? : Content → Option ByteArray
  | .directory => none
  | .file bytes => some bytes

def Entry.content : Entry → Content
  | .file bytes => .file bytes
  | .directory _ => .directory

/-- An entry with nothing inside. -/
def Content.entry : Content → Entry
  | .directory => .directory .nil
  | .file bytes => .file bytes

namespace Entries

def holds? (entries : Entries) (location : Location) : Option Content :=
  (entries.entryAt? location).map Entry.content

variable (entries : Entries) (name : String) (location : Location)

theorem fileAt?_eq_holds? : entries.fileAt? location = (entries.holds? location).bind Content.bytes? := by
  unfold fileAt? holds?
  rcases entries.entryAt? location with _ | ⟨bytes⟩ | ⟨inside⟩ <;> rfl

@[simp] theorem holds?_nil : entries.holds? [] = some .directory := by
  rw [holds?, entryAt?]
  rfl

theorem holds?_cons : entries.holds? (name :: location) =
    match entries.find? name with
    | some (.directory inside) => inside.holds? location
    | some (.file bytes) => if location = [] then some (.file bytes) else none
    | none => none := by
  rw [holds?, entryAt?]
  rcases entries.find? name with _ | ⟨bytes⟩ | ⟨inside⟩
  · rfl
  · cases location <;> rfl
  · rfl

theorem find?_put (entry : Entry) (other : String) (entries : Entries) : (entries.put name entry).find? other =
    if name = other then some entry else entries.find? other := by
  induction entries with
  | nil => cases entry <;> simp [put, find?]
  | file key bytes rest ih =>
    by_cases here : key = name
    · subst here
      cases entry <;> by_cases same : key = other <;> simp [put, find?, same]
    · by_cases same : name = other
      · subst same
        simp [put, find?, here, ih]
      · simp [put, find?, here, ih, same]
  | directory key inside rest _ ih =>
    by_cases here : key = name
    · subst here
      cases entry <;> by_cases same : key = other <;> simp [put, find?, same]
    · by_cases same : name = other
      · subst same
        simp [put, find?, here, ih]
      · simp [put, find?, here, ih, same]

/-- Below an entry with nothing inside there is nothing. -/
theorem holds?_put (content : Content) (vacant : entries.holds? [name] ≠ some .directory) :
    (entries.put name content.entry).holds? location =
      if location = [name] then some content else entries.holds? location := by
  cases location with
  | nil => simp
  | cons other rest =>
    rw [holds?_cons, holds?_cons, find?_put]
    by_cases same : name = other
    · subst same
      rw [if_pos rfl]
      -- What was there before had nothing inside either.
      have below : rest ≠ [] → entries.holds? (name :: rest) = none := by
        intro deeper
        rw [holds?_cons] at vacant ⊢
        cases found : entries.find? name with
        | none => rfl
        | some entry =>
          rw [found] at vacant
          cases entry with
          | file bytes => exact if_neg deeper
          | directory inside => simp at vacant
      rw [holds?_cons] at below
      cases rest with
      | nil => cases content <;> simp [Content.entry]
      | cons next further =>
        have nothing := below (List.cons_ne_nil next further)
        cases content with
        | directory => simp [Content.entry, holds?_cons, find?] at nothing ⊢; exact nothing.symm
        | file bytes => simpa [Content.entry] using nothing.symm
    · have different : other :: rest ≠ [name] := fun equal => same (List.cons.inj equal).1.symm
      rw [if_neg same, if_neg different]

theorem holds?_putAt (content : Content) (here : Location) (name : String) (entries : Entries)
    (parent : entries.holds? here = some .directory)
    (vacant : entries.holds? (here ++ [name]) ≠ some .directory) :
    (entries.putAt content.entry (here ++ [name])).holds? location =
      if location = here ++ [name] then some content else entries.holds? location := by
  induction here generalizing entries location with
  | nil => exact entries.holds?_put name location content vacant
  | cons first here ih =>
    rw [holds?_cons] at parent
    rw [List.cons_append, holds?_cons] at vacant
    cases found : entries.find? first with
    | none => simp [found] at parent
    | some entry =>
      cases entry with
      | file bytes =>
        rw [found] at parent
        by_cases here = [] <;> simp_all
      | directory inside =>
        simp only [found] at parent vacant
        have deeper : (entries.putAt content.entry (first :: (here ++ [name]))) =
            entries.put first (.directory (inside.putAt content.entry (here ++ [name]))) := by
          rw [putAt, found]
          intro alone
          simp at alone
        rw [List.cons_append, deeper]
        cases location with
        | nil => simp
        | cons other rest =>
          rw [holds?_cons, holds?_cons, find?_put]
          by_cases same : first = other
          · subst same
            rw [if_pos rfl, found]
            simpa using ih rest inside parent vacant
          · have different : other :: rest ≠ first :: (here ++ [name]) :=
              fun equal => same (List.cons.inj equal).1.symm
            rw [if_neg same, if_neg different]

end Entries

namespace System

variable {system before after : System} {path text part : String} {start here middle : Location}
variable {names others : List String}

def holds? (system : System) (location : Location) : Option Content := system.tree.holds? location

theorem isDirectoryAt_iff {location : Location} :
    system.isDirectoryAt location = true ↔ system.holds? location = some .directory := by
  unfold isDirectoryAt holds? Entries.holds? entryAt?
  rcases system.tree.entryAt? location with _ | ⟨bytes⟩ | ⟨inside⟩ <;> simp [Entry.content]

theorem entryAt?_isSome {location : Location} :
    (system.entryAt? location).isSome = (system.holds? location).isSome := by
  rw [holds?, Entries.holds?, Option.isSome_map, entryAt?]

/-- Parts lead from one directory to another, through directories only. -/
def Leads (system : System) (start : Location) (names : List String) (here : Location) : Prop :=
  names.foldlM system.advance start = .ok here ∧ system.holds? here = some .directory

/-- What one part does: nothing, go up, or go down to an entry that is there. -/
theorem advance_ok_iff : system.advance start part = .ok here ↔ system.holds? start = some .directory ∧
    ((Path.isIdle part = true ∧ here = start) ∨
      (Path.isIdle part = false ∧ part = ".." ∧ here = start.dropLast) ∨
      (Path.isIdle part = false ∧ part ≠ ".." ∧ part.utf8ByteSize ≤ longestName ∧
        (system.holds? here).isSome ∧ here = start ++ [part])) := by
  rw [advance, ← isDirectoryAt_iff, entryAt?_isSome]
  cases system.isDirectoryAt start with
  | false => simp
  | true =>
    cases Path.isIdle part with
    | true =>
      simp only [Bool.not_true, Bool.false_eq_true, if_false, if_true, Except.ok.injEq, reduceCtorEq, false_and,
        or_false, true_and]
      exact eq_comm
    | false =>
      by_cases up : part = ".."
      · simp only [up, Bool.not_true, Bool.false_eq_true, if_false, if_true, Except.ok.injEq, false_and,
          beq_self_eq_true, ne_eq, not_true_eq_false, or_false, false_or, true_and, and_false]
        exact eq_comm
      · by_cases long : longestName < part.utf8ByteSize
        · simp [up, long, Nat.not_le_of_lt long]
        · have short : part.utf8ByteSize ≤ longestName := Nat.le_of_not_lt long
          have place : (system.holds? (start ++ [part])).isSome ∧ start ++ [part] = here ↔
              (system.holds? here).isSome ∧ here = start ++ [part] := by
            constructor <;> rintro ⟨present, rfl⟩ <;> exact ⟨present, rfl⟩
          cases found : (system.holds? (start ++ [part])).isSome <;> simp [up, long, short, ← place, found]

theorem leads_nil : system.Leads start [] here ↔ start = here ∧ system.holds? here = some .directory := by
  constructor
  · intro leads
    exact ⟨Except.ok.inj leads.1, leads.2⟩
  · intro same
    obtain ⟨rfl, directory⟩ := same
    exact ⟨rfl, directory⟩

theorem Leads.fromDirectory (leads : system.Leads start names here) : system.holds? start = some .directory := by
  cases names with
  | nil => exact (leads_nil.mp leads).1 ▸ leads.2
  | cons part names =>
    have walked := leads.1
    rw [List.foldlM_cons] at walked
    cases advanced : system.advance start part with
    | error fault => simp [advanced, bind, Except.bind] at walked
    | ok next => exact (advance_ok_iff.mp advanced).1

theorem leads_cons : system.Leads start (part :: names) here ↔
    ∃ next, system.advance start part = .ok next ∧ system.Leads next names here := by
  unfold Leads
  rw [List.foldlM_cons]
  cases system.advance start part with
  | error fault => simp [bind, Except.bind]
  | ok next => simp [bind, Except.bind]

theorem leads_append : system.Leads start (names ++ others) here ↔
    ∃ middle, system.Leads start names middle ∧ system.Leads middle others here := by
  induction names generalizing start with
  | nil =>
    constructor
    · intro leads
      exact ⟨start, leads_nil.mpr ⟨rfl, leads.fromDirectory⟩, leads⟩
    · intro leads
      obtain ⟨middle, first, rest⟩ := leads
      rw [(leads_nil.mp first).1]
      exact rest
  | cons part names ih =>
    simp only [List.cons_append, leads_cons, ih]
    constructor
    · intro leads
      obtain ⟨next, advanced, middle, first, rest⟩ := leads
      exact ⟨middle, ⟨next, advanced, first⟩, rest⟩
    · intro leads
      obtain ⟨middle, ⟨next, advanced, first⟩, rest⟩ := leads
      exact ⟨next, advanced, middle, first, rest⟩

theorem Leads.unique {other : Location} (leads : system.Leads start names here)
    (otherLeads : system.Leads start names other) : here = other :=
  Except.ok.inj (leads.1.symm.trans otherLeads.1)

/-- An idle part leads from a directory to itself. -/
theorem leads_idle (idle : Path.isIdle part = true) :
    system.Leads start (part :: names) here ↔ system.Leads start names here := by
  rw [leads_cons]
  constructor
  · intro leads
    obtain ⟨next, advanced, rest⟩ := leads
    rcases (advance_ok_iff.mp advanced).2 with ⟨_, rfl⟩ | ⟨counts, _⟩ | ⟨counts, _⟩
    · exact rest
    · simp [idle] at counts
    · simp [idle] at counts
  · intro leads
    exact ⟨start, advance_ok_iff.mpr ⟨leads.fromDirectory, .inl ⟨idle, rfl⟩⟩, leads⟩

/-- The other system has the same directories; its files may differ. -/
structure SameDirectories (system other : System) : Prop where
  workingDirectory : other.workingDirectory = system.workingDirectory
  directories : ∀ location, other.holds? location = some .directory ↔ system.holds? location = some .directory

theorem SameDirectories.refl (system : System) : system.SameDirectories system :=
  ⟨rfl, fun _ => Iff.rfl⟩

theorem SameDirectories.trans {last : System} (first : system.SameDirectories after)
    (second : after.SameDirectories last) : system.SameDirectories last :=
  ⟨second.workingDirectory.trans first.workingDirectory,
    fun location => (second.directories location).trans (first.directories location)⟩

theorem SameDirectories.symm (same : system.SameDirectories after) : after.SameDirectories system :=
  ⟨same.workingDirectory.symm, fun location => (same.directories location).symm⟩

/-- Whether a part leads to a directory is a question about directories. -/
theorem SameDirectories.advance (same : system.SameDirectories after) (advanced : system.advance start part = .ok here)
    (directory : system.holds? here = some .directory) : after.advance start part = .ok here := by
  obtain ⟨isDirectory, goes⟩ := advance_ok_iff.mp advanced
  refine advance_ok_iff.mpr ⟨(same.directories start).mpr isDirectory, ?_⟩
  rcases goes with idle | up | ⟨counts, down, short, _, arrived⟩
  · exact .inl idle
  · exact .inr (.inl up)
  · have still : after.holds? here = some .directory := (same.directories here).mpr directory
    exact .inr (.inr ⟨counts, down, short, by simp [still], arrived⟩)

theorem SameDirectories.leads (same : system.SameDirectories after) (leads : system.Leads start names here) :
    after.Leads start names here := by
  induction names generalizing start with
  | nil =>
    obtain ⟨arrived, directory⟩ := leads_nil.mp leads
    exact leads_nil.mpr ⟨arrived, (same.directories here).mpr directory⟩
  | cons part names ih =>
    obtain ⟨next, advanced, rest⟩ := leads_cons.mp leads
    exact leads_cons.mpr ⟨next, same.advance advanced rest.fromDirectory, ih rest⟩

/-- The location a file that is written to a path gets. -/
def destination? (system : System) (path : String) : Option Location :=
  match system.locateLast path with
  | .ok (here, name) => some (here ++ [name])
  | .error _ => none

theorem locateLast_ok_iff {above : List String} {last name : String} (parts : Path.parts path = above ++ [last]) :
    system.locateLast path = .ok (here, name) ↔ hasNul path = false ∧ name = last ∧
      last.utf8ByteSize ≤ longestName ∧ system.Leads (origin system.workingDirectory path) above here := by
  unfold locateLast Leads
  rw [parts, List.reverse_append, List.reverse_singleton, List.singleton_append]
  simp only [List.reverse_reverse]
  cases hasNul path with
  | true => simp
  | false =>
    cases above.foldlM system.advance (origin system.workingDirectory path) with
    | error fault => simp [bind, Except.bind]
    | ok reached =>
      by_cases long : longestName < last.utf8ByteSize
      · have tooLong : ¬ last.utf8ByteSize ≤ longestName := Nat.not_le_of_lt long
        cases found : system.isDirectoryAt reached <;> simp [bind, Except.bind, found, long, tooLong]
      · have short : last.utf8ByteSize ≤ longestName := Nat.le_of_not_lt long
        have isDirectory : system.isDirectoryAt reached = true ↔ system.holds? reached = some .directory :=
          isDirectoryAt_iff
        cases found : system.isDirectoryAt reached with
        | false =>
          simp only [bind, Except.bind, found, Bool.false_eq_true, if_false, Bool.not_false, if_true,
            reduceCtorEq, true_and, Except.ok.injEq, false_iff]
          intro arrived
          obtain ⟨_, _, rfl, directory⟩ := arrived
          rw [isDirectoryAt_iff.mpr directory] at found
          cases found
        | true =>
          simp only [bind, Except.bind, found, Bool.false_eq_true, if_false, Bool.not_true, long,
            true_and, Except.ok.injEq, Prod.mk.injEq, short]
          constructor
          · intro arrived
            obtain ⟨rfl, rfl⟩ := arrived
            exact ⟨rfl, rfl, isDirectoryAt_iff.mp found⟩
          · intro arrived
            exact ⟨arrived.2.1, arrived.1.symm⟩

theorem parts_ne_nil (path : String) : Path.parts path ≠ [] := by
  intro none
  exact List.splitOn_ne_nil _ _ (List.map_eq_nil_iff.mp none)

theorem exists_parts (path : String) : ∃ above last, Path.parts path = above ++ [last] :=
  ⟨_, _, (List.dropLast_concat_getLast (parts_ne_nil path)).symm⟩

theorem SameDirectories.destination? (same : system.SameDirectories after) (path : String) :
    after.destination? path = system.destination? path := by
  obtain ⟨above, last, parts⟩ := exists_parts path
  have agrees (here : Location) (name : String) :
      after.locateLast path = .ok (here, name) ↔ system.locateLast path = .ok (here, name) := by
    rw [locateLast_ok_iff parts, locateLast_ok_iff parts, same.workingDirectory]
    have leads : after.Leads (origin system.workingDirectory path) above here ↔
        system.Leads (origin system.workingDirectory path) above here := ⟨same.symm.leads, same.leads⟩
    rw [leads]
  unfold System.destination?
  cases located : system.locateLast path with
  | ok place =>
    obtain ⟨here, name⟩ := place
    rw [(agrees here name).mpr located]
  | error fault =>
    cases other : after.locateLast path with
    | error _ => rfl
    | ok place =>
      obtain ⟨here, name⟩ := place
      cases located.symm.trans ((agrees here name).mp other)

/-- Putting something with nothing inside where no directory is changes what this location holds. -/
theorem holds?_putAt (content : Content) (located : system.locateLast path = .ok (here, part))
    (vacant : system.holds? (here ++ [part]) ≠ some .directory) (location : Location) :
    ({ system with tree := system.tree.putAt content.entry (here ++ [part]) } : System).holds? location =
      if location = here ++ [part] then some content else system.holds? location := by
  obtain ⟨above, last, parts⟩ := exists_parts path
  have parent := ((locateLast_ok_iff parts).mp located).2.2.2.2
  exact Entries.holds?_putAt location content here part system.tree parent vacant

/-- Written bytes are where the path leads, and nothing else changes. -/
structure Wrote (system : System) (path : String) (bytes : ByteArray) (location : Location) (after : System) : Prop where
  destination : system.destination? path = some location
  same : system.SameDirectories after
  holds : ∀ other, after.holds? other = if other = location then some (.file bytes) else system.holds? other

theorem Wrote.destination_of_changed {bytes : ByteArray} {place location : Location}
    (wrote : system.Wrote path bytes place after)
    (changed : after.tree.fileAt? location ≠ system.tree.fileAt? location) :
    system.destination? path = some location := by
  by_cases here : location = place
  · rw [here]
    exact wrote.destination
  · refine absurd ?_ changed
    have holds := wrote.holds location
    rw [if_neg here, holds?, holds?] at holds
    rw [Entries.fileAt?_eq_holds?, Entries.fileAt?_eq_holds?, holds]

/-- A file is placed where no directory is. -/
theorem placeFile_ok {location : Location} (placed : system.placeFile path = .ok location) :
    ∃ here name, system.locateLast path = .ok (here, name) ∧ location = here ++ [name] ∧
      system.holds? (here ++ [name]) ≠ some .directory := by
  unfold placeFile at placed
  by_cases empty : path.isEmpty = true
  · simp [empty, bind, Except.bind] at placed
  · cases located : system.locateLast path with
    | error fault => simp [empty, located, bind, Except.bind] at placed
    | ok place =>
      obtain ⟨here, name⟩ := place
      simp only [empty, located, bind, Except.bind, Bool.false_eq_true, if_false] at placed
      split at placed
      · cases placed
      · split at placed
        · cases placed
        · next vacantEntry =>
          refine ⟨here, name, rfl, (Except.ok.inj placed).symm, fun directory => ?_⟩
          rw [holds?, Entries.holds?] at directory
          obtain ⟨entry, found, isDirectory⟩ := Option.map_eq_some_iff.mp directory
          cases entry with
          | file bytes => cases isDirectory
          | directory inside => exact vacantEntry inside found

theorem writeBytes_ok {bytes : ByteArray} (written : system.writeBytes path bytes = .ok after) :
    ∃ location, system.Wrote path bytes location after := by
  unfold writeBytes at written
  cases placed : system.placeFile path with
  | error fault => simp [placed, bind, Except.bind] at written
  | ok location =>
    obtain ⟨here, name, located, rfl, vacant⟩ := placeFile_ok placed
    simp only [placed, bind, Except.bind, Except.ok.injEq] at written
    subst written
    have holds := holds?_putAt (.file bytes) located vacant
    refine ⟨here ++ [name], by rw [System.destination?, located], ⟨rfl, fun location => ?_⟩, holds⟩
    rw [Content.entry] at holds
    rw [holds location]
    split
    · next same => simp [same, vacant]
    · rfl

theorem write_ok (written : system.write path text = .ok after) :
    ∃ location, system.Wrote path text.toUTF8 location after :=
  writeBytes_ok written

/-- Whether a file can be written depends on its path and not on the bytes. -/
theorem writeBytes_error_iff {bytes : ByteArray} {fault : Fault} :
    system.writeBytes path bytes = .error fault ↔ system.placeFile path = .error fault := by
  unfold writeBytes
  cases system.placeFile path <;> simp [bind, Except.bind]

/-- Some locations that held nothing are directories now, and nothing else has changed. -/
structure AddsDirectories (system after : System) : Prop where
  workingDirectory : after.workingDirectory = system.workingDirectory
  holds : ∀ location, after.holds? location = system.holds? location ∨
    (system.holds? location = none ∧ after.holds? location = some .directory)

theorem AddsDirectories.refl (system : System) : system.AddsDirectories system :=
  ⟨rfl, fun _ => .inl rfl⟩

theorem AddsDirectories.trans {last : System} (first : system.AddsDirectories after)
    (second : after.AddsDirectories last) : system.AddsDirectories last := by
  refine ⟨second.workingDirectory.trans first.workingDirectory, fun location => ?_⟩
  rcases second.holds location with kept | ⟨vacant, added⟩
  · rw [kept]
    exact first.holds location
  · rcases first.holds location with kept | ⟨_, directory⟩
    · exact .inr ⟨kept.symm.trans vacant, added⟩
    · cases vacant.symm.trans directory

theorem AddsDirectories.fileAt? (adds : system.AddsDirectories after) (location : Location) :
    after.tree.fileAt? location = system.tree.fileAt? location := by
  rw [Entries.fileAt?_eq_holds?, Entries.fileAt?_eq_holds?]
  rcases adds.holds location with kept | ⟨vacant, added⟩
  · exact congrArg (·.bind Content.bytes?) kept
  · rw [holds?] at vacant added
    rw [vacant, added]
    rfl

theorem createDirectory_ok (created : system.createDirectory path = .ok after) : system.AddsDirectories after := by
  unfold createDirectory at created
  by_cases empty : path.isEmpty = true
  · simp [empty, bind, Except.bind] at created
  · by_cases slashes : (withoutFinalSlashes path).isEmpty = true
    · simp [empty, slashes, bind, Except.bind] at created
    · cases located : system.locateLast (withoutFinalSlashes path) with
      | error fault => simp [empty, slashes, located, bind, Except.bind] at created
      | ok place =>
        obtain ⟨here, name⟩ := place
        simp only [empty, slashes, located, bind, Except.bind, Bool.false_eq_true, if_false] at created
        split at created
        · cases created
        · split at created
          · cases created
          · next vacantEntry =>
            obtain rfl := Except.ok.inj created
            have vacant : system.holds? (here ++ [name]) = none := by
              rw [entryAt?_isSome] at vacantEntry
              simpa using vacantEntry
            have holds := holds?_putAt .directory located (by simp [vacant])
            refine ⟨rfl, fun location => ?_⟩
            rw [Content.entry] at holds
            rw [holds location]
            split
            · next same => exact .inr ⟨same ▸ vacant, rfl⟩
            · exact .inl rfl

theorem ensureDirectory_adds (system : System) (path : String) :
    system.AddsDirectories (system.ensureDirectory path).1 := by
  unfold ensureDirectory
  cases created : system.createDirectory path with
  | ok after => exact createDirectory_ok created
  | error fault => exact .refl system

theorem createDirectoriesWithin_adds (fuel : Nat) (system : System) (path : String) :
    system.AddsDirectories (createDirectoriesWithin fuel system path).1 := by
  induction fuel generalizing path with
  | zero => exact system.ensureDirectory_adds path
  | succ fuel ih =>
    rw [createDirectoriesWithin]
    split
    · exact .refl system
    · split
      · next above _ _ =>
        have first := ih above
        split
        · next made =>
          rw [made] at first
          exact first.trans (ensureDirectory_adds _ path)
        · next made =>
          rw [made] at first
          exact first
      · exact system.ensureDirectory_adds path

end System

end DependencyDiagram.Files
