import DependencyDiagram.Proofs.ValidPaths
import DependencyDiagram.Proofs.WrittenDiagrams

/-!
Which file each diagram of a run is in. Diagrams stay apart exactly as far as the identifiers of their
targets do, and stay in the output directory as long as no slash in a target leads out of it.
-/

namespace DependencyDiagram.Execution

open Files (Location Path.parts Path.join Path.slash)

/-- A diagram has been left in a file. -/
def Attempt.IsWritten (attempt : Attempt) : Prop :=
  ∃ diagram path, attempt.fate = .written diagram path

/-- No two targets have left their diagrams in one file. -/
def Separate (after : Files.System) (attempts : List Attempt) : Prop :=
  ∀ first ∈ attempts, ∀ second ∈ attempts, ∀ location,
    first.fate.location? after = some location → second.fate.location? after = some location →
      first.target = second.target

/-- No diagram has been lost: different targets have different files, and the file that is named after a
written target holds that target's diagram. -/
structure Intact (generation : Generation) (after : Files.System) (attempts : List Attempt) : Prop where
  separate : Separate after attempts
  kept : ∀ attempt ∈ attempts, ∀ diagram path, attempt.fate = .written diagram path →
    diagram.modulePath = attempt.target ∧ ∃ location,
      after.destination? (Path.join generation.output (targetFileName generation attempt.target)) = some location ∧
        after.tree.fileAt? location = some diagram.fileContents.toUTF8

/-- Written targets that share an identifier are the same. -/
def IdentifiersApart (attempts : List Attempt) : Prop :=
  ∀ first ∈ attempts, ∀ second ∈ attempts, first.IsWritten → second.IsWritten →
    ModulePath.identifier first.target = ModulePath.identifier second.target → first.target = second.target

/-- Before its last part the name goes through directories that lead from the given one back to it. -/
def StaysIn (system : Files.System) (directory name : String) : Prop :=
  ∃ out, system.LeadsTo directory out ∧
    system.Leads (Files.System.origin out name) (Path.parts name).dropLast out

theorem slash_notMem_extension (format : Diagram.Format) : Path.slash ∉ format.extension.toList := by
  cases format <;> decide

theorem slash_notMem_ending {target : String} (format : Diagram.Format) (slashless : Path.slash ∉ target.toList) :
    Path.slash ∉ (ModulePath.identifier target ++ "." ++ format.extension).toList := by
  have dot : Path.slash ∉ ".".toList := by decide
  simp only [String.toList_append, List.mem_append, not_or]
  exact ⟨⟨ModulePath.slash_mem_identifier.not.mpr slashless, dot⟩, slash_notMem_extension format⟩

theorem targetFileName_eq (generation : Generation) (target : String) : targetFileName generation target =
    generation.fileStart ++ (ModulePath.identifier target ++ "." ++ generation.format.extension) := by
  simp only [targetFileName, String.append_assoc]

/-- The name of a target without slashes only makes the last part of what all names start with longer. -/
theorem parts_targetFileName (generation : Generation) {target : String} (slashless : Path.slash ∉ target.toList)
    {above : List String} {last : String} (parts : Path.parts generation.fileStart = above ++ [last]) :
    Path.parts (targetFileName generation target) =
      above ++ [last ++ (ModulePath.identifier target ++ "." ++ generation.format.extension)] := by
  rw [targetFileName_eq]
  exact Files.Path.parts_append (slash_notMem_ending generation.format slashless) parts

namespace Ran

variable {catalog : Catalog} {style : Option Style.Document} {generation : Generation}
variable {before after : Files.System} {attempts : List Attempt} {first second attempt : Attempt}

theorem wroteAt (ran : Ran catalog style generation before after attempts) (member : attempt ∈ attempts)
    {location : Location} (placed : attempt.fate.location? after = some location) :
    ∃ diagram path, attempt.fate = .written diagram path ∧
      attempt.Wrote catalog style generation after diagram path ∧ after.destination? path = some location := by
  cases fate : attempt.fate with
  | written diagram path =>
    rw [fate] at placed
    exact ⟨diagram, path, rfl, ran.wrote attempt member diagram path fate, placed⟩
  | printed | notPrinted | notWritten | notGenerated => simp [fate, Fate.location?] at placed

/-- Equal targets have equal diagrams, so what was written last to a file that only one target has is that
target's diagram. -/
theorem intact_iff (ran : Ran catalog style generation before after attempts) :
    Intact generation after attempts ↔ Separate after attempts := by
  refine ⟨fun intact => intact.separate, fun separate => ⟨separate, fun attempt member diagram path written => ?_⟩⟩
  have wrote := ran.wrote attempt member diagram path written
  obtain ⟨location, found⟩ := wrote.found
  refine ⟨?_, location, wrote.path_eq ▸ found, ?_⟩
  · obtain ⟨module, _, _, rfl⟩ := Resolver.generate_ok wrote.generated
    rfl
  have here : attempt.fate.contentAt? after location = some diagram.fileContents :=
    contentAt?_eq_some.mpr ⟨diagram, path, written, found, rfl⟩
  obtain ⟨content, last⟩ := exists_lastContentAt? member here
  obtain ⟨other, listed, otherHere⟩ := mem_of_lastContentAt? last
  obtain ⟨otherDiagram, otherPath, otherWritten, otherFound, rfl⟩ := contentAt?_eq_some.mp otherHere
  have otherWrote := ran.wrote other listed otherDiagram otherPath otherWritten
  have same : other.target = attempt.target := by
    apply separate other listed attempt member location
    · rw [otherWritten]
      exact otherFound
    · rw [written]
      exact found
  have diagrams := otherWrote.generated
  rw [same, wrote.generated] at diagrams
  rw [ran.files location, last, Except.ok.inj diagrams]
  rfl

/-- Two targets with one identifier have one file. -/
theorem identifiersApart (ran : Ran catalog style generation before after attempts)
    (separate : Separate after attempts) : IdentifiersApart attempts := by
  intro first firstMember second secondMember firstWritten secondWritten same
  obtain ⟨diagram, path, written⟩ := firstWritten
  obtain ⟨otherDiagram, otherPath, otherWritten⟩ := secondWritten
  have wrote := ran.wrote first firstMember diagram path written
  have otherWrote := ran.wrote second secondMember otherDiagram otherPath otherWritten
  have paths : otherPath = path := by
    rw [wrote.path_eq, otherWrote.path_eq, targetFileName, targetFileName, same]
  obtain ⟨location, found⟩ := wrote.found
  apply separate first firstMember second secondMember location
  · rw [written]
    exact found
  · rw [otherWritten, paths]
    exact found

/-- Targets without slashes that have one file have one identifier. -/
theorem identifier_eq (ran : Ran catalog style generation before after attempts)
    (firstMember : first ∈ attempts) (secondMember : second ∈ attempts) {location : Location}
    (firstPlaced : first.fate.location? after = some location)
    (secondPlaced : second.fate.location? after = some location)
    (firstSlashless : Path.slash ∉ first.target.toList) (secondSlashless : Path.slash ∉ second.target.toList) :
    ModulePath.identifier first.target = ModulePath.identifier second.target := by
  obtain ⟨above, last, parts⟩ := Files.System.exists_parts generation.fileStart
  obtain ⟨_, path, _, wrote, found⟩ := ran.wroteAt firstMember firstPlaced
  obtain ⟨_, otherPath, _, otherWrote, otherFound⟩ := ran.wroteAt secondMember secondPlaced
  rw [wrote.path_eq] at found
  rw [otherWrote.path_eq] at otherFound
  obtain ⟨here, rfl⟩ := Files.System.destination?_join_last
    (parts_targetFileName generation firstSlashless parts) found
  obtain ⟨there, placed⟩ := Files.System.destination?_join_last
    (parts_targetFileName generation secondSlashless parts) otherFound
  have names := List.cons.inj (List.append_inj' placed rfl).2
  simpa only [String.append_right_inj, String.append_left_inj] using names.1

theorem childOf_iff (ran : Ran catalog style generation before after attempts) (member : attempt ∈ attempts)
    {location : Location} (placed : attempt.fate.location? after = some location) :
    after.ChildOf generation.output location ↔
      StaysIn after generation.output (targetFileName generation attempt.target) := by
  obtain ⟨_, path, _, wrote, found⟩ := ran.wroteAt member placed
  rw [wrote.path_eq] at found
  obtain ⟨above, last, parts⟩ := Files.System.exists_parts (targetFileName generation attempt.target)
  rw [Files.System.childOf_iff parts found, StaysIn, parts, List.dropLast_concat]

theorem childOf_of_slashless (ran : Ran catalog style generation before after attempts)
    (member : attempt ∈ attempts) {location : Location}
    (placed : attempt.fate.location? after = some location)
    (startSlashless : Path.slash ∉ generation.fileStart.toList) (slashless : Path.slash ∉ attempt.target.toList) :
    after.ChildOf generation.output location := by
  obtain ⟨_, path, _, wrote, found⟩ := ran.wroteAt member placed
  rw [wrote.path_eq] at found
  have name : Path.slash ∉ (targetFileName generation attempt.target).toList := by
    rw [targetFileName_eq, String.toList_append, List.mem_append, not_or]
    exact ⟨startSlashless, slash_notMem_ending generation.format slashless⟩
  exact Files.System.childOf_of_slashless name found

/-- A file that is not as it was is that of a target. -/
theorem exists_attempt (ran : Ran catalog style generation before after attempts) {location : Location}
    (changed : after.tree.fileAt? location ≠ before.tree.fileAt? location) :
    ∃ attempt ∈ attempts, attempt.fate.location? after = some location := by
  have left := ran.files location
  cases last : lastContentAt? after location attempts with
  | none =>
    rw [last] at left
    exact absurd left changed
  | some content =>
    obtain ⟨attempt, member, here⟩ := mem_of_lastContentAt? last
    obtain ⟨diagram, path, written, found, _⟩ := contentAt?_eq_some.mp here
    exact ⟨attempt, member, by rw [written]; exact found⟩

theorem isValid (ran : Ran catalog style generation before after attempts) (member : attempt ∈ attempts)
    (written : attempt.IsWritten) : ModulePath.isValid attempt.target = true := by
  obtain ⟨diagram, path, written⟩ := written
  have wrote := ran.wrote attempt member diagram path written
  obtain ⟨module, found, _, _⟩ := Resolver.generate_ok wrote.generated
  unfold Resolver.resolveTarget at found
  split at found
  · next valid => exact ModulePath.validate_ok_iff.mp valid
  · cases found

end Ran

/-- The diagrams of a run are all kept exactly if its targets have files of their own. Targets without
slashes have them exactly if their identifiers differ, and identifiers of readable targets do. -/
theorem generate_intact_iff (system : Files.System) (generation : Generation) :
    let after := (generate system generation).system
    let attempts := attempted system generation
    (attempts = [] ∨ Reports generation (generate system generation) attempts) ∧
    (∀ location, after.tree.fileAt? location =
      ((lastContentAt? after location attempts).map String.toUTF8).or (system.tree.fileAt? location)) ∧
    (Intact generation after attempts ↔ Separate after attempts) ∧
    ((∀ attempt ∈ attempts, attempt.IsWritten → Path.slash ∉ attempt.target.toList) →
      (Intact generation after attempts ↔ IdentifiersApart attempts)) ∧
    ((∀ attempt ∈ attempts, attempt.IsWritten →
        Path.slash ∉ attempt.target.toList ∧ ModulePath.IsReadable attempt.target) →
      Intact generation after attempts) := by
  intro after attempts
  obtain ⟨catalog, style, ran⟩ := generate_ran system generation
  have written {attempt : Attempt} (member : attempt ∈ attempts) {location : Location}
      (placed : attempt.fate.location? after = some location) : attempt.IsWritten := by
    obtain ⟨diagram, path, fate, _, _⟩ := ran.wroteAt member placed
    exact ⟨diagram, path, fate⟩
  have intact_iff (slashless : ∀ attempt ∈ attempts, attempt.IsWritten → Path.slash ∉ attempt.target.toList) :
      Intact generation after attempts ↔ IdentifiersApart attempts := by
    rw [ran.intact_iff]
    refine ⟨ran.identifiersApart, fun apart first firstMember second secondMember location here there => ?_⟩
    have firstWritten := written firstMember here
    have secondWritten := written secondMember there
    apply apart first firstMember second secondMember firstWritten secondWritten
    exact ran.identifier_eq firstMember secondMember here there (slashless first firstMember firstWritten)
      (slashless second secondMember secondWritten)
  refine ⟨generate_reports system generation, ran.files, ran.intact_iff, intact_iff, fun readable => ?_⟩
  refine (intact_iff fun attempt member wrote => (readable attempt member wrote).1).mpr ?_
  intro first firstMember second secondMember firstWritten secondWritten same
  exact ModulePath.identifier_injective (ran.isValid firstMember firstWritten)
    (ran.isValid secondMember secondWritten) (readable first firstMember firstWritten).2
    (readable second secondMember secondWritten).2 same

/-- A directory with a manifest in it and nothing else. -/
def manifestAlone (text : String) : Files.System := ⟨.file "modules.toml" text.toUTF8 .nil, []⟩

/-- All modules of that manifest are to be drawn. -/
def drawManifest : Generation where
  source := .manifest "modules.toml"
  modules := []
  filter := none
  format := .dot
  style := none
  output := "docs/graphs"
  fileStart := ""
  toStdout := false
  errorOnFailure := true

/-- The targets of a run and where their diagrams are. -/
def placements (system : Files.System) (generation : Generation) : List (String × Option Location) :=
  (attempted system generation).map fun attempt =>
    (attempt.target, attempt.fate.location? (generate system generation).system)

theorem mem_placements {system : Files.System} {generation : Generation} {target : String}
    {place : Option Location} : (target, place) ∈ placements system generation ↔
      ∃ attempt ∈ attempted system generation, attempt.target = target ∧
        attempt.fate.location? (generate system generation).system = place := by
  simp [placements]

/-- Two modules whose identifiers differ in the number of underscores only. -/
def hyphenated : String := "[modules]\n\":a:b\" = []\n\":a-b\" = [\":a:b\"]\n"

theorem generate_hyphenated :
    placements (manifestAlone hyphenated) drawManifest =
      [(":a-b", some ["docs", "graphs", "a___b.dot"]), (":a:b", some ["docs", "graphs", "a__b.dot"])] ∧
    Intact drawManifest (generate (manifestAlone hyphenated) drawManifest).system
      (attempted (manifestAlone hyphenated) drawManifest) := by
  refine ⟨by decide +kernel, ?_⟩
  apply (generate_intact_iff (manifestAlone hyphenated) drawManifest).2.2.2.2
  intro attempt member _
  have readable : ∀ target ∈ (attempted (manifestAlone hyphenated) drawManifest).map (·.target),
      Path.slash ∉ target.toList ∧ ModulePath.IsReadable target := by decide +kernel
  exact readable attempt.target (List.mem_map_of_mem member)

/-- Two modules with one identifier. -/
def colliding : String := "[modules]\n\":a:b\" = []\n\":a__b\" = []\n"

/-- Both diagrams count as written, but there is one file, with the second of them. -/
theorem generate_colliding :
    Manifest.parse colliding "modules.toml" = .ok (.ofPairs [(":a:b", []), (":a__b", [])]) ∧
    placements (manifestAlone colliding) drawManifest =
      [(":a:b", some ["docs", "graphs", "a__b.dot"]), (":a__b", some ["docs", "graphs", "a__b.dot"])] ∧
    .status (.generated 2 0 "docs/graphs") ∈ (generate (manifestAlone colliding) drawManifest).notices ∧
    (generate (manifestAlone colliding) drawManifest).system.tree.files [] =
      [(["modules.toml"], colliding.toUTF8),
        (["docs", "graphs", "a__b.dot"], "digraph \x7b\n\n\t\":a__b\"\n\n\x7d".toUTF8)] ∧
    ¬ Intact drawManifest (generate (manifestAlone colliding) drawManifest).system
      (attempted (manifestAlone colliding) drawManifest) := by
  have placed : placements (manifestAlone colliding) drawManifest =
      [(":a:b", some ["docs", "graphs", "a__b.dot"]), (":a__b", some ["docs", "graphs", "a__b.dot"])] := by
    decide +kernel
  refine ⟨by decide +kernel, placed, by decide +kernel, by decide +kernel, fun intact => ?_⟩
  have firstMember : (":a:b", some ["docs", "graphs", "a__b.dot"]) ∈
      placements (manifestAlone colliding) drawManifest := by simp [placed]
  have secondMember : (":a__b", some ["docs", "graphs", "a__b.dot"]) ∈
      placements (manifestAlone colliding) drawManifest := by simp [placed]
  obtain ⟨first, firstListed, firstTarget, firstPlace⟩ := mem_placements.mp firstMember
  obtain ⟨second, secondListed, secondTarget, secondPlace⟩ := mem_placements.mp secondMember
  have same := intact.separate first firstListed second secondListed _ firstPlace secondPlace
  rw [firstTarget, secondTarget] at same
  revert same
  decide

/-- Only files of targets change, and such a file is an entry of the output directory itself exactly if the
directories in its name lead back there, as they do when the name has no slash. -/
theorem generate_childOf_iff (system : Files.System) (generation : Generation) :
    let after := (generate system generation).system
    let attempts := attempted system generation
    (∀ location, after.tree.fileAt? location ≠ system.tree.fileAt? location →
      ∃ attempt ∈ attempts, attempt.fate.location? after = some location) ∧
    (∀ attempt ∈ attempts, ∀ location, attempt.fate.location? after = some location →
      (after.ChildOf generation.output location ↔
        StaysIn after generation.output (targetFileName generation attempt.target))) ∧
    (∀ attempt ∈ attempts, ∀ location, attempt.fate.location? after = some location →
      Path.slash ∉ generation.fileStart.toList → Path.slash ∉ attempt.target.toList →
        after.ChildOf generation.output location) := by
  intro after attempts
  obtain ⟨catalog, style, ran⟩ := generate_ran system generation
  refine ⟨fun location changed => ran.exists_attempt changed, ?_, ?_⟩
  · intro attempt member location placed
    exact ran.childOf_iff member placed
  · intro attempt member location placed startSlashless slashless
    exact ran.childOf_of_slashless member placed startSlashless slashless

instance (system : Files.System) (start : Location) (names : List String) (here : Location) :
    Decidable (system.Leads start names here) :=
  decidable_of_iff (names.foldlM system.advance start = .ok here ∧ system.isDirectoryAt here = true)
    (and_congr_right fun _ => Files.System.isDirectoryAt_iff)

/-- A module whose name goes through a directory, but only from the output directory to itself. -/
def idling : String := "[modules]\n\":./x\" = []\n\":y\" = []\n"

theorem generate_idling :
    placements (manifestAlone idling) drawManifest =
      [(":./x", some ["docs", "graphs", "x.dot"]), (":y", some ["docs", "graphs", "y.dot"])] ∧
    (generate (manifestAlone idling) drawManifest).system.ChildOf "docs/graphs" ["docs", "graphs", "x.dot"] ∧
    (generate (manifestAlone idling) drawManifest).system.ChildOf "docs/graphs" ["docs", "graphs", "y.dot"] := by
  have placed : placements (manifestAlone idling) drawManifest =
      [(":./x", some ["docs", "graphs", "x.dot"]), (":y", some ["docs", "graphs", "y.dot"])] := by
    decide +kernel
  obtain ⟨_, childOf_iff, childOf_of_slashless⟩ := generate_childOf_iff (manifestAlone idling) drawManifest
  refine ⟨placed, ?_, ?_⟩
  · obtain ⟨attempt, member, target, place⟩ := mem_placements.mp (placed ▸ List.mem_cons_self)
    refine (childOf_iff attempt member _ place).mpr ⟨["docs", "graphs"], ?_, ?_⟩
    · unfold Files.System.LeadsTo
      decide +kernel
    · rw [target]
      decide +kernel
  · have second : (":y", some ["docs", "graphs", "y.dot"]) ∈ placements (manifestAlone idling) drawManifest := by
      simp [placed]
    obtain ⟨attempt, member, target, place⟩ := mem_placements.mp second
    apply childOf_of_slashless attempt member _ place
    · decide
    · rw [target]
      decide

/-- A module whose name goes up from the output directory. -/
def leaving : String := "[modules]\n\":../x\" = []\n"

theorem generate_leaving :
    Manifest.parse leaving "modules.toml" = .ok (.ofPairs [(":../x", [])]) ∧
    placements (manifestAlone leaving) drawManifest = [(":../x", some ["docs", "x.dot"])] ∧
    (generate (manifestAlone leaving) drawManifest).system.tree.files [] =
      [(["modules.toml"], leaving.toUTF8),
        (["docs", "x.dot"], "digraph \x7b\n\n\t\":../x\"\n\n\x7d".toUTF8)] ∧
    ¬ (generate (manifestAlone leaving) drawManifest).system.ChildOf "docs/graphs" ["docs", "x.dot"] := by
  refine ⟨by decide +kernel, by decide +kernel, by decide +kernel, fun child => ?_⟩
  obtain ⟨out, name, leads, placed⟩ := child
  have output : (generate (manifestAlone leaving) drawManifest).system.LeadsTo "docs/graphs" ["docs", "graphs"] := by
    unfold Files.System.LeadsTo
    decide +kernel
  rw [leads.unique output] at placed
  simp at placed

end DependencyDiagram.Execution
