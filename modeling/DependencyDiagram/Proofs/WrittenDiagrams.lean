import DependencyDiagram.Proofs.DrawnEdges
import DependencyDiagram.Proofs.FileNames
import DependencyDiagram.Proofs.TargetTurns

/-!
What a run writes on a device that does not fail. Every file that a run changes is the diagram of one of its
targets, and holds the last diagram that was written to it. Which file that is depends on the target's
identifier only, so targets that share an identifier overwrite each other, and one with slashes in it may lead
out of the output directory.
-/

namespace DependencyDiagram.Execution

/-- The location a target's diagram has been written to. -/
def Fate.location? (system : Files.System) : Fate → Option Files.Location
  | .written _ path => system.destination? path
  | _ => none

/-- What a target has left at a location. -/
def Fate.contentAt? (system : Files.System) (location : Files.Location) : Fate → Option String
  | .written diagram path =>
    if system.destination? path = some location then some diagram.fileContents else none
  | _ => none

/-- What the last of some attempts to write there has left at a location. -/
def lastContentAt? (system : Files.System) (location : Files.Location) : List Attempt → Option String
  | [] => none
  | attempt :: rest => (lastContentAt? system location rest).or (attempt.fate.contentAt? system location)

/-- The name of the file that a run gives a target's diagram. -/
def targetFileName (generation : Generation) (target : String) : String :=
  generation.fileStart ++ ModulePath.identifier target ++ "." ++ generation.format.extension

/-- What the attempts of a run start from, once the output directory is there. -/
def prepared? (system : Files.System) (generation : Generation) : Option (Plan × Files.System) :=
  match plan system generation with
  | (_, .error _) => none
  | (_, .ok plan) =>
    if plan.targets.isEmpty then none
    else
      match createOutput generation system with
      | (_, .error _) => none
      | (created, .ok ()) => some (plan, created)

/-- The attempts of a run, one for each of its targets. -/
def attempted (system : Files.System) (generation : Generation) : List Attempt :=
  match prepared? system generation with
  | none => []
  | some (plan, created) =>
    (attemptAll .reliable generation plan.style (Resolver.new plan.catalog) created plan.targets).2

section Contents

variable {system after : Files.System} {location : Files.Location} {attempt : Attempt} {attempts : List Attempt}

theorem contentAt?_same (same : system.SameDirectories after) (fate : Fate) :
    fate.contentAt? after location = fate.contentAt? system location := by
  cases fate with
  | written diagram path => rw [Fate.contentAt?, Fate.contentAt?, same.destination? path]
  | printed | notPrinted | notWritten | notGenerated => rfl

theorem lastContentAt?_same (same : system.SameDirectories after) (attempts : List Attempt) :
    lastContentAt? after location attempts = lastContentAt? system location attempts := by
  induction attempts with
  | nil => rfl
  | cons attempt rest ih => rw [lastContentAt?, lastContentAt?, ih, contentAt?_same same]

theorem contentAt?_eq_some {fate : Fate} {content : String} :
    fate.contentAt? system location = some content ↔
      ∃ diagram path, fate = .written diagram path ∧ system.destination? path = some location ∧
        diagram.fileContents = content := by
  cases fate with
  | written diagram path => simp [Fate.contentAt?, eq_comm]
  | printed | notPrinted | notWritten | notGenerated => simp [Fate.contentAt?]

theorem mem_of_lastContentAt? {content : String}
    (last : lastContentAt? system location attempts = some content) :
    ∃ attempt ∈ attempts, attempt.fate.contentAt? system location = some content := by
  induction attempts with
  | nil => cases last
  | cons attempt rest ih =>
    rcases Option.or_eq_some_iff.mp last with later | ⟨_, here⟩
    · obtain ⟨other, listed, found⟩ := ih later
      exact ⟨other, List.mem_cons_of_mem _ listed, found⟩
    · exact ⟨attempt, List.mem_cons_self, here⟩

theorem exists_lastContentAt? {content : String} (member : attempt ∈ attempts)
    (wrote : attempt.fate.contentAt? system location = some content) :
    ∃ last, lastContentAt? system location attempts = some last := by
  induction attempts with
  | nil => cases member
  | cons other rest ih =>
    rw [lastContentAt?]
    cases later : lastContentAt? system location rest with
    | some last => exact ⟨last, rfl⟩
    | none =>
      rcases List.mem_cons.mp member with rfl | listed
      · exact ⟨content, by rw [wrote]; rfl⟩
      · obtain ⟨last, found⟩ := ih listed
        cases later.symm.trans found

end Contents

section Turns

variable {catalog : Catalog} {style : Option Style.Document} {generation : Generation}
variable {before after : Files.System} {transfer : Files.Transfer} {device : Files.Device}
variable {attempt : Attempt} {attempts : List Attempt}

theorem Turn.leaves (turn : Turn catalog style generation before .complete attempt after)
    (location : Files.Location) : after.tree.fileAt? location =
      ((attempt.fate.contentAt? before location).map String.toUTF8).or (before.tree.fileAt? location) := by
  cases turn with
  | written _ _ wrote =>
    obtain ⟨place, wroteAt⟩ := Files.System.write_ok wrote
    have holds := wroteAt.holds location
    rw [Files.System.holds?, Files.System.holds?] at holds
    rw [Fate.contentAt?, wroteAt.destination, Files.Entries.fileAt?_eq_holds?, Files.Entries.fileAt?_eq_holds?, holds]
    by_cases here : location = place
    · simp [here, Files.Content.bytes?]
    · simp [here, Ne.symm here]
  | notGenerated | printed | misplaced => rfl

/-- After some turns a file holds what the last of them to write it has left there, and a file that none of them
has written is as it was. -/
theorem Turns.leaves (turns : Turns catalog style generation .reliable before attempts after)
    (location : Files.Location) : after.tree.fileAt? location =
      ((lastContentAt? before location attempts).map String.toUTF8).or (before.tree.fileAt? location) := by
  generalize reliable : Files.Device.reliable = device at turns
  induction turns with
  | none => rfl
  | @next _ before between _ attempt rest first later ih =>
    subst reliable
    -- A later turn finds the same directories, so it looks for its file in the same place.
    have same : before.SameDirectories between := first.fills.1
    rw [ih rfl, first.leaves, lastContentAt?, lastContentAt?_same same]
    cases lastContentAt? before location rest <;> rfl

/-- A written target is that of a diagram that a new resolver would have drawn as well, and its file has been
found. -/
structure Attempt.Wrote (catalog : Catalog) (style : Option Style.Document) (generation : Generation)
    (system : Files.System) (attempt : Attempt) (diagram : Diagram) (path : String) : Prop where
  toFile : generation.toStdout = false
  generated : ((Resolver.new catalog).generate attempt.target generation.format style).result = .ok diagram
  path_eq : path = Files.Path.join generation.output (targetFileName generation attempt.target)
  found : ∃ location, system.destination? path = some location

theorem diagramPath_eq {resolver : Resolver} {diagram : Diagram} {target : String}
    (generated : (resolver.generate target generation.format style).result = .ok diagram) :
    diagramPath generation diagram = Files.Path.join generation.output (targetFileName generation target) := by
  obtain ⟨module, _, _, rfl⟩ := Resolver.generate_ok generated
  rfl

theorem Turn.wrote (turn : Turn catalog style generation before transfer attempt after) {diagram : Diagram}
    {path : String} (written : attempt.fate = .written diagram path) :
    attempt.Wrote catalog style generation before diagram path := by
  cases turn with
  | written drawn toFile wrote =>
    obtain ⟨rfl, rfl⟩ := Fate.written.inj written
    obtain ⟨location, wroteAt⟩ := Files.System.write_ok wrote
    exact ⟨toFile, drawn, diagramPath_eq drawn, location, wroteAt.destination⟩
  | notGenerated | printed | printRefused | printBrokenOff | misplaced | writeRefused | writeBrokenOff => cases written

theorem Turns.wrote (turns : Turns catalog style generation device before attempts after) : ∀ attempt ∈ attempts,
    ∀ diagram path, attempt.fate = .written diagram path →
      attempt.Wrote catalog style generation after diagram path := by
  induction turns with
  | none => exact List.forall_mem_nil _
  | next first later ih =>
    refine List.forall_mem_cons.mpr ⟨fun diagram path written => ?_, ih⟩
    obtain ⟨toFile, generated, path_eq, location, found⟩ := first.wrote written
    have same := first.fills.1.trans later.fills.1
    exact ⟨toFile, generated, path_eq, location, (same.destination? path).trans found⟩

end Turns

section Runs

variable {system : Files.System} {generation : Generation}

/-- What can be said of a run without regard to how it has come about: the files it has changed are those
of its attempts, and each written target has its own path. -/
structure Ran (catalog : Catalog) (style : Option Style.Document) (generation : Generation)
    (before after : Files.System) (attempts : List Attempt) : Prop where
  files : ∀ location, after.tree.fileAt? location =
    ((lastContentAt? after location attempts).map String.toUTF8).or (before.tree.fileAt? location)
  wrote : ∀ attempt ∈ attempts, ∀ diagram path, attempt.fate = .written diagram path →
    attempt.Wrote catalog style generation after diagram path

theorem createOutput_adds (generation : Generation) (system : Files.System) :
    system.AddsDirectories (createOutput generation system).1 := by
  unfold createOutput
  split
  · exact .refl system
  · exact Files.System.createDirectoriesWithin_adds _ system generation.output

/-- A run attempts its targets from what has been prepared, or it has not done anything to a file. -/
theorem generate_prepared (system : Files.System) (generation : Generation) :
    match prepared? system generation with
    | none => system.AddsDirectories (generate system generation).system
    | some (plan, created) => system.AddsDirectories created ∧ ∃ notices,
        generate system generation = drawAll .reliable generation plan notices created := by
  unfold prepared? generate generateOn
  rcases plan system generation with ⟨notices, report | planned⟩
  · exact .refl system
  · dsimp only
    by_cases nothing : planned.targets.isEmpty = true
    · rw [if_pos nothing, if_pos nothing]
      exact .refl system
    · rw [if_neg nothing, if_neg nothing]
      have adds := createOutput_adds generation system
      revert adds
      rcases createOutput generation system with ⟨created, fault | made⟩
      · exact fun adds => adds
      · exact fun adds => ⟨adds, notices, rfl⟩

theorem attemptAll_ran {catalog : Catalog} {resolver : Resolver} (sound : resolver.Sound catalog)
    (style : Option Style.Document) {created : Files.System} (adds : system.AddsDirectories created)
    (targets : List String) : Ran catalog style generation system
      (attemptAll .reliable generation style resolver created targets).1
      (attemptAll .reliable generation style resolver created targets).2 := by
  have turns : Turns catalog style generation .reliable created _ _ := attemptAll_turns sound .reliable created targets
  refine ⟨fun location => ?_, turns.wrote⟩
  rw [turns.leaves, adds.fileAt?, lastContentAt?_same turns.fills.1]

theorem generate_ran (system : Files.System) (generation : Generation) : ∃ catalog style,
    Ran catalog style generation system (generate system generation).system (attempted system generation) := by
  have prepared := generate_prepared system generation
  unfold attempted
  cases start : prepared? system generation with
  | none =>
    rw [start] at prepared
    refine ⟨.empty, none, fun location => ?_, fun attempt member => ?_⟩
    · exact prepared.fileAt? location
    · cases member
  | some begun =>
    obtain ⟨plan, created⟩ := begun
    simp only [start] at prepared
    obtain ⟨adds, notices, ran⟩ := prepared
    rw [ran]
    exact ⟨plan.catalog, plan.style, attemptAll_ran (Resolver.sound_new plan.catalog) plan.style adds plan.targets⟩

/-- A run ends with what its attempts have to say and with their numbers. -/
def Reports (generation : Generation) (run : Run) (attempts : List Attempt) : Prop :=
  ∃ earlier, run.notices = earlier ++ attempts.flatMap (·.notices) ++
    [.status (.generated (successes attempts) (failedTargets attempts).length (outputDirectory? generation))]

theorem generate_reports (system : Files.System) (generation : Generation) :
    attempted system generation = [] ∨
      Reports generation (generate system generation) (attempted system generation) := by
  have prepared := generate_prepared system generation
  unfold attempted
  cases start : prepared? system generation with
  | none => exact .inl rfl
  | some begun =>
    obtain ⟨plan, created⟩ := begun
    simp only [start] at prepared
    obtain ⟨_, notices, ran⟩ := prepared
    rw [ran]
    exact .inr ⟨notices ++ [.status (.generating plan.targets.length generation.format)], by simp [drawAll]⟩

end Runs

end DependencyDiagram.Execution
