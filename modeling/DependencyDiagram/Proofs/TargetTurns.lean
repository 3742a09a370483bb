import DependencyDiagram.Execution.Generate
import DependencyDiagram.Proofs.CallHistory
import DependencyDiagram.Proofs.FileTree

/-!
Turns. Each target has its turn, in which its diagram is drawn and then printed or written, as far as the device
takes it. A turn leaves every file alone but that of its diagram, and only a device that breaks off can leave a
part of a diagram.
-/

namespace DependencyDiagram

namespace Execution

/-- The diagram of a target as it is drawn when no other has been drawn before. -/
def drawing (catalog : Catalog) (style : Option Style.Document) (generation : Generation) (target : String) :
    Except Failure Diagram :=
  ((Resolver.new catalog).generate target generation.format style).result

/-- The diagram that a target has left as a whole. -/
def Fate.emitted? : Fate → Option Diagram
  | .printed diagram | .written diagram _ => some diagram
  | .notPrinted _ _ _ | .notWritten _ _ _ | .notGenerated _ => none

/-- A file holds a diagram, or a beginning of it because writing has broken off. -/
def Fate.Fills (diagram : Diagram) (path : String) (fate : Fate) : Prop :=
  fate = .written diagram path ∨ ∃ left, fate = .notWritten diagram path (some left)

/-- The diagrams of the successful targets. -/
def emitted (attempts : List Attempt) : List Diagram := attempts.filterMap (·.fate.emitted?)

/-- One target is attempted. -/
def attempt (transfer : Files.Transfer) (generation : Generation) (style : Option Style.Document)
    (resolver : Resolver) (system : Files.System) (target : String) : Files.System × Attempt :=
  let answer := resolver.generate target generation.format style
  match answer.result with
  | .ok diagram =>
    let emitted := emit transfer generation system diagram
    (emitted.1, ⟨target, answer.events, emitted.2⟩)
  | .error failure => (system, ⟨target, answer.events, .notGenerated failure⟩)

theorem attemptAll_cons (device : Files.Device) (generation : Generation) (style : Option Style.Document)
    (resolver : Resolver) (system : Files.System) (target : String) (rest : List String) :
    attemptAll device generation style resolver system (target :: rest) =
      let first := attempt (device 0) generation style resolver system target
      let later := attemptAll device.later generation style
        (resolver.generate target generation.format style).resolver first.1 rest
      (later.1, first.2 :: later.2) := by
  rw [attemptAll, attempt]
  cases (resolver.generate target generation.format style).result <;> rfl

section Turns

variable (catalog : Catalog) (style : Option Style.Document) (generation : Generation)

/-- The turn of one target, with the file systems before and after it and what the device takes. -/
inductive Turn (before : Files.System) : Files.Transfer → Attempt → Files.System → Prop
  | notGenerated {transfer : Files.Transfer} {target : String} {events : List Log.Event} {failure : Failure}
      (undrawn : drawing catalog style generation target = .error failure) :
      Turn before transfer ⟨target, events, .notGenerated failure⟩ before
  | printed {target : String} {events : List Log.Event} {diagram : Diagram}
      (drawn : drawing catalog style generation target = .ok diagram) (toStdout : generation.toStdout = true) :
      Turn before .complete ⟨target, events, .printed diagram⟩ before
  | printRefused {target : String} {events : List Log.Event} {diagram : Diagram} {fault : Files.Fault}
      (drawn : drawing catalog style generation target = .ok diagram) (toStdout : generation.toStdout = true) :
      Turn before (.refused fault) ⟨target, events, .notPrinted diagram fault ""⟩ before
  | printBrokenOff {target : String} {events : List Log.Event} {diagram : Diagram} {fault : Files.Fault} {count : Nat}
      (drawn : drawing catalog style generation target = .ok diagram) (toStdout : generation.toStdout = true) :
      Turn before (.brokenOff fault count) ⟨target, events,
        .notPrinted diagram fault (String.ofList ((diagram.content ++ "\n").toList.take count))⟩ before
  | written {target : String} {events : List Log.Event} {diagram : Diagram} {after : Files.System}
      (drawn : drawing catalog style generation target = .ok diagram) (toFile : generation.toStdout = false)
      (wrote : before.write (diagramPath generation diagram) diagram.fileContents = .ok after) :
      Turn before .complete ⟨target, events, .written diagram (diagramPath generation diagram)⟩ after
  | misplaced {transfer : Files.Transfer} {target : String} {events : List Log.Event} {diagram : Diagram}
      {fault : Files.Fault} (drawn : drawing catalog style generation target = .ok diagram)
      (toFile : generation.toStdout = false)
      (unplaced : before.placeFile (diagramPath generation diagram) = .error fault) :
      Turn before transfer ⟨target, events, .notWritten diagram (diagramPath generation diagram) none⟩ before
  | writeRefused {target : String} {events : List Log.Event} {diagram : Diagram} {fault : Files.Fault}
      (drawn : drawing catalog style generation target = .ok diagram) (toFile : generation.toStdout = false) :
      Turn before (.refused fault) ⟨target, events, .notWritten diagram (diagramPath generation diagram) none⟩ before
  | writeBrokenOff {target : String} {events : List Log.Event} {diagram : Diagram} {fault : Files.Fault} {count : Nat}
      {after : Files.System} (drawn : drawing catalog style generation target = .ok diagram)
      (toFile : generation.toStdout = false) (begun : before.writeBytes (diagramPath generation diagram)
        (diagram.fileContents.toUTF8.extract 0 count) = .ok after) :
      Turn before (.brokenOff fault count) ⟨target, events, .notWritten diagram (diagramPath generation diagram)
        (some (diagram.fileContents.toUTF8.extract 0 count))⟩ after

/-- Turns one after the other. -/
inductive Turns : Files.Device → Files.System → List Attempt → Files.System → Prop
  | none (device : Files.Device) (system : Files.System) : Turns device system [] system
  | next {device : Files.Device} {before between after : Files.System} {attempt : Attempt} {rest : List Attempt}
      (first : Turn catalog style generation before (device 0) attempt between)
      (later : Turns device.later between rest after) : Turns device before (attempt :: rest) after

variable {catalog style generation} {transfer : Files.Transfer} {device : Files.Device}
variable {before after : Files.System} {resolver : Resolver}

theorem write_turn {target : String} (events : List Log.Event) {diagram : Diagram}
    (drawn : drawing catalog style generation target = .ok diagram) (toFile : generation.toStdout = false)
    (transfer : Files.Transfer) (system : Files.System) :
    Turn catalog style generation system transfer
      ⟨target, events, (write system (diagramPath generation diagram) diagram transfer).2⟩
      (write system (diagramPath generation diagram) diagram transfer).1 := by
  cases transfer with
  | complete =>
    unfold write
    dsimp only
    split
    · next wrote => exact .written drawn toFile wrote
    · next unwritten => exact .misplaced drawn toFile (Files.System.writeBytes_error_iff.mp unwritten)
  | refused fault => exact .writeRefused drawn toFile
  | brokenOff fault count =>
    unfold write
    dsimp only
    split
    · next begun => exact .writeBrokenOff drawn toFile begun
    · next unwritten => exact .misplaced drawn toFile (Files.System.writeBytes_error_iff.mp unwritten)

theorem emit_turn {target : String} (events : List Log.Event) {diagram : Diagram}
    (drawn : drawing catalog style generation target = .ok diagram) (transfer : Files.Transfer)
    (system : Files.System) :
    Turn catalog style generation system transfer ⟨target, events, (emit transfer generation system diagram).2⟩
      (emit transfer generation system diagram).1 := by
  unfold emit
  split
  · next toStdout =>
    cases transfer with
    | complete => exact .printed drawn toStdout
    | refused fault => exact .printRefused drawn toStdout
    | brokenOff fault count => exact .printBrokenOff drawn toStdout
  · next toFile => exact write_turn events drawn (Bool.not_eq_true _ ▸ toFile) transfer system

/-- What the resolver has been used for before does not matter. -/
theorem attempt_turn (sound : resolver.Sound catalog) (transfer : Files.Transfer) (system : Files.System)
    (target : String) :
    Turn catalog style generation system transfer (attempt transfer generation style resolver system target).2
      (attempt transfer generation style resolver system target).1 := by
  have agrees := sound.generate_agree (Resolver.sound_new catalog) target generation.format style
  unfold attempt
  cases drawn : (resolver.generate target generation.format style).result with
  | error failure =>
    simp only [drawn]
    exact .notGenerated (agrees.symm.trans drawn)
  | ok diagram =>
    simp only [drawn]
    exact emit_turn _ (agrees.symm.trans drawn) transfer system

theorem attemptAll_turns (sound : resolver.Sound catalog) (device : Files.Device) (system : Files.System)
    (targets : List String) :
    Turns catalog style generation device system (attemptAll device generation style resolver system targets).2
      (attemptAll device generation style resolver system targets).1 := by
  induction targets generalizing device resolver system with
  | nil => exact .none device system
  | cons target rest ih =>
    rw [attemptAll_cons]
    exact .next (attempt_turn sound (device 0) system target) (ih (sound.generate target generation.format style) _ _)

variable {attempt : Attempt} {attempts : List Attempt}

/-- A turn changes no file but that of its diagram. -/
theorem Turn.fills (turn : Turn catalog style generation before transfer attempt after) :
    before.SameDirectories after ∧ ∀ location, after.tree.fileAt? location ≠ before.tree.fileAt? location →
      ∃ diagram, drawing catalog style generation attempt.target = .ok diagram ∧
        attempt.fate.Fills diagram (diagramPath generation diagram) ∧
        before.destination? (diagramPath generation diagram) = some location := by
  cases turn with
  | written drawn _ wrote =>
    obtain ⟨place, wroteAt⟩ := Files.System.write_ok wrote
    exact ⟨wroteAt.same, fun location changed => ⟨_, drawn, .inl rfl, wroteAt.destination_of_changed changed⟩⟩
  | writeBrokenOff drawn _ begun =>
    obtain ⟨place, wroteAt⟩ := Files.System.writeBytes_ok begun
    exact ⟨wroteAt.same, fun location changed =>
      ⟨_, drawn, .inr ⟨_, rfl⟩, wroteAt.destination_of_changed changed⟩⟩
  | notGenerated | printed | printRefused | printBrokenOff | misplaced | writeRefused =>
    exact ⟨.refl before, fun location changed => absurd rfl changed⟩

namespace Turns

/-- Directories stay as they are, so a path leads to the same place at every turn. -/
theorem fills (turns : Turns catalog style generation device before attempts after) :
    before.SameDirectories after ∧ ∀ location, after.tree.fileAt? location ≠ before.tree.fileAt? location →
      ∃ attempt ∈ attempts, ∃ diagram, drawing catalog style generation attempt.target = .ok diagram ∧
        attempt.fate.Fills diagram (diagramPath generation diagram) ∧
        after.destination? (diagramPath generation diagram) = some location := by
  induction turns with
  | none device system => exact ⟨.refl system, fun location changed => absurd rfl changed⟩
  | @next _ before between after attempt rest first later ih =>
    obtain ⟨firstSame, firstFills⟩ := first.fills
    obtain ⟨laterSame, laterFills⟩ := ih
    refine ⟨firstSame.trans laterSame, fun location changed => ?_⟩
    by_cases late : after.tree.fileAt? location = between.tree.fileAt? location
    · obtain ⟨diagram, drawn, fills, found⟩ := firstFills location (late ▸ changed)
      refine ⟨attempt, List.mem_cons_self, diagram, drawn, fills, ?_⟩
      rw [(firstSame.trans laterSame).destination?, found]
    · obtain ⟨attempt, member, fills⟩ := laterFills location late
      exact ⟨attempt, List.mem_cons_of_mem _ member, fills⟩

end Turns

end Turns

end Execution

end DependencyDiagram
