import DependencyDiagram.Configuration
import DependencyDiagram.Execution.Run
import DependencyDiagram.Files.Transfer
import DependencyDiagram.Generator

/-!
Drawing the diagrams of the chosen modules. A run first loads all it needs; when that fails nothing
has been created. Then every target is attempted in turn, and one that fails leaves the others
untouched. At each turn the device behind standard output or behind the files may fail.
-/

namespace DependencyDiagram.Execution

open Log (Recorded)

/-- What a run has loaded: the known modules, the style and the modules to draw. -/
structure Plan where
  catalog : Catalog
  style : Option Style.Document
  targets : List String

def loadStyle (system : Files.System) : Option String → Recorded (Option Style.Document)
  | none => pure none
  | some path =>
    match system.read path with
    | .error fault => Recorded.fail (.unreadableFile path fault)
    | .ok text => do
      let document ← Style.Document.parse text path
      pure (some document)

/-- The modules that are asked for, or all of them, as far as the filter lets them through. -/
def chooseTargets (generation : Generation) (pattern : Option Glob.Pattern) (catalog : Catalog) :
    List String :=
  Glob.select pattern
    (if generation.modules.isEmpty then catalog.paths else generation.modules)

/-- Loads the filter, the style and the source, in this order. -/
def plan (system : Files.System) (generation : Generation) : List Notice × Except Report Plan :=
  match compileFilter generation.filter with
  | .error failure => ([], .error (.invalidFilter failure))
  | .ok pattern =>
    let style := loadStyle system generation.style
    match style.outcome with
    | .error failure => (logged style.events, .error (.styleNotLoaded failure))
    | .ok document =>
      let source := generation.source.load system
      let notices :=
        logged style.events ++ .status (.reading generation.source) :: logged source.events
      match source.outcome with
      | .error failure => (notices, .error (.sourceNotRead failure))
      | .ok catalog =>
        (notices ++ [.status (.found catalog.size)],
          .ok ⟨catalog, document, chooseTargets generation pattern catalog⟩)

/-- What became of a target. -/
inductive Fate where
  | printed (diagram : Diagram)
  /-- A beginning of the diagram may have arrived. -/
  | notPrinted (diagram : Diagram) (fault : Files.Fault) (arrived : String)
  | written (diagram : Diagram) (path : String)
  /-- If the file had been opened, what is left in it. -/
  | notWritten (diagram : Diagram) (path : String) (left : Option ByteArray)
  | notGenerated (failure : Failure)

namespace Fate

def succeeded : Fate → Bool
  | .printed _ | .written _ _ => true
  | .notPrinted _ _ _ | .notWritten _ _ _ | .notGenerated _ => false

/-- What a target prints. -/
def stdout : Fate → String
  | .printed diagram => diagram.content ++ "\n"
  | .notPrinted _ _ arrived => arrived
  | _ => ""

def leftOut (target : String) (diagram : Diagram) : List Notice :=
  diagram.cycleBreaks.map fun edge => .status (.leftOut target edge)

def notices (target : String) : Fate → List Notice
  | .printed diagram => leftOut target diagram
  | .notPrinted diagram fault _ => leftOut target diagram ++ [.status (.notPrinted target fault)]
  | .written diagram path =>
    leftOut target diagram ++ [.event (.wroteDiagram diagram.modulePath path)]
  | .notWritten diagram path _ => leftOut target diagram ++ [.status (.notWritten target path)]
  | .notGenerated failure => [.status (.notGenerated target failure)]

end Fate

/-- One target with what was learned on the way to its diagram. -/
structure Attempt where
  target : String
  events : List Log.Event
  fate : Fate

namespace Attempt

def notices (attempt : Attempt) : List Notice :=
  logged attempt.events ++ attempt.fate.notices attempt.target

end Attempt

/-- The file a diagram is written to. -/
def diagramPath (generation : Generation) (diagram : Diagram) : String :=
  Files.Path.join generation.output (diagram.fileName generation.fileStart)

/-- Prints a diagram with a newline behind it. -/
def print (diagram : Diagram) : Files.Transfer → Fate
  | .complete => .printed diagram
  | .refused fault => .notPrinted diagram fault ""
  | .brokenOff fault count =>
    .notPrinted diagram fault (String.ofList ((diagram.content ++ "\n").toList.take count))

/-- Writes a diagram to a file. What the file held is gone as soon as writing begins. -/
def write (system : Files.System) (path : String) (diagram : Diagram) :
    Files.Transfer → Files.System × Fate
  | .complete =>
    match system.write path diagram.fileContents with
    | .ok system => (system, .written diagram path)
    | .error _ => (system, .notWritten diagram path none)
  | .refused _ => (system, .notWritten diagram path none)
  | .brokenOff _ count =>
    let left := diagram.fileContents.toUTF8.extract 0 count
    match system.writeBytes path left with
    | .ok system => (system, .notWritten diagram path (some left))
    | .error _ => (system, .notWritten diagram path none)

/-- Prints a diagram or writes it to its file. -/
def emit (transfer : Files.Transfer) (generation : Generation) (system : Files.System)
    (diagram : Diagram) : Files.System × Fate :=
  if generation.toStdout then (system, print diagram transfer)
  else write system (diagramPath generation diagram) diagram transfer

/-- Attempts the targets one after the other. -/
def attemptAll (device : Files.Device) (generation : Generation) (style : Option Style.Document) :
    Resolver → Files.System → List String → Files.System × List Attempt
  | _, system, [] => (system, [])
  | resolver, system, target :: rest =>
    let answer := resolver.generate target generation.format style
    let (system, fate) :=
      match answer.result with
      | .ok diagram => emit (device 0) generation system diagram
      | .error failure => (system, .notGenerated failure)
    let (system, attempts) :=
      attemptAll device.later generation style answer.resolver system rest
    (system, ⟨target, answer.events, fate⟩ :: attempts)

/-- The targets without a diagram. -/
def failedTargets (attempts : List Attempt) : List String :=
  (attempts.filter (!·.fate.succeeded)).map (·.target)

/-- The number of targets with a diagram. -/
def successes (attempts : List Attempt) : Nat := (attempts.filter (·.fate.succeeded)).length

/-- The directory that the last status line names. -/
def outputDirectory? (generation : Generation) : Option String :=
  if generation.toStdout then none else some generation.output

/-- Creates the output directory if files are going to be written. -/
def createOutput (generation : Generation) (system : Files.System) :
    Files.System × Except Files.Fault Unit :=
  if generation.toStdout then (system, .ok ()) else system.createDirectories generation.output

/-- Failed targets are an error only if that was asked for. -/
def conclude (generation : Generation) (attempts : List Attempt) : Except Report Unit :=
  let failed := failedTargets attempts
  if generation.errorOnFailure && !failed.isEmpty then .error (.notGenerated failed) else .ok ()

/-- Attempts all targets, once the output directory is there. -/
def drawAll (device : Files.Device) (generation : Generation) (plan : Plan) (notices : List Notice)
    (system : Files.System) : Run :=
  let (system, attempts) :=
    attemptAll device generation plan.style (Resolver.new plan.catalog) system plan.targets
  let summary : Status := .generated (successes attempts) (failedTargets attempts).length
    (outputDirectory? generation)
  { system
    stdout := String.join (attempts.map (·.fate.stdout))
    notices := notices ++ .status (.generating plan.targets.length generation.format) ::
      attempts.flatMap (·.notices) ++ [.status summary]
    result := conclude generation attempts }

/-- A run on a device that may fail. -/
def generateOn (device : Files.Device) (system : Files.System) (generation : Generation) : Run :=
  match plan system generation with
  | (notices, .error report) => Run.refused system notices report
  | (notices, .ok plan) =>
    if plan.targets.isEmpty then
      { system, stdout := "", notices := notices ++ [.status .nothingToRender], result := .ok () }
    else
      match createOutput generation system with
      | (system, .error fault) =>
        Run.refused system notices (.outputNotCreated generation.output fault)
      | (system, .ok ()) => drawAll device generation plan notices system

/-- A run on a device that takes everything. -/
def generate (system : Files.System) (generation : Generation) : Run :=
  generateOn .reliable system generation

end DependencyDiagram.Execution
