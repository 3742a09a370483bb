import DependencyDiagram.Diagram.Format
import DependencyDiagram.Source

/-!
What a run is asked to do. A configuration is built from a draft, which may lack what has no
default; building it fails with the first field that is missing.
-/

namespace DependencyDiagram

/-- Draws diagrams of modules. -/
structure Generation where
  source : Source
  /-- The modules to draw; all known ones if none is named. -/
  modules : List String
  filter : Option String
  format : Diagram.Format
  style : Option String
  /-- The directory diagrams are written to. -/
  output : String
  /-- What the name of every written file starts with. -/
  fileStart : String
  /-- Prints the diagrams instead of writing files. -/
  toStdout : Bool
  errorOnFailure : Bool
deriving DecidableEq, Repr

/-- Lists modules with their direct dependencies. -/
structure Listing where
  source : Source
  filter : Option String
deriving DecidableEq, Repr

/-- A field that has to be filled. -/
def required {α : Type} (field : String) : Option α → Except Failure α
  | some value => .ok value
  | none => .error (.missingField field)

structure Generation.Draft where
  source : Option Source := none
  modules : List String := []
  filter : Option String := none
  format : Option Diagram.Format := none
  style : Option String := none
  output : Option String := none
  fileStart : String := ""
  toStdout : Bool := false
  errorOnFailure : Bool := false
deriving DecidableEq, Repr

def Generation.Draft.build (draft : Generation.Draft) : Except Failure Generation := do
  let source ← required "source" draft.source
  let format ← required "format" draft.format
  let output ← required "output" draft.output
  pure {
    source, format, output
    modules := draft.modules
    filter := draft.filter
    style := draft.style
    fileStart := draft.fileStart
    toStdout := draft.toStdout
    errorOnFailure := draft.errorOnFailure }

structure Listing.Draft where
  source : Option Source := none
  filter : Option String := none
deriving DecidableEq, Repr

def Listing.Draft.build (draft : Listing.Draft) : Except Failure Listing := do
  let source ← required "source" draft.source
  pure { source, filter := draft.filter }

inductive Command where
  | generate (generation : Generation)
  | modules (listing : Listing)
deriving DecidableEq, Repr

namespace Command

def generation : Command → Except Failure Generation
  | .generate generation => .ok generation
  | .modules _ => .error (.wrongCommand "GenerateConfig")

def listing : Command → Except Failure Listing
  | .modules listing => .ok listing
  | .generate _ => .error (.wrongCommand "ModulesConfig")

end Command

end DependencyDiagram
