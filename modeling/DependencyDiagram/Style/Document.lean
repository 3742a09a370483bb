import DependencyDiagram.Json.Reader
import DependencyDiagram.Log.Recorded
import DependencyDiagram.Text.Position

/-!
Style documents: a JSON object with at most one object of attributes for each section. Other keys
are ignored, and attributes keep the order in which they were written.
-/

namespace DependencyDiagram.Style

open Log (Recorded)

abbrev Attribute := String × Json.Value

abbrev Attributes := List Attribute

structure Document where
  container : Option Attributes
  module : Option Attributes
  targetModule : Option Attributes
  link : Option Attributes
  directLink : Option Attributes

namespace Document

def empty : Document := ⟨none, none, none, none, none⟩

/-- The attributes of a section, if the document has it. -/
def section? (document : Document) : Section → Option Attributes
  | .container => document.container
  | .module => document.module
  | .targetModule => document.targetModule
  | .link => document.link
  | .directLink => document.directLink

def setSection (document : Document) (part : Section) (attributes : Attributes) : Document :=
  match part with
  | .container => { document with container := some attributes }
  | .module => { document with module := some attributes }
  | .targetModule => { document with targetModule := some attributes }
  | .link => { document with link := some attributes }
  | .directLink => { document with directLink := some attributes }

def isEmpty (document : Document) : Bool :=
  Section.all.all fun part => (document.section? part).isNone

/-- Takes the members of the document's object one by one. -/
def addMembers : List (String × Json.Value) → Document → Recorded Document
  | [], document => pure document
  | (key, value) :: rest, document =>
    match Section.ofName? key, value with
    | none, _ => do
      Recorded.note (.ignoredSection key)
      addMembers rest document
    | some part, .object attributes => addMembers rest (document.setSection part attributes)
    | some part, other => Recorded.fail (.sectionNotObject part other.kind)

/-- The byte offset at which diagnostics point when reading stopped after `count` bytes. The sum is
never too large, so it does not matter how the program is built. -/
def faultOffset (text : String) (count : Nat) : Nat :=
  let bytes := Text.bytes text
  match Text.offsetOf? .wrapping bytes (.ofNat (Text.lineAfter bytes count))
      (.ofNat (Text.columnAfter bytes count)) with
  | .ok (some offset) => offset.toNat
  | _ => 0

/-- Reads a document; `name` stands for it in diagnostics. -/
def parse (text name : String) : Recorded Document :=
  match Json.parse text with
  | .error count => Recorded.fail (.malformedStyle name (faultOffset text count))
  | .ok (.object members) => addMembers members empty
  | .ok _ => Recorded.fail (.styleNotObject name)

end Document

end DependencyDiagram.Style
