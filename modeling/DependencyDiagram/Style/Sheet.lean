import DependencyDiagram.Json.Printer
import DependencyDiagram.Style.Document

/-!
Attributes formatted for one diagram language. A sheet has for each section the text of its
attribute list and, in Mermaid, the value of its special attribute, which then is not in the list.
-/

namespace DependencyDiagram.Style

structure Sheet where
  list? : Section → Option String
  special? : Section → Option String

namespace Sheet

def isEmpty (sheet : Sheet) : Bool :=
  Section.all.all fun part => (sheet.list? part).isNone && (sheet.special? part).isNone

/-- The entry under a name: a section's own name or the name of its special attribute. -/
def get? (sheet : Sheet) (name : String) : Option String :=
  Section.all.findSome? fun part =>
    if part.name == name then sheet.list? part
    else if part.specialName? == some name then sheet.special? part
    else none

end Sheet

/-- Double quotes around a text, with a backslash before each quote inside. -/
def quoteDot (text : String) : String :=
  let escaped := text.toList.flatMap fun c => if c = '"' then ['\\', '"'] else [c]
  String.ofList ('"' :: escaped ++ ['"'])

/-- Numbers and booleans stand bare in DOT, everything else is quoted. -/
def dotValue : Json.Value → String
  | .number number => number.text
  | .bool flag => Json.boolText flag
  | .string text => quoteDot text
  | other => quoteDot other.text

/-- Mermaid takes the characters of strings as they are and all other values as JSON text. -/
def rawValue : Json.Value → String
  | .string text => text
  | other => other.text

def dotItem (item : Attribute) : String :=
  item.1 ++ "=" ++ dotValue item.2

def mermaidItem (item : Attribute) : String :=
  item.1 ++ ":" ++ rawValue item.2

/-- Whether an attribute is the one that is taken out of its section. -/
def isSpecial (part : Section) (item : Attribute) : Bool :=
  part.specialKey? == some item.1

/-- A present section has a list in DOT even if it has no attribute. -/
def dotSheet (document : Option Document) : Sheet where
  list? part := do
    let attributes ← (← document).section? part
    pure (String.intercalate ", " (attributes.map dotItem))
  special? _ := none

/-- The attributes of a section that has any; Mermaid skips empty sections. -/
def nonEmptySection? (document : Option Document) (part : Section) : Option Attributes := do
  let attributes ← (← document).section? part
  if attributes.isEmpty then none else some attributes

def mermaidSheet (document : Option Document) : Sheet where
  list? part := do
    let attributes ← nonEmptySection? document part
    pure (String.intercalate "," ((attributes.filter (!isSpecial part ·)).map mermaidItem))
  special? part := do
    let attributes ← nonEmptySection? document part
    let item ← attributes.find? (isSpecial part)
    pure (rawValue item.2)

end DependencyDiagram.Style
