import DependencyDiagram.Toml.Layout
import DependencyDiagram.Toml.Quoted
import DependencyDiagram.Toml.Scalar

/-!
TOML documents. A document is a sequence of statements, each a table header or an assignment; the
table it denotes is built by taking them in order.
-/

namespace DependencyDiagram.Toml

inductive Statement where
  | header (path : List String)
  /-- A header that adds one more table to an array of tables. -/
  | itemHeader (path : List String)
  | assignment (path : List String) (value : Value)

namespace Reader

def isBareKeyCharacter (c : Char) : Bool := c.isAlphanum || c == '_' || c == '-'

def simpleKey : Reader String := do
  match ← peek? with
  | some '"' | some '\'' => lineString
  | _ =>
    let bare ← takeWhile isBareKeyCharacter
    if bare.isEmpty then failure else return String.ofList bare

/-- The keys after a first one, with the blanks behind them. -/
def moreKeys : Nat → Reader (List String)
  | 0 => return []
  | fuel + 1 => do
    skipBlanks
    if ← accept ['.'] then
      skipBlanks
      let key ← simpleKey
      return key :: (← moreKeys fuel)
    else return []

def dottedKey : Reader (List String) := do
  let key ← simpleKey
  return key :: (← moreKeys ((← get).length + 1))

/-- The items of an array up to its bracket. -/
def arrayItems (item : Reader Value) : Nat → Reader (List Value)
  | 0 => failure
  | fuel + 1 => do
    skipSpace
    if ← accept [']'] then return []
    let head ← item
    skipSpace
    if ← accept [','] then return head :: (← arrayItems item fuel)
    else
      expect [']']
      return [head]

def assignment (item : Reader Value) : Reader (List String × Value) := do
  let path ← dottedKey
  expect ['=']
  skipBlanks
  return (path, ← item)

/-- The entries of an inline table up to its brace. -/
def inlineEntries (item : Reader Value) : Nat → Nodes → Reader Nodes
  | 0, _ => failure
  | fuel + 1, nodes => do
    skipSpace
    if ← accept ['\x7d'] then return nodes
    let path ← dottedKey
    skipSpace
    expect ['=']
    skipSpace
    let value ← item
    match nodes.assign path value with
    | none => failure
    | some nodes =>
      skipSpace
      if ← accept [','] then inlineEntries item fuel nodes
      else
        expect ['\x7d']
        return nodes

/-- A value with at most the given number of arrays and inline tables around any part of it. -/
def valueWithin : Nat → Reader Value
  | 0 => do
    match ← peek? with
    | some '"' | some '\'' => return .string (← string)
    | some _ => Scalar.read
    | none => failure
  | depth + 1 => do
    match ← peek? with
    | some '"' | some '\'' => return .string (← string)
    | some '[' =>
      skip 1
      return .array (← arrayItems (valueWithin depth) ((← get).length + 1))
    | some '\x7b' =>
      skip 1
      return .table (entriesOf (← inlineEntries (valueWithin depth) ((← get).length + 1) []))
    | some _ => Scalar.read
    | none => failure

def greatestDepth : Nat := 80

def statement : Reader Statement := do
  if ← accept ['[', '['] then
    skipBlanks
    let path ← dottedKey
    skipBlanks
    expect [']', ']']
    return .itemHeader path
  else if ← accept ['['] then
    skipBlanks
    let path ← dottedKey
    skipBlanks
    expect [']']
    return .header path
  else
    let (path, value) ← assignment (valueWithin greatestDepth)
    return .assignment path value

/-- The statements up to the end of the text, each on a line of its own. -/
def statements : Nat → Reader (List Statement)
  | 0 => return []
  | fuel + 1 => do
    skipSpace
    if (← peek?).isNone then return []
    let first ← statement
    endOfLine
    return first :: (← statements fuel)

end Reader

/-- A document being built: the table above all headers and the one that assignments go to. -/
structure Draft where
  root : Nodes
  /-- Where the open table will be put, and whether as one more item of an array. -/
  place : Option (List String × String × Bool)
  opened : Nodes

namespace Draft

/-- Puts the open table into its place. -/
def close (draft : Draft) : Option Nodes :=
  match draft.place with
  | none => some draft.opened
  | some (path, key, isItem) =>
    let put (_ : Origin) (nodes : Nodes) : Option Nodes :=
      if isItem then
        match nodes.find? key with
        | some (.tables items) => some (nodes.set key (.tables (items ++ [draft.opened])))
        | _ => none
      else if (nodes.find? key).isSome then none
      else some (nodes ++ [(key, .table .declared draft.opened)])
    draft.root.descend .implied put path .declared

/-- Opens a table. One that is only implied so far is taken out of its place with all it holds. -/
def openTable (root : Nodes) (path : List String) (key : String) : Option Draft := do
  let taken ← root.descend .implied (fun _ nodes => some (nodes.erase key)) path .declared
  match (Nodes.tableAt? path root).bind (·.find? key) with
  | none => some ⟨taken, some (path, key, false), []⟩
  | some (.table .implied nodes) => some ⟨taken, some (path, key, false), nodes⟩
  | some _ => none

/-- Opens one more item of an array of tables. -/
def openItem (root : Nodes) (path : List String) (key : String) : Option Draft := do
  let start (_ : Origin) (nodes : Nodes) : Option Nodes :=
    match nodes.find? key with
    | none => some (nodes ++ [(key, .tables [])])
    | some (.tables _) => some nodes
    | some _ => none
  let root ← root.descend .implied start path .declared
  some ⟨root, some (path, key, true), []⟩

def step (draft : Draft) : Statement → Option Draft
  | .assignment path value => do
    some { draft with opened := ← draft.opened.assign path value }
  | .header path => do
    let (path, key) ← Nodes.splitPath path
    openTable (← draft.close) path key
  | .itemHeader path => do
    let (path, key) ← Nodes.splitPath path
    openItem (← draft.close) path key

end Draft

/-- The table that statements denote. -/
def tableOf? (statements : List Statement) : Option Entries := do
  let draft ← statements.foldlM Draft.step ⟨[], none, []⟩
  some (entriesOf (← draft.close))

/-- The table a document denotes; a byte order mark in front of it does not count. -/
def parse? (text : String) : Option Entries := do
  let characters := match text.toList with
    | '\ufeff' :: rest => rest
    | characters => characters
  let (statements, _) ← (Reader.statements (characters.length + 1)).run characters
  tableOf? statements

end DependencyDiagram.Toml
