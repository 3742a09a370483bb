import DependencyDiagram.Toml.Scanner

/-!
Quoted TOML text. Basic strings have escapes, literal strings do not; both come with single quotes
for one line and triple quotes for several.
-/

namespace DependencyDiagram.Toml

namespace Reader

def hexValue? (c : Char) : Option Nat :=
  if '0' ≤ c && c ≤ '9' then some (c.toNat - '0'.toNat)
  else if 'a' ≤ c && c ≤ 'f' then some (c.toNat - 'a'.toNat + 10)
  else if 'A' ≤ c && c ≤ 'F' then some (c.toNat - 'A'.toNat + 10)
  else none

def hexNumber : Nat → Nat → Reader Nat
  | 0, value => pure value
  | count + 1, value => do
    match hexValue? (← next) with
    | some digit => hexNumber count (value * 16 + digit)
    | none => failure

/-- The character with a code point of so many hexadecimal digits. Surrogates are none. -/
def codePoint (count : Nat) : Reader Char := do
  let value ← hexNumber count 0
  if value.isValidChar then return Char.ofNat value else failure

/-- The character an escape stands for; the backslash has been read. -/
def escapeSequence : Reader Char := do
  match ← next with
  | 'b' => return '\x08'
  | 't' => return '\t'
  | 'n' => return '\n'
  | 'f' => return '\x0c'
  | 'r' => return '\r'
  | 'e' => return '\x1b'
  | '"' => return '"'
  | '\\' => return '\\'
  | 'x' => codePoint 2
  | 'u' => codePoint 4
  | 'U' => codePoint 8
  | _ => failure

/-- The rest of a basic string on one line. Every round reads a character. -/
def basicBody : Nat → Reader (List Char)
  | 0 => failure
  | fuel + 1 => do
    let c ← next
    if c = '"' then return []
    else if c = '\\' then
      let meant ← escapeSequence
      return meant :: (← basicBody fuel)
    else if isPlain c then return c :: (← basicBody fuel)
    else failure

/-- The rest of a literal string on one line. -/
def literalBody : Reader (List Char) := do
  let body ← takeWhile fun c => isPlain c && c != '\''
  expect ['\'']
  return body

/-- A run of quotes in or after a string in triple quotes: up to two belong to the string, the last
three of up to five close it. The flag tells whether they do. -/
def quoteRun (quote : Char) : Reader (List Char × Bool) := do
  let run ← takeWhile (· == quote)
  if run.length < 3 then return (run, false)
  else if run.length ≤ 5 then return (run.drop 3, true)
  else failure

/-- Drops the end of a line, and all blank lines and indentation after it, when a backslash has
been read at its end. -/
def continuedLine : Reader Bool := do
  let before ← get
  skipBlanks
  if ← acceptNewline then
    discard (takeWhile isBlank)
    return true
  else
    set before
    return false

/-- Newlines and blanks after a continued line. -/
def skipBlankLines : Nat → Reader Unit
  | 0 => pure ()
  | fuel + 1 => do
    skipBlanks
    if ← acceptNewline then skipBlankLines fuel

/-- The rest of a string in triple quotes. Newlines are kept as they are written. -/
def multilineBody (quote : Char) (escapes : Bool) : Nat → Reader (List Char)
  | 0 => failure
  | fuel + 1 => do
    match ← peek? with
    | none => failure
    | some c =>
      if c = quote then
        let (kept, closed) ← quoteRun quote
        if closed then return kept else return kept ++ (← multilineBody quote escapes fuel)
      else if c = '\\' && escapes then
        skip 1
        if ← continuedLine then
          skipBlankLines ((← get).length + 1)
          multilineBody quote escapes fuel
        else
          let meant ← escapeSequence
          return meant :: (← multilineBody quote escapes fuel)
      else if ← accept ['\n'] then return '\n' :: (← multilineBody quote escapes fuel)
      else if ← accept ['\r', '\n'] then
        return '\r' :: '\n' :: (← multilineBody quote escapes fuel)
      else if isPlain c then
        skip 1
        return c :: (← multilineBody quote escapes fuel)
      else failure

/-- A newline right after the opening quotes does not count. -/
def multiline (quote : Char) (escapes : Bool) : Reader (List Char) := do
  discard acceptNewline
  multilineBody quote escapes ((← get).length + 1)

/-- A string on one line, as keys are written too. -/
def lineString : Reader String := do
  if ← accept ['"'] then
    return String.ofList (← basicBody ((← get).length + 1))
  else
    expect ['\'']
    return String.ofList (← literalBody)

/-- Any string. -/
def string : Reader String := do
  if ← accept ['"', '"', '"'] then return String.ofList (← multiline '"' true)
  else if ← accept ['\'', '\'', '\''] then return String.ofList (← multiline '\'' false)
  else lineString

end Reader

end DependencyDiagram.Toml
