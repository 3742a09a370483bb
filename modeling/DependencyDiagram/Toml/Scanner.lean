/-!
Readers over the remaining text of a TOML document. A reader that meets what it does not expect
fails without an answer, since only the fact that a text is malformed is ever reported.
-/

namespace DependencyDiagram.Toml

abbrev Reader := StateT (List Char) Option

namespace Reader

def peek? : Reader (Option Char) := do return (← get).head?

def next : Reader Char := do
  match ← get with
  | [] => failure
  | c :: rest =>
    set rest
    return c

def startsWith (word : List Char) : Reader Bool := do return word.isPrefixOf (← get)

def skip (count : Nat) : Reader Unit := modify (·.drop count)

/-- Reads a fixed word if it is here. -/
def accept (word : List Char) : Reader Bool := do
  let here ← startsWith word
  if here then skip word.length
  return here

def expect (word : List Char) : Reader Unit := do
  unless ← accept word do failure

def takeWhile (test : Char → Bool) : Reader (List Char) := do
  let taken := (← get).takeWhile test
  skip taken.length
  return taken

def isBlank (c : Char) : Bool := c == ' ' || c == '\t'

def skipBlanks : Reader Unit := discard (takeWhile isBlank)

/-- A line feed, with a carriage return in front of it or without. -/
def acceptNewline : Reader Bool := do
  if ← accept ['\n'] then return true
  accept ['\r', '\n']

/-- Tabs and printable characters; other control characters are allowed nowhere. -/
def isPlain (c : Char) : Bool :=
  c == '\t' || (0x20 ≤ c.toNat && c.toNat != 0x7f)

/-- A comment up to the end of its line, if one starts here. -/
def skipComment : Reader Unit := do
  if ← accept ['#'] then discard (takeWhile isPlain)

/-- Blanks, comments and newlines. Each round reads a newline, so the number of characters left
bounds the rounds. -/
def skipLines : Nat → Reader Unit
  | 0 => pure ()
  | fuel + 1 => do
    skipBlanks
    skipComment
    if ← acceptNewline then skipLines fuel

def skipSpace : Reader Unit := do skipLines ((← get).length + 1)

/-- The end of a line or of the document, after blanks and a comment. -/
def endOfLine : Reader Unit := do
  skipBlanks
  skipComment
  if (← peek?).isSome then
    unless ← acceptNewline do failure

end Reader

end DependencyDiagram.Toml
