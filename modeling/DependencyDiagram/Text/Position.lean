/-!
Places in a text by byte offset and by line and column. Lines end after each newline byte and are
counted from one; columns count bytes. A line and a column are machine words of 64 bits, so the
offset they lead to is a sum that may be too large.
-/

namespace DependencyDiagram.Text

def newline : UInt8 := 10

def bytes (text : String) : List UInt8 := text.toUTF8.data.toList

/-- The lines of a text, each with the newline that ends it. Nothing follows a final newline. -/
def lines : List UInt8 → List (List UInt8)
  | [] => []
  | byte :: rest =>
    if byte = newline then [byte] :: lines rest
    else
      match lines rest with
      | [] => [[byte]]
      | line :: others => (byte :: line) :: others

/-- The line that holds whatever follows the first `count` bytes. -/
def lineAfter (text : List UInt8) (count : Nat) : Nat :=
  1 + (text.take count).count newline

/-- How many of the first `count` bytes stand on the last line they reach. -/
def columnAfter (text : List UInt8) (count : Nat) : Nat :=
  ((text.take count).reverse.takeWhile (· != newline)).length

/-- What becomes of a sum that no machine word holds: a program that is built with overflow checks
stops there, any other goes on with the rest that a word holds. -/
inductive Build where
  | checked
  | wrapping
deriving DecidableEq, Repr

/-- Why a program has stopped in the middle of a calculation. -/
inductive Overflow where
  | sum
deriving DecidableEq, Repr

namespace Build

def add (build : Build) (first second : UInt64) : Except Overflow UInt64 :=
  match build with
  | .checked =>
    if first.toNat + second.toNat < UInt64.size then .ok (first + second) else .error .sum
  | .wrapping => .ok (first + second)

/-- Adds up from the left. -/
def sum (build : Build) (numbers : List UInt64) : Except Overflow UInt64 :=
  numbers.foldlM build.add 0

end Build

/-- The offset of a line and a column, both counted from one. A column past the end of the text
gives its end, as long as the sum can be built; column zero stands for the start of the line. There
is no line zero. -/
def offsetOf? (build : Build) (text : List UInt8) (line column : UInt64) :
    Except Overflow (Option UInt64) :=
  if line = 0 then .ok none
  else do
    let start ← build.sum (((lines text).take (line.toNat - 1)).map (.ofNat ·.length))
    let offset ← build.add start (.ofNat (column.toNat - 1))
    .ok (some (min offset (.ofNat text.length)))

end DependencyDiagram.Text
