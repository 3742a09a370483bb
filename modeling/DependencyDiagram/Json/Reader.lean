import DependencyDiagram.Json.Value

/-!
Strict JSON text. A reader takes the remaining text and gives the value with what follows it; a
malformed text is answered by the number of bytes that had been looked at or consumed when reading
stopped. At most 127 arrays and objects may be nested in each other.
-/

namespace DependencyDiagram.Json

/-- The text still to be read and the number of bytes before it. -/
structure Cursor where
  rest : List Char
  offset : Nat

namespace Cursor

def ofText (text : String) : Cursor := ⟨text.toList, 0⟩

/-- The byte count that stands for an unexpected character here, or for the end of the text. -/
def unexpected (cursor : Cursor) : Nat :=
  if cursor.rest.isEmpty then cursor.offset else cursor.offset + 1

def bytesLeft (cursor : Cursor) : Nat :=
  (cursor.rest.map Char.utf8Size).foldr (· + ·) 0

def startsWith (cursor : Cursor) (c : Char) : Bool :=
  cursor.rest.head? == some c

/-- Moves past one character of one byte. -/
def skip (cursor : Cursor) : Cursor := ⟨cursor.rest.tail, cursor.offset + 1⟩

end Cursor

def isBlank (c : Char) : Bool :=
  c == ' ' || c == '\t' || c == '\r' || c == '\n'

def isDigit (c : Char) : Bool :=
  '0' ≤ c && c ≤ '9'

def digitValue (c : Char) : Nat := c.toNat - '0'.toNat

def hexValue? (c : Char) : Option Nat :=
  if isDigit c then some (digitValue c)
  else if 'a' ≤ c && c ≤ 'f' then some (c.toNat - 'a'.toNat + 10)
  else if 'A' ≤ c && c ≤ 'F' then some (c.toNat - 'A'.toNat + 10)
  else none

def skipBlanks (cursor : Cursor) : Cursor :=
  let blanks := cursor.rest.takeWhile isBlank
  ⟨cursor.rest.drop blanks.length, cursor.offset + blanks.length⟩

/-- The digits here and what follows them. -/
def takeDigits (cursor : Cursor) : List Nat × Cursor :=
  let digits := cursor.rest.takeWhile isDigit
  (digits.map digitValue, ⟨cursor.rest.drop digits.length, cursor.offset + digits.length⟩)

/-- A fixed word, letter by letter; the first wrong letter counts as consumed. -/
def word : List Char → Cursor → Except Nat Cursor
  | [], cursor => .ok cursor
  | expected :: more, cursor =>
    match cursor.rest with
    | [] => .error cursor.offset
    | c :: rest =>
      if c = expected then word more ⟨rest, cursor.offset + 1⟩ else .error (cursor.offset + 1)

/-! ### Strings -/

/-- Four hexadecimal digits. All four bytes count as consumed when one of them is wrong. -/
def fourHexDigits (cursor : Cursor) : Except Nat (Nat × Cursor) :=
  let wrong := if 4 ≤ cursor.bytesLeft then cursor.offset + 4 else cursor.offset + cursor.bytesLeft
  match cursor.rest with
  | a :: b :: c :: d :: rest =>
    match hexValue? a, hexValue? b, hexValue? c, hexValue? d with
    | some a, some b, some c, some d =>
      .ok (((a * 16 + b) * 16 + c) * 16 + d, ⟨rest, cursor.offset + 4⟩)
    | _, _, _, _ => .error wrong
  | _ => .error wrong

/-- The character named by `\u` escapes, the first of which has been entered. A high surrogate must
be followed by the escape of a low one. -/
def unicodeEscape (cursor : Cursor) : Except Nat (Char × Cursor) := do
  let (first, cursor) ← fourHexDigits cursor
  if 0xDC00 ≤ first && first ≤ 0xDFFF then .error cursor.offset
  else if first < 0xD800 || 0xDBFF < first then .ok (Char.ofNat first, cursor)
  else if !cursor.startsWith '\\' then .error cursor.unexpected
  else if !cursor.skip.startsWith 'u' then .error cursor.skip.unexpected
  else
    let (second, cursor) ← fourHexDigits cursor.skip.skip
    if second < 0xDC00 || 0xDFFF < second then .error cursor.offset
    else .ok (Char.ofNat ((first - 0xD800) * 0x400 + (second - 0xDC00) + 0x10000), cursor)

/-- The character an escape stands for; the backslash has been consumed. -/
def escapeSequence (cursor : Cursor) : Except Nat (Char × Cursor) :=
  match cursor.rest with
  | [] => .error cursor.offset
  | c :: _ =>
    match c with
    | '"' => .ok ('"', cursor.skip)
    | '\\' => .ok ('\\', cursor.skip)
    | '/' => .ok ('/', cursor.skip)
    | 'b' => .ok ('\x08', cursor.skip)
    | 'f' => .ok ('\x0c', cursor.skip)
    | 'n' => .ok ('\n', cursor.skip)
    | 'r' => .ok ('\r', cursor.skip)
    | 't' => .ok ('\t', cursor.skip)
    | 'u' => unicodeEscape cursor.skip
    | _ => .error (cursor.offset + 1)

/-- What stands before the closing quote. Every step consumes a character, so the length of the
remaining text is fuel enough. -/
def stringBody : Nat → Cursor → Except Nat (List Char × Cursor)
  | 0, cursor => .error cursor.offset
  | fuel + 1, cursor =>
    match cursor.rest with
    | [] => .error cursor.offset
    | c :: rest =>
      if c = '"' then .ok ([], cursor.skip)
      else if c = '\\' then do
        let (meant, cursor) ← escapeSequence cursor.skip
        let (more, cursor) ← stringBody fuel cursor
        .ok (meant :: more, cursor)
      else if c.toNat < 0x20 then .error (cursor.offset + 1)
      else do
        let (more, cursor) ← stringBody fuel ⟨rest, cursor.offset + c.utf8Size⟩
        .ok (c :: more, cursor)

/-- A string whose opening quote is here. -/
def string (cursor : Cursor) : Except Nat (String × Cursor) := do
  let (characters, after) ← stringBody (cursor.rest.length + 1) cursor.skip
  .ok (String.ofList characters, after)

/-! ### Numbers -/

def greatestNatural : Nat := Nat.pow 2 64 - 1

/-- Decimal digits gathered in 64 bits, and the power of ten they are to be scaled by. -/
structure Gathered where
  significand : Nat
  exponent : Int

/-- Integer digits. From the first one on that does not fit, each only raises the exponent. -/
def gatherInteger : List Nat → Nat → Gathered
  | [], significand => ⟨significand, 0⟩
  | digit :: rest, significand =>
    if greatestNatural < significand * 10 + digit then ⟨significand, (rest.length : Int) + 1⟩
    else gatherInteger rest (significand * 10 + digit)

/-- Fraction digits. From the first one on that does not fit, all are dropped. -/
def gatherFraction : List Nat → Gathered → Gathered
  | [], gathered => gathered
  | digit :: rest, gathered =>
    if greatestNatural < gathered.significand * 10 + digit then gathered
    else gatherFraction rest ⟨gathered.significand * 10 + digit, gathered.exponent - 1⟩

/-- Division by a power of ten, in steps for powers beyond the range of a double. -/
def scaleDown (magnitude : Decimal.Binary64) (power : Nat) : Option Decimal.Binary64 :=
  if magnitude.significand = 0 then some magnitude
  else if h : power ≤ 308 then (Decimal.Binary64.ofNat? (Nat.pow 10 power)).bind magnitude.div?
  else ((Decimal.Binary64.ofNat? (Nat.pow 10 308)).bind magnitude.div?).bind
    fun smaller => scaleDown smaller (power - 308)
termination_by power
decreasing_by omega

def scaleUp (magnitude : Decimal.Binary64) (power : Nat) : Option Decimal.Binary64 :=
  if magnitude.significand = 0 then some magnitude
  else if power ≤ 308 then (Decimal.Binary64.ofNat? (Nat.pow 10 power)).bind magnitude.mul?
  else none

/-- The double for gathered digits: the digits are rounded first and then scaled once more. -/
def Gathered.magnitude? (gathered : Gathered) : Option Decimal.Binary64 :=
  (Decimal.Binary64.ofNat? gathered.significand).bind fun magnitude =>
    if gathered.exponent < 0 then scaleDown magnitude (-gathered.exponent).toNat
    else scaleUp magnitude gathered.exponent.toNat

/-- A double beyond the largest one is refused just after its last digit. -/
def finish (below : Bool) (gathered : Gathered) (cursor : Cursor) : Except Nat (Number × Cursor) :=
  match gathered.magnitude? with
  | some magnitude => .ok (.real below magnitude, cursor)
  | none => .error cursor.offset

/-- The value of exponent digits, or how many of them had been read when it left 32 bits. -/
def gatherExponent : List Nat → Nat → Nat → Except Nat Nat
  | [], value, _ => .ok value
  | digit :: rest, value, count =>
    if Nat.pow 2 31 - 1 < value * 10 + digit then .error (count + 1)
    else gatherExponent rest (value * 10 + digit) (count + 1)

/-- The exponent of a number, after its `e`. -/
def withExponent (below : Bool) (gathered : Gathered) (cursor : Cursor) :
    Except Nat (Number × Cursor) :=
  let negative := cursor.startsWith '-'
  let digitsFrom := if negative || cursor.startsWith '+' then cursor.skip else cursor
  let (digits, after) := takeDigits digitsFrom
  if digits.isEmpty then .error digitsFrom.unexpected
  else
    match gatherExponent digits 0 0 with
    | .ok exponent =>
      let change : Int := if negative then -(exponent : Int) else exponent
      finish below ⟨gathered.significand, gathered.exponent + change⟩ after
    | .error count =>
      if gathered.significand ≠ 0 && !negative then .error (digitsFrom.offset + count)
      else .ok (.real below Decimal.Binary64.zero, after)

def isExponentMark (cursor : Cursor) : Bool :=
  cursor.startsWith 'e' || cursor.startsWith 'E'

/-- The fraction of a number, after its point. -/
def withFraction (below : Bool) (gathered : Gathered) (cursor : Cursor) :
    Except Nat (Number × Cursor) :=
  let (digits, after) := takeDigits cursor
  if digits.isEmpty then .error cursor.unexpected
  else
    let gathered := gatherFraction digits gathered
    if isExponentMark after then withExponent below gathered after.skip
    else finish below gathered after

/-- An integer without point and exponent. Minus zero is a double, and so is what does not fit. -/
def integer (below : Bool) (gathered : Gathered) (cursor : Cursor) : Except Nat (Number × Cursor) :=
  let significand := gathered.significand
  if gathered.exponent ≠ 0 then finish below gathered cursor
  else if !below then .ok (.natural significand, cursor)
  else if 0 < significand && significand ≤ Nat.pow 2 63 then .ok (.negative significand, cursor)
  else finish below gathered cursor

/-- A number after its sign. A leading zero stands alone. -/
def unsignedNumber (below : Bool) (cursor : Cursor) : Except Nat (Number × Cursor) :=
  let (digits, after) := takeDigits cursor
  match digits with
  | [] => .error cursor.unexpected
  | 0 :: _ :: _ => .error (cursor.offset + 2)
  | digits =>
    let gathered := gatherInteger digits 0
    if after.startsWith '.' then withFraction below gathered after.skip
    else if isExponentMark after then withExponent below gathered after.skip
    else integer below gathered after

def number (cursor : Cursor) : Except Nat (Number × Cursor) :=
  if cursor.startsWith '-' then unsignedNumber true cursor.skip else unsignedNumber false cursor

/-! ### Values -/

abbrev ValueReader := Cursor → Except Nat (Value × Cursor)

/-- The items of an array after the first one, up to its bracket. -/
def moreItems (item : ValueReader) : Nat → Cursor → Except Nat (List Value × Cursor)
  | 0, cursor => .error cursor.unexpected
  | fuel + 1, cursor =>
    let cursor := skipBlanks cursor
    if cursor.startsWith ']' then .ok ([], cursor.skip)
    else if cursor.startsWith ',' then
      let cursor := skipBlanks cursor.skip
      if cursor.startsWith ']' then .error cursor.unexpected
      else do
        let (head, cursor) ← item cursor
        let (tail, cursor) ← moreItems item fuel cursor
        .ok (head :: tail, cursor)
    else .error cursor.unexpected

/-- An array whose bracket has been consumed. -/
def arrayItems (item : ValueReader) (cursor : Cursor) : Except Nat (List Value × Cursor) :=
  let cursor := skipBlanks cursor
  if cursor.startsWith ']' then .ok ([], cursor.skip)
  else do
    let (head, cursor) ← item cursor
    let (tail, cursor) ← moreItems item (cursor.rest.length + 1) cursor
    .ok (head :: tail, cursor)

/-- One `"key": value`. -/
def member (item : ValueReader) (cursor : Cursor) : Except Nat ((String × Value) × Cursor) :=
  if !cursor.startsWith '"' then .error cursor.unexpected
  else do
    let (key, cursor) ← string cursor
    let cursor := skipBlanks cursor
    if !cursor.startsWith ':' then .error cursor.unexpected
    else
      let (value, cursor) ← item cursor.skip
      .ok ((key, value), cursor)

/-- The members of an object after those gathered so far, up to its brace. -/
def moreMembers (item : ValueReader) :
    Nat → List (String × Value) → Cursor → Except Nat (List (String × Value) × Cursor)
  | 0, _, cursor => .error cursor.unexpected
  | fuel + 1, members, cursor =>
    let cursor := skipBlanks cursor
    if cursor.startsWith '}' then .ok (members, cursor.skip)
    else if cursor.startsWith ',' then do
      let ((key, value), cursor) ← member item (skipBlanks cursor.skip)
      moreMembers item fuel (setMember key value members) cursor
    else .error cursor.unexpected

/-- An object whose brace has been consumed. -/
def objectMembers (item : ValueReader) (cursor : Cursor) :
    Except Nat (List (String × Value) × Cursor) :=
  let cursor := skipBlanks cursor
  if cursor.startsWith '}' then .ok ([], cursor.skip)
  else do
    let ((key, value), cursor) ← member item cursor
    moreMembers item (cursor.rest.length + 1) [(key, value)] cursor

/-- A value whose arrays and objects, if it is one, are read by `nested`. -/
def valueWith (nested : ValueReader) (cursor : Cursor) : Except Nat (Value × Cursor) :=
  let cursor := skipBlanks cursor
  match cursor.rest with
  | [] => .error cursor.offset
  | c :: _ =>
    match c with
    | 'n' => (word ['n', 'u', 'l', 'l'] cursor).map (.null, ·)
    | 't' => (word ['t', 'r', 'u', 'e'] cursor).map (.bool true, ·)
    | 'f' => (word ['f', 'a', 'l', 's', 'e'] cursor).map (.bool false, ·)
    | '"' => (string cursor).map fun (text, after) => (.string text, after)
    | '[' => nested cursor
    | '{' => nested cursor
    | c =>
      if c = '-' || isDigit c then (number cursor).map fun (read, after) => (.number read, after)
      else .error cursor.unexpected

/-- A value with at most the given number of arrays and objects around any part of it. -/
def valueWithin : Nat → ValueReader
  | 0 => valueWith fun cursor => .error cursor.unexpected
  | depth + 1 => valueWith fun cursor =>
    if cursor.startsWith '[' then
      (arrayItems (valueWithin depth) cursor.skip).map fun (items, after) => (.array items, after)
    else
      (objectMembers (valueWithin depth) cursor.skip).map
        fun (members, after) => (.object members, after)

def greatestDepth : Nat := 127

/-- The value a whole text denotes, or the byte count at which reading stopped. -/
def parse (text : String) : Except Nat Value := do
  let (value, after) ← valueWithin greatestDepth (Cursor.ofText text)
  let after := skipBlanks after
  if after.rest.isEmpty then .ok value else .error after.unexpected

end DependencyDiagram.Json
