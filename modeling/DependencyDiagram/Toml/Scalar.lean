import DependencyDiagram.Decimal.Binary64
import DependencyDiagram.Toml.Scanner
import DependencyDiagram.Toml.Value

/-!
TOML values that are single words: booleans, integers, floats, dates and times. A word is
recognised as a whole, so each rule below is a decision on a list of characters.
-/

namespace DependencyDiagram.Toml.Scalar

def isDigit (c : Char) : Bool := '0' ≤ c && c ≤ '9'

def digitValue (c : Char) : Nat := c.toNat - '0'.toNat

/-- The digits of a number without the underscores, which may stand between two digits only. -/
def withoutUnderscores (isDigit : Char → Bool) : List Char → Option (List Char)
  | [] => none
  | [c] => if isDigit c then some [c] else none
  | c :: '_' :: rest => if isDigit c then (withoutUnderscores isDigit rest).map (c :: ·) else none
  | c :: rest => if isDigit c then (withoutUnderscores isDigit rest).map (c :: ·) else none

def dropSign : List Char → List Char
  | [] => []
  | c :: rest => if c = '+' || c = '-' then rest else c :: rest

/-- Decimal digits without a needless leading zero. -/
def decimalDigits (word : List Char) : Option (List Char) := do
  let digits ← withoutUnderscores isDigit word
  match digits with
  | '0' :: _ :: _ => none
  | digits => some digits

def ofDigits (base : Nat) (digits : List Nat) : Nat :=
  digits.foldl (fun value digit => value * base + digit) 0

def baseDigit? (base : Nat) (c : Char) : Option Nat :=
  let value? :=
    if isDigit c then some (digitValue c)
    else if 'a' ≤ c && c ≤ 'f' then some (c.toNat - 'a'.toNat + 10)
    else if 'A' ≤ c && c ≤ 'F' then some (c.toNat - 'A'.toNat + 10)
    else none
  value?.bind fun value => if value < base then some value else none

/-- An integer in another base, after the mark of the base. -/
def basedInteger? (base : Nat) (word : List Char) : Option Value := do
  let digits ← withoutUnderscores (fun c => (baseDigit? base c).isSome) word
  some (.integer (ofDigits base (digits.filterMap (baseDigit? base))))

def integer? (word : List Char) : Option Value :=
  match word with
  | '0' :: 'x' :: digits => basedInteger? 16 digits
  | '0' :: 'o' :: digits => basedInteger? 8 digits
  | '0' :: 'b' :: digits => basedInteger? 2 digits
  | word => do
    let digits ← decimalDigits (dropSign word)
    let magnitude : Int := ofDigits 10 (digits.map digitValue)
    some (.integer (if word.head? == some '-' then -magnitude else magnitude))

/-- Whether a decimal rounds to a finite double. -/
def inRange (digits : List Char) (exponent : Int) : Bool :=
  let significant := digits.dropWhile (· == '0')
  let places : Int := (significant.length : Int) + exponent
  if significant.isEmpty || places < 300 then true
  else if 320 < places then false
  else
    let value := ofDigits 10 (significant.map digitValue)
    let ratio : Decimal.Binary64.Ratio :=
      if exponent < 0 then ⟨value, Nat.pow 10 (-exponent).toNat⟩
      else ⟨value * Nat.pow 10 exponent.toNat, 1⟩
    (Decimal.Binary64.nearest? ratio).isSome

/-- What stands before and after the first character of a kind. -/
def splitAt (test : Char → Bool) (word : List Char) : List Char × Option (List Char) :=
  match word.dropWhile (!test ·) with
  | [] => (word, none)
  | _ :: after => (word.takeWhile (!test ·), some after)

/-- A float has a fraction, an exponent or both. -/
def float? (word : List Char) : Option Value := do
  let unsigned := dropSign word
  if unsigned == ['i', 'n', 'f'] || unsigned == ['n', 'a', 'n'] then return .float true
  let (mantissa, exponent?) := splitAt (fun c => c == 'e' || c == 'E') unsigned
  let (whole, fraction?) := splitAt (· == '.') mantissa
  if exponent?.isNone && fraction?.isNone then failure
  let wholeDigits ← decimalDigits whole
  let fractionDigits ← match fraction? with
    | none => some []
    | some fraction => withoutUnderscores isDigit fraction
  let exponent : Int ← match exponent? with
    | none => some 0
    | some written => do
      let digits ← withoutUnderscores isDigit (dropSign written)
      let magnitude : Int := ofDigits 10 (digits.map digitValue)
      some (if written.head? == some '-' then -magnitude else magnitude)
  return .float (inRange (wholeDigits ++ fractionDigits) (exponent - fractionDigits.length))

/-! ### Dates and times -/

/-- A number of exactly so many digits, with what follows it. -/
def fixedNumber (count : Nat) (word : List Char) : Option (Nat × List Char) :=
  let digits := word.take count
  if digits.length = count && digits.all isDigit then
    some (ofDigits 10 (digits.map digitValue), word.drop count)
  else none

def after (c : Char) : List Char → Option (List Char)
  | [] => none
  | head :: rest => if head = c then some rest else none

def isLeapYear (year : Nat) : Bool :=
  year % 4 == 0 && (year % 100 != 0 || year % 400 == 0)

def daysIn (year month : Nat) : Nat :=
  if month = 2 then (if isLeapYear year then 29 else 28)
  else if month = 4 || month = 6 || month = 9 || month = 11 then 30
  else 31

/-- What follows a date. -/
def afterDate? (word : List Char) : Option (List Char) := do
  let (year, word) ← fixedNumber 4 word
  let (month, word) ← fixedNumber 2 (← after '-' word)
  let (day, word) ← fixedNumber 2 (← after '-' word)
  if 1 ≤ month && month ≤ 12 && 1 ≤ day && day ≤ daysIn year month then return word
  else failure

/-- What follows the hour and minute of a time or an offset. -/
def afterClock? (word : List Char) : Option (List Char) := do
  let (hour, word) ← fixedNumber 2 word
  let (minute, word) ← fixedNumber 2 (← after ':' word)
  if hour ≤ 23 && minute ≤ 59 then return word else failure

/-- What follows the seconds of a time; they may be missing, and may be 60 for a leap second. -/
def afterSeconds? (word : List Char) : Option (List Char) :=
  match after ':' word with
  | none => some word
  | some word => do
    let (second, word) ← fixedNumber 2 word
    if 60 < second then failure
    match after '.' word with
    | none => return word
    | some word =>
      let digits := word.takeWhile isDigit
      if digits.isEmpty then failure
      return word.drop digits.length

def afterTime? (word : List Char) : Option (List Char) := do
  afterSeconds? (← afterClock? word)

/-- The offset of a time from universal time. -/
def isOffset : List Char → Bool
  | [] => true
  | [c] => c == 'Z' || c == 'z'
  | c :: rest => (c == '+' || c == '-') && afterClock? rest == some []

/-- A date alone, a time alone, or a date and a time with or without an offset. -/
def moment? (word : List Char) : Option Value :=
  match afterDate? word with
  | some [] => some .moment
  | some (mark :: time) =>
    if mark == 'T' || mark == 't' || mark == ' ' then do
      let rest ← afterTime? time
      if isOffset rest then some .moment else none
    else none
  | none => if afterTime? word == some [] then some .moment else none

def boolean? (word : List Char) : Option Value :=
  if word == ['t', 'r', 'u', 'e'] then some (.boolean true)
  else if word == ['f', 'a', 'l', 's', 'e'] then some (.boolean false)
  else none

/-- The value a word denotes. -/
def ofWord? (word : List Char) : Option Value :=
  boolean? word <|> integer? word <|> float? word <|> moment? word

def isWordCharacter (c : Char) : Bool :=
  c.isAlphanum || c == '_' || c == '+' || c == '-' || c == '.' || c == ':'

/-- A blank between a date and a time belongs to the word. -/
def readWord : Reader (List Char) := do
  let word ← Reader.takeWhile isWordCharacter
  match ← get with
  | ' ' :: c :: _ =>
    if afterDate? word == some [] && isDigit c then
      Reader.skip 1
      return word ++ ' ' :: (← Reader.takeWhile isWordCharacter)
    else return word
  | _ => return word

def read : Reader Value := do
  match ofWord? (← readWord) with
  | some value => return value
  | none => failure

end DependencyDiagram.Toml.Scalar
