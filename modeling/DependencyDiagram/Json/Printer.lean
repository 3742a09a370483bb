import DependencyDiagram.Json.Value

/-!
Compact JSON text. Strings escape quotes, backslashes and control characters and nothing else;
doubles have the fewest digits that read back, positional between `1e-5` and `1e16`.
-/

namespace DependencyDiagram.Json

def hexDigit (n : Nat) : Char :=
  if n < 10 then Char.ofNat ('0'.toNat + n) else Char.ofNat ('a'.toNat + (n - 10))

def escape (c : Char) : List Char :=
  if c = '"' then ['\\', '"']
  else if c = '\\' then ['\\', '\\']
  else if c = '\x08' then ['\\', 'b']
  else if c = '\x0c' then ['\\', 'f']
  else if c = '\n' then ['\\', 'n']
  else if c = '\r' then ['\\', 'r']
  else if c = '\t' then ['\\', 't']
  else if c.toNat < 0x20 then
    ['\\', 'u', '0', '0', hexDigit (c.toNat / 16), hexDigit (c.toNat % 16)]
  else [c]

def quoted (text : String) : String :=
  String.ofList ('"' :: text.toList.flatMap escape ++ ['"'])

/-- The decimal point stands after the leading digit when the exponent is written out. -/
def exponential (digits : List Char) (leading : Int) : String :=
  let exponent :=
    if leading < 0 then "e-" ++ toString (-leading).toNat else "e+" ++ toString leading.toNat
  match digits with
  | [] => "0"
  | [digit] => digit.toString ++ exponent
  | digit :: rest => digit.toString ++ "." ++ String.ofList rest ++ exponent

/-- Positional notation always shows a fractional digit. -/
def positional (digits : List Char) (exponent : Int) : String :=
  if 0 ≤ exponent then
    String.ofList digits ++ String.ofList (List.replicate exponent.toNat '0') ++ ".0"
  else
    let places := (-exponent).toNat
    if places < digits.length then
      String.ofList (digits.take (digits.length - places)) ++ "." ++
        String.ofList (digits.drop (digits.length - places))
    else
      "0." ++ String.ofList (List.replicate (places - digits.length) '0') ++ String.ofList digits

def magnitudeText (magnitude : Decimal.Binary64) : String :=
  if magnitude.significand = 0 then "0.0"
  else
    let decimal := magnitude.shortest
    let digits := Nat.toDigits 10 decimal.digits
    let leading := decimal.exponent + (digits.length : Int) - 1
    if -5 ≤ leading ∧ leading < 16 then positional digits decimal.exponent
    else exponential digits leading

def Number.text : Number → String
  | .natural value => toString value
  | .negative magnitude => "-" ++ toString magnitude
  | .real below magnitude => (if below then "-" else "") ++ magnitudeText magnitude

def boolText (flag : Bool) : String := if flag then "true" else "false"

mutual

def Value.text : Value → String
  | .null => "null"
  | .bool flag => boolText flag
  | .number number => number.text
  | .string text => quoted text
  | .array items => "[" ++ String.intercalate "," (itemTexts items) ++ "]"
  | .object members => "\x7b" ++ String.intercalate "," (memberTexts members) ++ "\x7d"

def itemTexts : List Value → List String
  | [] => []
  | item :: rest => item.text :: itemTexts rest

def memberTexts : List (String × Value) → List String
  | [] => []
  | (key, value) :: rest => (quoted key ++ ":" ++ value.text) :: memberTexts rest

end

end DependencyDiagram.Json
