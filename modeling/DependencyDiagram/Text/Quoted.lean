import DependencyDiagram.Text.Unprinted

/-!
Quoted text for log lines: between double quotes, with escapes for quotes, backslashes and
characters that do not print by themselves.
-/

namespace DependencyDiagram.Text

def hexDigits (n : Nat) : List Char := Nat.toDigits 16 n

def quotedPart (c : Char) : List Char :=
  if c = '"' then ['\\', '"']
  else if c = '\\' then ['\\', '\\']
  else if c = '\n' then ['\\', 'n']
  else if c = '\r' then ['\\', 'r']
  else if c = '\t' then ['\\', 't']
  else if c = '\x00' then ['\\', '0']
  else if isUnprinted c then ['\\', 'u', '\x7b'] ++ hexDigits c.toNat ++ ['\x7d']
  else [c]

def quoted (text : String) : String :=
  String.ofList ('"' :: text.toList.flatMap quotedPart ++ ['"'])

/-- Quoted items in brackets, separated by commas. -/
def quotedList (texts : List String) : String :=
  "[" ++ String.intercalate ", " (texts.map quoted) ++ "]"

end DependencyDiagram.Text
