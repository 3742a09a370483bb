import DependencyDiagram.Decimal.Shortest

/-! JSON values. Integers that fit 64 bits stay exact; every other number is a double. -/

namespace DependencyDiagram.Json

inductive Number where
  | natural (value : Nat)
  | negative (magnitude : Nat)
  | real (below : Bool) (magnitude : Decimal.Binary64)
deriving DecidableEq, Repr

inductive Value where
  | null
  | bool (flag : Bool)
  | number (number : Number)
  | string (text : String)
  | array (items : List Value)
  | object (members : List (String × Value))
deriving Inhabited

/-- What sort of thing a value is, for diagnostics. -/
inductive Kind where
  | null | bool | number | string | array | object
deriving DecidableEq, Repr

def Value.kind : Value → Kind
  | .null => .null
  | .bool _ => .bool
  | .number _ => .number
  | .string _ => .string
  | .array _ => .array
  | .object _ => .object

def Kind.description : Kind → String
  | .null => "null"
  | .bool => "a boolean"
  | .number => "a number"
  | .string => "a string"
  | .array => "an array"
  | .object => "an object"

/-- Sets a member; a key that is already there keeps its place and takes the new value. -/
def setMember (key : String) (value : Value) : List (String × Value) → List (String × Value)
  | [] => [(key, value)]
  | (other, old) :: rest =>
    if other = key then (key, value) :: rest else (other, old) :: setMember key value rest

end DependencyDiagram.Json
