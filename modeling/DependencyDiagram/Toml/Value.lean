/-! TOML values. Tables keep their keys in order of appearance. -/

namespace DependencyDiagram.Toml

inductive Value where
  | string (text : String)
  | integer (value : Int)
  /-- Only whether a float lies within the range of a double is kept. -/
  | float (inRange : Bool)
  | boolean (flag : Bool)
  /-- A date, a time or both; its text is not kept. -/
  | moment
  | array (items : List Value)
  | table (entries : List (String × Value))
deriving Inhabited

abbrev Entries := List (String × Value)

end DependencyDiagram.Toml
