import DependencyDiagram.Toml.Value

/-!
Tables under construction. A table remembers how it came to be: as a way point of a header, as a way
point of a dotted key, or by a header of its own. A table with a header is complete, one made by
dotted keys may only grow by further dotted keys, and a value is closed.
-/

namespace DependencyDiagram.Toml

inductive Origin where
  | implied
  | dotted
  | declared
deriving DecidableEq, Repr

inductive Node where
  | value (value : Value)
  | table (origin : Origin) (entries : List (String × Node))
  | tables (items : List (List (String × Node)))
deriving Inhabited

abbrev Nodes := List (String × Node)

namespace Nodes

def find? (nodes : Nodes) (key : String) : Option Node := nodes.lookup key

/-- Replaces the node under a key, or adds it at the end. -/
def set (key : String) (node : Node) : Nodes → Nodes
  | [] => [(key, node)]
  | (other, old) :: rest =>
    if other = key then (key, node) :: rest else (other, old) :: set key node rest

def erase (nodes : Nodes) (key : String) : Nodes := nodes.filter (·.1 != key)

/-- Changes the table at the end of a path. Missing tables on the way are made with the origin
`made`; a dotted key may not pass a declared table, and of an array of tables the last one is
meant. -/
def descend (made : Origin) (change : Origin → Nodes → Option Nodes) :
    List String → Origin → Nodes → Option Nodes
  | [], origin, nodes => change origin nodes
  | key :: path, _, nodes =>
    match nodes.find? key with
    | none => (descend made change path made []).map fun below => nodes.set key (.table made below)
    | some (.value _) => none
    | some (.table origin below) =>
      if made = .dotted && origin = .declared then none
      else (descend made change path origin below).map
        fun below => nodes.set key (.table origin below)
    | some (.tables items) =>
      match items.reverse with
      | [] => none
      | last :: earlier =>
        (descend made change path .declared last).map
          fun last => nodes.set key (.tables (last :: earlier).reverse)

/-- The table at the end of a path; one that is missing has no entries. -/
def tableAt? : List String → Nodes → Option Nodes
  | [], nodes => some nodes
  | key :: path, nodes =>
    match nodes.find? key with
    | none => some []
    | some (.value _) => none
    | some (.table _ below) => tableAt? path below
    | some (.tables items) => items.getLast?.bind (tableAt? path)

/-- The keys before the last one, and the last one. -/
def splitPath : List String → Option (List String × String)
  | [] => none
  | [key] => some ([], key)
  | key :: rest => (splitPath rest).map fun (path, last) => (key :: path, last)

/-- Adds a value under a key. The table that takes it must come from dotted keys exactly when the
key is dotted. -/
def assign (path : List String) (value : Value) (nodes : Nodes) : Option Nodes := do
  let (path, key) ← splitPath path
  let add (origin : Origin) (table : Nodes) : Option Nodes :=
    if (origin == .dotted) != !path.isEmpty || (table.find? key).isSome then none
    else some (table ++ [(key, .value value)])
  descend .dotted add path .declared nodes

end Nodes

mutual

def Node.toValue : Node → Value
  | .value value => value
  | .table _ entries => .table (entriesOf entries)
  | .tables items => .array (tablesOf items)

def entriesOf : List (String × Node) → List (String × Value)
  | [] => []
  | (key, node) :: rest => (key, node.toValue) :: entriesOf rest

def tablesOf : List (List (String × Node)) → List Value
  | [] => []
  | entries :: rest => .table (entriesOf entries) :: tablesOf rest

end

end DependencyDiagram.Toml
