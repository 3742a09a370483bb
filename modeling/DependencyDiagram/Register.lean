import DependencyDiagram.Catalog
import Std.Data.HashMap

/-!
Modules as they are declared one by one: the paths in the order of their first declarations and,
beside it, a table with the dependencies of each path.
-/

namespace DependencyDiagram

structure Register where
  order : Array String
  table : Std.HashMap String (List String)

namespace Register

def empty : Register := ⟨#[], ∅⟩

def paths (register : Register) : List String := register.order.toList

def size (register : Register) : Nat := register.order.size

/-- The declared dependencies of a known module. -/
def dependencies? (register : Register) (path : String) : Option (List String) :=
  register.table[path]?

def contains (register : Register) (path : String) : Bool :=
  (register.dependencies? path).isSome

/-- Declares a module. The order only grows if the table did not have the path. -/
def declare (register : Register) (path : String) (dependencies : List String) : Register :=
  let (known, table) := register.table.containsThenInsert path dependencies
  ⟨if known then register.order else register.order.push path, table⟩

def declareAll (register : Register) (pairs : List (String × List String)) : Register :=
  pairs.foldl (fun register (path, dependencies) => register.declare path dependencies) register

def ofPairs (pairs : List (String × List String)) : Register := empty.declareAll pairs

/-- The catalog that a register stands for. -/
def catalog (register : Register) : Catalog :=
  ⟨register.paths.map fun path => ⟨path, (register.dependencies? path).getD []⟩⟩

end Register

end DependencyDiagram
