/-!
Declared modules. A catalog lists every known module once, in a stable order, with the dependencies
as they were declared: repetitions and references to itself included.
-/

namespace DependencyDiagram

structure Declaration where
  path : String
  dependencies : List String
deriving DecidableEq, Repr

structure Catalog where
  declarations : List Declaration
deriving DecidableEq, Repr

namespace Catalog

def empty : Catalog := ⟨[]⟩

def paths (catalog : Catalog) : List String :=
  catalog.declarations.map (·.path)

def size (catalog : Catalog) : Nat := catalog.declarations.length

def isEmpty (catalog : Catalog) : Bool := catalog.declarations.isEmpty

/-- The declared dependencies of a known module. -/
def dependencies? (catalog : Catalog) (path : String) : Option (List String) :=
  (catalog.declarations.find? (·.path == path)).map (·.dependencies)

def contains (catalog : Catalog) (path : String) : Bool :=
  (catalog.dependencies? path).isSome

/-- Replaces the declaration of a path where it stands, or adds it at the end. -/
def replaceOrAppend (declaration : Declaration) : List Declaration → List Declaration
  | [] => [declaration]
  | other :: rest =>
    if other.path = declaration.path then declaration :: rest
    else other :: replaceOrAppend declaration rest

/-- Declares a module; a path that is declared again keeps its place. -/
def declare (catalog : Catalog) (path : String) (dependencies : List String) : Catalog :=
  ⟨replaceOrAppend ⟨path, dependencies⟩ catalog.declarations⟩

def ofPairs (pairs : List (String × List String)) : Catalog :=
  pairs.foldl (fun catalog (path, dependencies) => catalog.declare path dependencies) empty

/-- Replaces the declaration of a path or adds it in front of the first greater path. -/
def replaceOrInsert (declaration : Declaration) : List Declaration → List Declaration
  | [] => [declaration]
  | other :: rest =>
    if declaration.path < other.path then declaration :: other :: rest
    else if other.path = declaration.path then declaration :: rest
    else other :: replaceOrInsert declaration rest

/-- Declares a module in a catalog that is sorted by path. -/
def insert (catalog : Catalog) (path : String) (dependencies : List String) : Catalog :=
  ⟨replaceOrInsert ⟨path, dependencies⟩ catalog.declarations⟩

/-- The catalog sorted by path; of two declarations of one path the later counts. -/
def sortedOfPairs (pairs : List (String × List String)) : Catalog :=
  pairs.foldl (fun catalog (path, dependencies) => catalog.insert path dependencies) empty

end Catalog

end DependencyDiagram
