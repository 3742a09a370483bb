/-!
Directory trees. The entries of a directory are files and directories by name; a location is the
list of names that leads from the root to an entry.
-/

namespace DependencyDiagram.Files

abbrev Location := List String

inductive Entries where
  | nil
  | file (name : String) (content : ByteArray) (rest : Entries)
  | directory (name : String) (inside rest : Entries)
deriving Inhabited

inductive Entry where
  | file (content : ByteArray)
  | directory (inside : Entries)

def Entry.isDirectory : Entry → Bool
  | .file _ => false
  | .directory _ => true

namespace Entries

def find? (name : String) : Entries → Option Entry
  | .nil => none
  | .file other content rest => if other = name then some (.file content) else rest.find? name
  | .directory other inside rest =>
    if other = name then some (.directory inside) else rest.find? name

/-- The entry at a location below a directory. -/
def entryAt? : Location → Entries → Option Entry
  | [], entries => some (.directory entries)
  | name :: rest, entries =>
    match entries.find? name with
    | some (.directory inside) => inside.entryAt? rest
    | some (.file content) => if rest.isEmpty then some (.file content) else none
    | none => none

/-- Replaces what has a name, or adds it at the end. -/
def put (name : String) (entry : Entry) : Entries → Entries
  | .nil =>
    match entry with
    | .file content => .file name content .nil
    | .directory inside => .directory name inside .nil
  | .file other content rest =>
    if other = name then
      match entry with
      | .file content => .file name content rest
      | .directory inside => .directory name inside rest
    else .file other content (rest.put name entry)
  | .directory other inside rest =>
    if other = name then
      match entry with
      | .file content => .file name content rest
      | .directory inside => .directory name inside rest
    else .directory other inside (rest.put name entry)

/-- Puts an entry at a location. Where a directory on the way is missing nothing changes. -/
def putAt (entry : Entry) : Location → Entries → Entries
  | [], entries => entries
  | [name], entries => entries.put name entry
  | name :: rest, entries =>
    match entries.find? name with
    | some (.directory inside) => entries.put name (.directory (inside.putAt entry rest))
    | _ => entries

/-- All files with their locations below a directory at `here`. -/
def files (here : Location) : Entries → List (Location × ByteArray)
  | .nil => []
  | .file name content rest => (here ++ [name], content) :: rest.files here
  | .directory name inside rest => inside.files (here ++ [name]) ++ rest.files here

/-- All directories with their locations below a directory at `here`, outer ones first. -/
def directories (here : Location) : Entries → List Location
  | .nil => []
  | .file _ _ rest => rest.directories here
  | .directory name inside rest =>
    (here ++ [name]) :: inside.directories (here ++ [name]) ++ rest.directories here

/-- The content of the file at a location. -/
def fileAt? (entries : Entries) (location : Location) : Option ByteArray :=
  match entries.entryAt? location with
  | some (.file content) => some content
  | _ => none

/-- The files of a tree that another one does not have, or has with another content. -/
def changedFiles (before after : Entries) : List (Location × ByteArray) :=
  (after.files []).filter fun (location, content) =>
    (before.fileAt? location).map (·.data) != some content.data

/-- The directories of a tree that another one does not have. -/
def newDirectories (before after : Entries) : List Location :=
  (after.directories []).filter fun location => (before.entryAt? location).isNone

end Entries

end DependencyDiagram.Files
