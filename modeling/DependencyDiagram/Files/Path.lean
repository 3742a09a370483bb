import DependencyDiagram.Files.Tree

/-! Paths as they are written: names between slashes, from the root or from some directory. -/

namespace DependencyDiagram.Files.Path

def slash : Char := '/'

def isAbsolute (path : String) : Bool := path.toList.head? == some slash

/-- A path taken relative to a directory; an absolute path stays what it is. -/
def join (directory path : String) : String :=
  if isAbsolute path then path
  else if directory.isEmpty || directory.toList.getLast? == some slash then directory ++ path
  else directory ++ "/" ++ path

/-- What stands between slashes. A slash at the start gives an empty first part. -/
def parts (path : String) : List String :=
  (path.toList.splitOn slash).map String.ofList

/-- The absolute path of a location. -/
def ofLocation (location : Location) : String :=
  "/" ++ String.intercalate "/" location

/-- Whether a part changes nothing on the way it stands on. -/
def isIdle (part : String) : Bool := part == "" || part == "."

/-- The parts that count, with a leading dot kept, since it names a directory by itself. -/
def components (path : String) : List String :=
  match parts path with
  | [] => []
  | first :: rest =>
    (if first == "" then [] else [first]) ++ rest.filter (!isIdle ·)

/-- The path of the directory that holds what a path names, if the path has one. -/
def parent? (path : String) : Option String :=
  match (components path).reverse with
  | [] => none
  | _ :: above =>
    let start := if isAbsolute path then "/" else ""
    some (start ++ String.intercalate "/" above.reverse)

end DependencyDiagram.Files.Path
