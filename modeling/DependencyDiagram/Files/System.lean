import DependencyDiagram.Files.Fault
import DependencyDiagram.Files.Path

/-!
Plain file systems: one tree and a working directory, where names are texts, nothing is a link,
everything can be read, and only the run itself changes anything. Names are resolved part by part,
so every directory on the way has to exist, also one that `..` leaves again. Reading and creating
directories fail for reasons in the tree only; that a device may fail when a text is sent to it is
said apart.
-/

namespace DependencyDiagram.Files

structure System where
  tree : Entries
  workingDirectory : Location

namespace System

def entryAt? (system : System) (location : Location) : Option Entry :=
  system.tree.entryAt? location

def isDirectoryAt (system : System) (location : Location) : Bool :=
  match system.entryAt? location with
  | some (.directory _) => true
  | _ => false

/-- The longest name an entry can have, in bytes. -/
def longestName : Nat := 255

/-- Goes one part further from a location that exists. -/
def advance (system : System) (here : Location) (part : String) : Except Fault Location :=
  if !system.isDirectoryAt here then .error .notDirectory
  else if Path.isIdle part then .ok here
  else if part == ".." then .ok here.dropLast
  else if longestName < part.utf8ByteSize then .error .nameTooLong
  else if (system.entryAt? (here ++ [part])).isSome then .ok (here ++ [part])
  else .error .notFound

def hasNul (path : String) : Bool := path.toList.any (· == '\x00')

/-- Where resolution of a path starts. -/
def origin (start : Location) (path : String) : Location :=
  if Path.isAbsolute path then [] else start

/-- The location a path leads to from a directory. -/
def locateFrom (system : System) (start : Location) (path : String) : Except Fault Location :=
  if hasNul path then .error .nulInName
  else (Path.parts path).foldlM system.advance (origin start path)

/-- The location of a path of its own, which may not be empty. -/
def locate (system : System) (path : String) : Except Fault Location :=
  if path.isEmpty then .error .notFound
  else system.locateFrom system.workingDirectory path

def isDirectory (system : System) (path : String) : Bool :=
  match system.locate path with
  | .ok location => system.isDirectoryAt location
  | .error _ => false

/-- The text of the file at a location. -/
def readAt (system : System) (location : Location) : Except Fault String :=
  match system.entryAt? location with
  | none => .error .notFound
  | some (.directory _) => .error .isDirectory
  | some (.file content) =>
    match String.fromUTF8? content with
    | some text => .ok text
    | none => .error .notText

def read (system : System) (path : String) : Except Fault String := do
  system.readAt (← system.locate path)

/-- The directory in which a path ends and the name it ends with; parts that are idle behind the
name are dropped when a directory is meant. -/
def locateLast (system : System) (path : String) : Except Fault (Location × String) :=
  if hasNul path then .error .nulInName
  else
    match (Path.parts path).reverse with
    | [] => .error .notFound
    | last :: above => do
      let here ← above.reverse.foldlM system.advance (origin system.workingDirectory path)
      if !system.isDirectoryAt here then .error .notDirectory
      else if longestName < last.utf8ByteSize then .error .nameTooLong
      else .ok (here, last)

/-- The location of a file that is to be written, which need not be there yet. -/
def placeFile (system : System) (path : String) : Except Fault Location := do
  if path.isEmpty then .error .notFound
  let (here, name) ← system.locateLast path
  if Path.isIdle name || name == ".." then .error .isDirectory
  match system.entryAt? (here ++ [name]) with
  | some (.directory _) => .error .isDirectory
  | _ => .ok (here ++ [name])

/-- Puts bytes in place of what a file holds; it is created if it is missing. -/
def writeBytes (system : System) (path : String) (bytes : ByteArray) : Except Fault System := do
  let location ← system.placeFile path
  .ok { system with tree := system.tree.putAt (.file bytes) location }

/-- Writes a text into a file, which is created if it is missing. -/
def write (system : System) (path text : String) : Except Fault System :=
  system.writeBytes path text.toUTF8

/-- A path without the slashes at its end. -/
def withoutFinalSlashes (path : String) : String :=
  String.ofList (path.toList.reverse.dropWhile (· == Path.slash)).reverse

/-- Creates one directory, whose name must be new. -/
def createDirectory (system : System) (path : String) : Except Fault System := do
  if path.isEmpty then .error .notFound
  let path := withoutFinalSlashes path
  if path.isEmpty then .error .exists
  let (here, name) ← system.locateLast path
  if Path.isIdle name || name == ".." then .error .exists
  if (system.entryAt? (here ++ [name])).isSome then .error .exists
  .ok { system with tree := system.tree.putAt (.directory .nil) (here ++ [name]) }

/-- Creates a directory whose parent is there, unless it exists already. -/
def ensureDirectory (system : System) (path : String) : System × Except Fault Unit :=
  match system.createDirectory path with
  | .ok created => (created, .ok ())
  | .error fault => (system, if system.isDirectory path then .ok () else .error fault)

/-- Creates a directory with all directories above it that are missing. The number of parts of the
path bounds the number of directories above it. -/
def createDirectoriesWithin : Nat → System → String → System × Except Fault Unit
  | 0, system, path => system.ensureDirectory path
  | fuel + 1, system, path =>
    if path.isEmpty then (system, .ok ())
    else
      match system.createDirectory path, Path.parent? path with
      | .error .notFound, some above =>
        match createDirectoriesWithin fuel system above with
        | (system, .ok ()) => system.ensureDirectory path
        | (system, .error fault) => (system, .error fault)
      | _, _ => system.ensureDirectory path

/-- Creates a directory with all that are missing above it. What has been created before a fault
stays. -/
def createDirectories (system : System) (path : String) : System × Except Fault Unit :=
  createDirectoriesWithin (Path.parts path).length system path

end System

end DependencyDiagram.Files
