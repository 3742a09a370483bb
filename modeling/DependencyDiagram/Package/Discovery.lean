import DependencyDiagram.Catalog
import DependencyDiagram.Files.System
import DependencyDiagram.Log.Recorded
import DependencyDiagram.Package.Description

/-!
Cargo packages as modules. Every `Cargo.toml` with a package below a root directory is a module,
whose path has the names of the directories on the way to it; a package in the root itself is named
after the package. Edges are path dependencies between discovered packages, declared directly or
inherited from the nearest workspace at or above the package.
-/

namespace DependencyDiagram.Package

open Files (Location System Entries)
open Log (Recorded)

def manifestName : String := "Cargo.toml"

/-- Directories that are never entered. -/
def skippedNames : List String := ["target", ".git", "node_modules"]

/-- The manifests below a directory at `here`. -/
def manifestsBelow (here : Location) : Entries → List Location
  | .nil => []
  | .file name _ rest =>
    if name = manifestName then (here ++ [name]) :: manifestsBelow here rest
    else manifestsBelow here rest
  | .directory name inside rest =>
    if name ∈ skippedNames then manifestsBelow here rest
    else manifestsBelow (here ++ [name]) inside ++ manifestsBelow here rest

/-- Whether a location comes no later than another when names are compared one by one. -/
def notAfter : Location → Location → Bool
  | [], _ => true
  | _ :: _, [] => false
  | name :: rest, other :: others =>
    if name = other then notAfter rest others else name < other

/-- All manifests at or below a root, sorted by location. A root with a skipped name has none. -/
def findManifests (system : System) (root : Location) : List Location :=
  if root.getLast?.any (· ∈ skippedNames) then []
  else
    match system.entryAt? root with
    | none => []
    | some (.file _) => if root.getLast? = some manifestName then [root] else []
    | some (.directory inside) => (manifestsBelow root inside).mergeSort notAfter

def readManifest (system : System) (location : Location) : Except Failure Description :=
  match system.readAt location with
  | .error fault => .error (.unreadableFile (Files.Path.ofLocation location) fault)
  | .ok text =>
    match Description.parse? text with
    | none => .error (.malformedManifest (Files.Path.ofLocation location))
    | some description => .ok description

/-- The module path of a package: the names of its directory below the root, or its own name if it
lies in the root. A manifest outside the root is no module. -/
def modulePath? (root directory : Location) (description : Description) : Option String := do
  let name ← description.name
  if root.isPrefixOf directory then
    let below := directory.drop root.length
    some (String.join ((if below.isEmpty then [name] else below).map (":" ++ ·)))
  else none

structure Discovered where
  directory : Location
  modulePath : String
  description : Description

/-- A workspace and the path dependencies it offers, by name. -/
structure Workspace where
  directory : Location
  offered : List (String × String)

/-- What the manifests under a root declare. -/
structure Survey where
  packages : List Discovered
  workspaces : List Workspace

def offeredPaths (table : DependencyTable) : List (String × String) :=
  table.filterMap fun (name, dependency) => dependency.path.map (name, ·)

/-- Reads the manifests one by one; the first bad one ends the survey. -/
def survey (system : System) (root : Location) : List Location → Recorded Survey
  | [] => pure ⟨[], []⟩
  | location :: rest => do
    let description ← Recorded.ofExcept (readManifest system location)
    let directory := location.dropLast
    let workspaces := match description.workspace with
      | none => []
      | some table => [⟨directory, offeredPaths table⟩]
    match modulePath? root directory description with
    | none =>
      let later ← survey system root rest
      pure ⟨later.packages, workspaces ++ later.workspaces⟩
    | some path =>
      Recorded.note (.discoveredPackage path (Files.Path.ofLocation location))
      let later ← survey system root rest
      pure ⟨⟨directory, path, description⟩ :: later.packages, workspaces ++ later.workspaces⟩

namespace Survey

/-- The module path of the package in a directory. -/
def packageAt? (survey : Survey) (directory : Location) : Option String :=
  (survey.packages.find? (·.directory == directory)).map (·.modulePath)

def workspaceAt? (survey : Survey) (directory : Location) : Option Workspace :=
  survey.workspaces.find? (·.directory == directory)

/-- The directories from one up to the root, nearest first. -/
def upTo (root : Location) (directory : Location) : List Location :=
  ((List.range (directory.length + 1 - root.length)).map
    fun steps => directory.take (directory.length - steps))

/-- The workspace that encloses a package, if one does below the root or at it. -/
def enclosingWorkspace? (survey : Survey) (root directory : Location) : Option Workspace :=
  (upTo root directory).findSome? survey.workspaceAt?

end Survey

/-- A path with the directory it is relative to. -/
structure RelativePath where
  base : Location
  path : String

def RelativePath.text (relative : RelativePath) : String :=
  Files.Path.join (Files.Path.ofLocation relative.base) relative.path

/-- Where a declared dependency lies, if it is a path dependency. -/
def locationOf? (workspace : Option Workspace) (package : Discovered) (declared : Declared) :
    Option RelativePath :=
  if declared.dependency.inherited then do
    let workspace ← workspace
    let path ← workspace.offered.lookup declared.name
    some ⟨workspace.directory, path⟩
  else declared.dependency.path.map fun path => ⟨package.directory, path⟩

/-- The edges of a package: the modules its admitted path dependencies lead to, in order. A path
that leads nowhere is noted and left out. -/
def edges (system : System) (survey : Survey) (workspace : Option Workspace)
    (package : Discovered) : List Declared → Recorded (List String)
  | [] => pure []
  | declared :: rest =>
    match locationOf? workspace package declared with
    | none => edges system survey workspace package rest
    | some relative =>
      match system.locateFrom relative.base relative.path with
      | .error _ => do
        Recorded.note (.missingDependency package.modulePath declared.name relative.text)
        edges system survey workspace package rest
      | .ok location => do
        let later ← edges system survey workspace package rest
        pure ((survey.packageAt? location).toList ++ later)

/-- The dependencies of a package that a filter admits. -/
def admitted (filter : DependencyFilter) (package : Discovered) : List Declared :=
  package.description.declared.filter
    fun declared => filter.admits declared.kind declared.forTarget

/-- Every package with its edges. -/
def allEdges (system : System) (root : Location) (filter : DependencyFilter) (survey : Survey) :
    List Discovered → Recorded (List (String × List String))
  | [] => pure []
  | package :: rest => do
    let workspace := survey.enclosingWorkspace? root package.directory
    let found ← edges system survey workspace package (admitted filter package)
    let later ← allEdges system root filter survey rest
    pure ((package.modulePath, found) :: later)

/-- The packages below a root as a catalog sorted by module path. Of two packages with one module
path the later one counts. -/
def discoverAt (system : System) (root : Location) (filter : DependencyFilter) :
    Recorded Catalog := do
  let survey ← survey system root (findManifests system root)
  let pairs ← allEdges system root filter survey survey.packages
  pure (Catalog.sortedOfPairs pairs)

/-- Discovers the packages below the directory a path names. -/
def discover (system : System) (root : String) (filter : DependencyFilter) : Recorded Catalog := do
  match system.locate root with
  | .error fault => Recorded.fail (.unreadableFile root fault)
  | .ok location => discoverAt system location filter

end DependencyDiagram.Package
