import DependencyDiagram.Package.Filter
import DependencyDiagram.Toml.Decoding
import DependencyDiagram.Toml.Document

/-!
What a `Cargo.toml` says about dependencies: the package's own ones by kind, those for single target
platforms, and those that packages inside a workspace may inherit.
-/

namespace DependencyDiagram.Package

open Toml (Value Entries)

/-- Where a dependency is to be found; one from a registry is neither a path nor inherited. -/
structure Dependency where
  path : Option String
  inherited : Bool
deriving DecidableEq, Repr

/-- Dependencies by name, in order of appearance. -/
abbrev DependencyTable := List (String × Dependency)

/-- The dependencies of one target platform or of all. -/
structure Sections where
  normal : DependencyTable
  build : DependencyTable
  dev : DependencyTable
deriving Repr

def Sections.none : Sections := ⟨[], [], []⟩

def Sections.ofKind (sections : Sections) : DependencyKind → DependencyTable
  | .normal => sections.normal
  | .build => sections.build
  | .dev => sections.dev

structure Description where
  /-- The package's name, if there is a package. -/
  name : Option String
  /-- The dependencies a workspace offers, if there is a workspace. -/
  workspace : Option DependencyTable
  sections : Sections
  targets : List (String × Sections)

/-- A dependency together with where it was declared. -/
structure Declared where
  name : String
  dependency : Dependency
  kind : DependencyKind
  forTarget : Bool

namespace Dependency

def registry : Dependency := ⟨none, false⟩

/-- A version, or a record of a path and whether the dependency is inherited. As an array the record
has exactly these two. -/
def ofValue? (value : Value) : Option Dependency :=
  match value with
  | .string _ | .moment => some registry
  | .array [path, inherited] => do
    some ⟨some (← path.string?), ← inherited.boolean?⟩
  | .table entries => do
    let path ← Toml.optionalField Value.string? entries "path"
    let inherited ← Toml.optionalField Value.boolean? entries "workspace"
    if value.isKeepable then some ⟨path, inherited.getD false⟩ else none
  | _ => none

end Dependency

def DependencyTable.ofValue? : Value → Option DependencyTable
  | .table entries =>
    entries.mapM fun (name, value) => (Dependency.ofValue? value).map (name, ·)
  | .moment => some []
  | _ => none

/-- The keys of the sections, in the order of a record's fields. -/
def sectionKeys : List String := ["dependencies", "dev-dependencies", "build-dependencies"]

def Sections.ofEntries? (entries : Entries) : Option Sections := do
  let normal ← Toml.optionalField DependencyTable.ofValue? entries "dependencies"
  let dev ← Toml.optionalField DependencyTable.ofValue? entries "dev-dependencies"
  let build ← Toml.optionalField DependencyTable.ofValue? entries "build-dependencies"
  some ⟨normal.getD [], build.getD [], dev.getD []⟩

def Sections.ofValue? : Value → Option Sections
  | .table entries =>
    if Toml.othersIgnorable sectionKeys entries then Sections.ofEntries? entries else failure
  | .moment => some .none
  | .array (normal :: dev :: build :: _) => do
    some ⟨← DependencyTable.ofValue? normal, ← DependencyTable.ofValue? build,
      ← DependencyTable.ofValue? dev⟩
  | _ => failure

def targetsOfValue? : Value → Option (List (String × Sections))
  | .table entries =>
    entries.mapM fun (name, value) => (Sections.ofValue? value).map (name, ·)
  | _ => none

def packageName? : Value → Option String
  | .table entries =>
    if Toml.othersIgnorable ["name"] entries then (entries.lookup "name").bind Value.string?
    else none
  | .array (name :: _) => name.string?
  | _ => none

def workspaceOfValue? : Value → Option DependencyTable
  | .table entries => do
    let dependencies ← Toml.optionalField DependencyTable.ofValue? entries "dependencies"
    if Toml.othersIgnorable ["dependencies"] entries then some (dependencies.getD []) else none
  | .moment => some []
  | .array (dependencies :: _) => DependencyTable.ofValue? dependencies
  | _ => none

namespace Description

def knownKeys : List String := ["package", "workspace", "target"] ++ sectionKeys

def ofEntries? (entries : Entries) : Option Description := do
  let name ← Toml.optionalField packageName? entries "package"
  let workspace ← Toml.optionalField workspaceOfValue? entries "workspace"
  let sections ← Sections.ofEntries? entries
  let targets ← Toml.optionalField targetsOfValue? entries "target"
  if Toml.othersIgnorable knownKeys entries then
    some ⟨name, workspace, sections, targets.getD []⟩
  else none

def parse? (text : String) : Option Description := (Toml.parse? text).bind ofEntries?

def declaredIn (kind : DependencyKind) (forTarget : Bool) (sections : Sections) : List Declared :=
  (sections.ofKind kind).map fun (name, dependency) => ⟨name, dependency, kind, forTarget⟩

/-- Every declared dependency: normal, then build, then dev ones, each kind followed by those for
single targets. -/
def declared (description : Description) : List Declared :=
  [DependencyKind.normal, .build, .dev].flatMap fun kind =>
    declaredIn kind false description.sections ++
      description.targets.flatMap fun (_, sections) => declaredIn kind true sections

end Description

end DependencyDiagram.Package
