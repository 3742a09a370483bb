import DependencyDiagram.Catalog
import DependencyDiagram.ModulePath
import DependencyDiagram.Toml.Decoding
import DependencyDiagram.Toml.Document

/-!
TOML manifests of module declarations: a table `modules` from module paths to lists of them. Without
the table there are no modules.
-/

namespace DependencyDiagram.Manifest

def stringList? : Toml.Value → Option (List String)
  | .array items => items.mapM Toml.Value.string?
  | _ => none

def modules? : Toml.Value → Option (List (String × List String))
  | .table entries => entries.mapM fun (path, value) => (stringList? value).map (path, ·)
  | _ => none

/-- The declarations in a manifest's table, in the order in which they are written. -/
def declarations? (entries : Toml.Entries) : Option (List (String × List String)) := do
  let modules ← Toml.optionalField modules? entries "modules"
  if Toml.othersIgnorable ["modules"] entries then some (modules.getD []) else none

/-- Every path and dependency has to be valid; the first one in the order of the catalog that is not
is reported. -/
def validate (catalog : Catalog) : Except Failure Unit :=
  catalog.declarations.forM fun declaration =>
    (declaration.path :: declaration.dependencies).forM ModulePath.validate

/-- The catalog of the declarations, sorted by path. -/
def catalogOf (declarations : List (String × List String)) : Except Failure Catalog := do
  let catalog := Catalog.sortedOfPairs declarations
  validate catalog
  pure catalog

/-- Reads a manifest; `name` stands for it in diagnostics. -/
def parse (text name : String) : Except Failure Catalog :=
  match (Toml.parse? text).bind declarations? with
  | none => .error (.malformedManifest name)
  | some declarations => catalogOf declarations

end DependencyDiagram.Manifest
