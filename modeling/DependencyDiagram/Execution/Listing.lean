import DependencyDiagram.Configuration
import DependencyDiagram.Execution.Run

/-! Listing modules, each with its dependencies as they are declared. -/

namespace DependencyDiagram.Execution

def listedModule (catalog : Catalog) (path : String) : String :=
  let dependencies := (catalog.dependencies? path).getD []
  String.join ((path ++ "\n") :: dependencies.map fun dependency =>
    "  └── " ++ dependency ++ "\n")

def listModules (system : Files.System) (listing : Listing) : Run :=
  match compileFilter listing.filter with
  | .error failure => Run.refused system [] (.invalidFilter failure)
  | .ok pattern =>
    let source := listing.source.load system
    let notices := logged source.events
    match source.outcome with
    | .error failure => Run.refused system notices (.sourceNotRead failure)
    | .ok catalog =>
      let modules := Glob.select pattern catalog.paths
      if modules.isEmpty then
        { system, stdout := "", notices := notices ++ [.status .nothingToList], result := .ok () }
      else
        { system
          stdout := String.join (modules.map (listedModule catalog))
          notices := notices ++ [.status (.listed modules.length)]
          result := .ok () }

end DependencyDiagram.Execution
