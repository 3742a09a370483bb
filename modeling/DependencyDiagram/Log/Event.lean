import DependencyDiagram.Diagram.Format
import DependencyDiagram.Module
import DependencyDiagram.Text.Quoted

/-!
What is worth a log line. An event is the fact itself; its level, the part of the program it belongs
to and its wording follow from it.
-/

namespace DependencyDiagram.Log

inductive Level where
  | error | warn | info | debug | trace
deriving DecidableEq, Repr

inductive Event where
  | cachedDependencies (module : String)
  | foundDependencies (module : String) (dependencies : List String)
  | cachedModule (module : String)
  | cutCycle (edge : CycleBreak)
  | ignoredSection (key : String)
  | discoveredPackage (module : String) (manifest : String)
  | missingDependency (module : String) (dependency : String) (path : String)
  | rendered (module : String) (format : Diagram.Format) (bytes : Nat)
  | wroteDiagram (module : String) (path : String)
deriving DecidableEq, Repr

namespace Event

def level : Event → Level
  | .cutCycle _ | .missingDependency _ _ _ => .warn
  | .foundDependencies _ _ | .rendered _ _ _ => .info
  | .cachedDependencies _ | .cachedModule _ | .ignoredSection _ | .discoveredPackage _ _
  | .wroteDiagram _ _ => .debug

/-- The part of the program an event belongs to; log filters select by it. -/
def target : Event → String
  | .cachedDependencies _ | .foundDependencies _ _ | .cachedModule _ | .cutCycle _ =>
    "modgraph::graph::resolver"
  | .ignoredSection _ => "modgraph::style::document"
  | .discoveredPackage _ _ | .missingDependency _ _ _ => "modgraph::lookup::cargo"
  | .rendered _ _ _ => "modgraph::generator"
  | .wroteDiagram _ _ => "modgraph::executors::generate"

def message : Event → String
  | .cachedDependencies module =>
    "Using cached direct dependencies module=" ++ Text.quoted module
  | .foundDependencies module dependencies =>
    "Found direct dependencies module=" ++ Text.quoted module ++
      " dependencies=" ++ Text.quotedList dependencies
  | .cachedModule module => "Using cached module module=" ++ Text.quoted module
  | .cutCycle edge =>
    "Dependency cycle detected, dropping the closing edge from=" ++ Text.quoted edge.source ++
      " to=" ++ edge.target
  | .ignoredSection key => "Ignoring unrecognized style section section=" ++ key
  | .discoveredPackage module manifest =>
    "Discovered package module=" ++ module ++ " manifest=" ++ manifest
  | .missingDependency module dependency path =>
    "Path dependency does not exist module=" ++ module ++
      " dependency=" ++ Text.quoted dependency ++ " path=" ++ path
  | .rendered module format bytes =>
    "Rendered diagram module=" ++ Text.quoted module ++ " format=" ++ format.name ++
      " bytes=" ++ toString bytes
  | .wroteDiagram module path => "Wrote diagram module=" ++ module ++ " path=" ++ path

end Event

end DependencyDiagram.Log
