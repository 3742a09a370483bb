/-!
Resolved modules. A module carries its resolved dependencies, so a `Module` is a whole dependency
graph unfolded from one of its nodes; a module reached along several routes occurs once for each.
-/

namespace DependencyDiagram

structure Module where
  path : String
  dependencies : List Module
deriving Inhabited

namespace Module

def hasDependencies (module : Module) : Bool :=
  !module.dependencies.isEmpty

/-- Paths of the direct dependencies, in their order. -/
def dependencyNames (module : Module) : List String :=
  module.dependencies.map (·.path)

end Module

/-- A declared edge that was left out because following it would have closed a cycle. -/
structure CycleBreak where
  source : String
  target : String
deriving DecidableEq, Repr

def CycleBreak.text (edge : CycleBreak) : String :=
  edge.source ++ " -> " ++ edge.target

end DependencyDiagram
