import DependencyDiagram.Module

/-!
Walks over a resolved module graph. Each visits a path once, at its first occurrence in pre-order:
`firstVisits` lists the modules met, `dependencyPaths` the paths a diagram must place, and
`edgeGroups` the modules whose edges it draws.
-/

namespace DependencyDiagram.Module

/-- What a walk has gathered and the paths it has been to. -/
structure Visit (α : Type) where
  gathered : List α
  visited : List String

mutual

def firstVisitsFrom (visited : List String) : Module → Visit Module
  | ⟨path, dependencies⟩ =>
    if path ∈ visited then ⟨[], visited⟩
    else
      let below := firstVisitsAmong (path :: visited) dependencies
      ⟨⟨path, dependencies⟩ :: below.gathered, below.visited⟩

def firstVisitsAmong (visited : List String) : List Module → Visit Module
  | [] => ⟨[], visited⟩
  | module :: rest =>
    let first := firstVisitsFrom visited module
    let others := firstVisitsAmong first.visited rest
    ⟨first.gathered ++ others.gathered, others.visited⟩

end

/-- The modules of a graph in pre-order, each path at its first visit only. -/
def firstVisits (module : Module) : List Module :=
  (firstVisitsFrom [] module).gathered

mutual

def pathsBelow (expanded : List String) : Module → Visit String
  | ⟨path, dependencies⟩ =>
    if path ∈ expanded then ⟨[], expanded⟩
    else
      let below := pathsAmong (path :: expanded) dependencies
      ⟨dependencies.map (·.path) ++ below.gathered, below.visited⟩

def pathsAmong (expanded : List String) : List Module → Visit String
  | [] => ⟨[], expanded⟩
  | module :: rest =>
    let first := pathsBelow expanded module
    let others := pathsAmong first.visited rest
    ⟨first.gathered ++ others.gathered, others.visited⟩

end

/-- The path of a module, then for each module in pre-order the paths of its direct dependencies. A
path occurs once for each edge into it. -/
def dependencyPaths (module : Module) : List String :=
  module.path :: (pathsBelow [] module).gathered

theorem sizeOf_append_lt (path : String) (dependencies rest : List Module) :
    sizeOf (dependencies ++ rest) < sizeOf (Module.mk path dependencies :: rest) := by
  have appended : sizeOf (dependencies ++ rest) + 1 = sizeOf dependencies + sizeOf rest := by
    induction dependencies with
    | nil => simp; omega
    | cons head tail ih => simp only [List.cons_append, List.cons.sizeOf_spec]; omega
  simp only [List.cons.sizeOf_spec, Module.mk.sizeOf_spec]
  omega

/-- Walks with an explicit stack, whose top is the head of the list. -/
def edgeGroupsFrom (visited : List String) : List Module → List Module
  | [] => []
  | ⟨path, dependencies⟩ :: stack =>
    if path ∈ visited then edgeGroupsFrom visited stack
    else if dependencies.isEmpty then edgeGroupsFrom (path :: visited) stack
    else ⟨path, dependencies⟩ :: edgeGroupsFrom (path :: visited) (dependencies ++ stack)
termination_by stack => sizeOf stack
decreasing_by
  · simp only [List.cons.sizeOf_spec, Module.mk.sizeOf_spec]; omega
  · simp only [List.cons.sizeOf_spec, Module.mk.sizeOf_spec]; omega
  · exact sizeOf_append_lt path dependencies stack

/-- The modules that have edges, in the order in which a diagram writes them. -/
def edgeGroups (module : Module) : List Module := edgeGroupsFrom [] [module]

end DependencyDiagram.Module
