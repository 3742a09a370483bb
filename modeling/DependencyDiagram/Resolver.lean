import DependencyDiagram.Catalog
import DependencyDiagram.Log.Event

/-!
Resolution of declared dependencies into module graphs. The traversal is depth first and follows the
declared order. An edge back to a module whose dependencies are still being resolved is cut and
reported. A module below which nothing was cut is the same from wherever it is reached, so it is
kept for later calls; a module with a cut below it is shared within its own call only.
-/

namespace DependencyDiagram

open Log (Event)

structure Resolver where
  catalog : Catalog
  /-- Complete modules, most recent first. -/
  modules : List (String × Module)
  /-- Direct dependencies that have been asked for, most recent first. -/
  dependencies : List (String × List String)
  /-- The edges cut by the last call, if it succeeded. -/
  cycleBreaks : List CycleBreak
  /-- How often the catalog has been asked about a module. -/
  lookupCalls : Nat

/-- What a call leaves behind, whether it succeeds or fails. -/
structure Answer (α : Type) where
  resolver : Resolver
  events : List Event
  result : Except Failure α

namespace Resolver

def new (catalog : Catalog) : Resolver := ⟨catalog, [], [], [], 0⟩

/-- Declared dependencies without the module itself and without repetitions. -/
def withoutNoise (path : String) (declared : List String) : List String :=
  (declared.filter (· != path)).eraseDups

/-- Direct dependencies of a module. The catalog is asked at most once about a known module. -/
def directDependencies (resolver : Resolver) (path : String) : Answer (List String) :=
  match resolver.dependencies.lookup path with
  | some kept => ⟨resolver, [.cachedDependencies path], .ok kept⟩
  | none =>
    let asked := { resolver with lookupCalls := resolver.lookupCalls + 1 }
    match resolver.catalog.dependencies? path with
    | none => ⟨asked, [], .error (.unknownModule path resolver.catalog.paths)⟩
    | some declared =>
      let kept := withoutNoise path declared
      ⟨{ asked with dependencies := (path, kept) :: resolver.dependencies },
        [.foundDependencies path kept], .ok kept⟩

end Resolver

/-- The state of one traversal. -/
structure Walk where
  resolver : Resolver
  /-- Finished modules with a cut edge somewhere below them. -/
  truncated : List (String × Module)
  cuts : List CycleBreak
  events : List Event

namespace Walk

def start (resolver : Resolver) : Walk := ⟨resolver, [], [], []⟩

def note (walk : Walk) (event : Event) : Walk :=
  { walk with events := walk.events ++ [event] }

def cut (walk : Walk) (edge : CycleBreak) : Walk :=
  { walk.note (.cutCycle edge) with cuts := walk.cuts ++ [edge] }

/-- Keeps a finished module, for good only if nothing was cut below it. -/
def keep (walk : Walk) (module : Module) (truncated : Bool) : Walk :=
  if truncated then { walk with truncated := (module.path, module) :: walk.truncated }
  else
    let modules := (module.path, module) :: walk.resolver.modules
    { walk with resolver := { walk.resolver with modules := modules } }

/-- A finished module and whether an edge was cut below it. -/
structure Part where
  module : Module
  truncated : Bool

/-- Finished dependencies of one module and whether an edge was cut at or below them. -/
structure Parts where
  modules : List Module
  truncated : Bool

/-- Follows the edges of `source` one after the other. Edges into the open modules are cut, all
others are followed by `enter`. -/
def follow (enter : String → Walk → Walk × Except Failure Part) (opened : List String)
    (source : String) : List String → Walk → Walk × Except Failure Parts
  | [], walk => (walk, .ok ⟨[], false⟩)
  | target :: rest, walk =>
    if target ∈ opened then
      match follow enter opened source rest (walk.cut ⟨source, target⟩) with
      | (walk, .ok parts) => (walk, .ok ⟨parts.modules, true⟩)
      | (walk, .error failure) => (walk, .error failure)
    else
      match enter target walk with
      | (walk, .error failure) => (walk, .error failure)
      | (walk, .ok part) =>
        match follow enter opened source rest walk with
        | (walk, .ok parts) =>
          (walk, .ok ⟨part.module :: parts.modules, part.truncated || parts.truncated⟩)
        | (walk, .error failure) => (walk, .error failure)

/-- Resolves a module that is not open. `depth` bounds the number of modules that may still be
opened inside each other: all open modules are known and different, so when it is exhausted no known
module is left and the path must be unknown. -/
def enter : Nat → List String → String → Walk → Walk × Except Failure Part
  | 0, _, path, walk => (walk, .error (.unknownModule path walk.resolver.catalog.paths))
  | depth + 1, opened, path, walk =>
    match walk.resolver.modules.lookup path with
    | some module => (walk.note (.cachedModule path), .ok ⟨module, false⟩)
    | none =>
      match walk.truncated.lookup path with
      | some module => (walk, .ok ⟨module, true⟩)
      | none =>
        let answer := walk.resolver.directDependencies path
        let walk :=
          { walk with resolver := answer.resolver, events := walk.events ++ answer.events }
        match answer.result with
        | .error failure => (walk, .error failure)
        | .ok targets =>
          match follow (enter depth (path :: opened)) (path :: opened) path targets walk with
          | (walk, .error failure) => (walk, .error failure)
          | (walk, .ok parts) =>
            let module : Module := ⟨path, parts.modules⟩
            (walk.keep module parts.truncated, .ok ⟨module, parts.truncated⟩)

end Walk

namespace Resolver

/-- Resolves a module with everything it depends on. A failing call keeps what it has learned but
reports no cut edge. -/
def resolve (resolver : Resolver) (path : String) : Answer Module :=
  let cleared := { resolver with cycleBreaks := [] }
  match Walk.enter (resolver.catalog.size + 1) [] path (Walk.start cleared) with
  | (walk, .ok part) =>
    ⟨{ walk.resolver with cycleBreaks := walk.cuts }, walk.events, .ok part.module⟩
  | (walk, .error failure) => ⟨walk.resolver, walk.events, .error failure⟩

/-- The number of modules kept for later calls. -/
def keptModules (resolver : Resolver) : Nat := resolver.modules.length

end Resolver

end DependencyDiagram
