import DependencyDiagram.Module
import Mathlib.Logic.Relation

/-!
A module as a graph. Its nodes are the modules that occur in it, its edges lead from an occurring
module to the paths of its dependencies. If every path occurs with one module only, the graph has no
cycle, since a module is larger than what occurs below it.
-/

namespace DependencyDiagram.Module

open Relation

/-- The module occurs in another one: it is that module or occurs in one of its dependencies. -/
inductive Within (inner : Module) : Module → Prop where
  | itself : Within inner inner
  | deeper {dependency module : Module} (member : dependency ∈ module.dependencies)
      (inside : Within inner dependency) : Within inner module

/-- The edges that a module graph has kept. -/
def Keeps (module : Module) (source target : String) : Prop :=
  ∃ inner : Module, inner.Within module ∧ inner.path = source ∧ target ∈ inner.dependencyNames

def OnePerPath (module : Module) : Prop :=
  ∀ first second : Module, first.Within module → second.Within module →
    first.path = second.path → first = second

variable {inner middle module : Module}

theorem Within.trans (deep : inner.Within middle) (outer : middle.Within module) : inner.Within module := by
  induction outer with
  | itself => exact deep
  | deeper member _ ih => exact .deeper member ih

theorem Within.dependency {dependency : Module} (within : middle.Within module)
    (member : dependency ∈ middle.dependencies) : dependency.Within module :=
  Within.trans (.deeper member .itself) within

/-- What occurs in a module is that module or a dependency of a module that occurs in it. -/
theorem Within.parent (within : inner.Within module) : inner = module ∨
    ∃ parent : Module, parent.Within module ∧ inner ∈ parent.dependencies := by
  induction within with
  | itself => exact .inl rfl
  | @deeper dependency module member _ ih =>
    rcases ih with rfl | ⟨parent, inside, listed⟩
    · exact .inr ⟨module, .itself, member⟩
    · exact .inr ⟨parent, .deeper member inside, listed⟩

theorem sizeOf_dependency_lt {dependency : Module} (member : dependency ∈ module.dependencies) :
    sizeOf dependency < sizeOf module := by
  obtain ⟨path, dependencies⟩ := module
  have smaller : sizeOf dependency < sizeOf dependencies := List.sizeOf_lt_of_mem member
  simp only [Module.mk.sizeOf_spec]
  omega

theorem Within.keeps (deep : inner.Within middle) (outer : middle.Within module) :
    ReflTransGen module.Keeps middle.path inner.path := by
  induction deep with
  | itself => exact .refl
  | @deeper dependency middle member _ ih =>
    have edge : module.Keeps middle.path dependency.path :=
      ⟨middle, outer, rfl, List.mem_map_of_mem member⟩
    exact .head edge (ih (outer.dependency member))

/-- Kept edges lead from occurring modules to smaller ones. -/
theorem OnePerPath.descends (one : module.OnePerPath) {source target : String}
    (reached : TransGen module.Keeps source target) : ∃ first last : Module, first.Within module ∧
      last.Within module ∧ first.path = source ∧ last.path = target ∧ sizeOf last < sizeOf first := by
  have step {source target : String} (edge : module.Keeps source target) :
      ∃ first last : Module, first.Within module ∧ last.Within module ∧ first.path = source ∧
        last.path = target ∧ sizeOf last < sizeOf first := by
    obtain ⟨first, within, named, member⟩ := edge
    obtain ⟨last, dependency, same⟩ := List.mem_map.mp member
    exact ⟨first, last, within, within.dependency dependency, named, same, sizeOf_dependency_lt dependency⟩
  induction reached with
  | single edge => exact step edge
  | tail _ edge ih =>
    obtain ⟨first, last, within, lastWithin, named, same, smaller⟩ := ih
    obtain ⟨next, final, nextWithin, finalWithin, nextNamed, finalSame, smallest⟩ := step edge
    have joined : last = next := one last next lastWithin nextWithin (same.trans nextNamed.symm)
    subst joined
    exact ⟨first, final, within, finalWithin, named, finalSame, Nat.lt_trans smallest smaller⟩

theorem OnePerPath.acyclic (one : module.OnePerPath) (path : String) : ¬ TransGen module.Keeps path path := by
  intro cycle
  obtain ⟨first, last, within, lastWithin, named, same, smaller⟩ := one.descends cycle
  rw [one last first lastWithin within (same.trans named.symm)] at smaller
  exact Nat.lt_irrefl _ smaller

end DependencyDiagram.Module
