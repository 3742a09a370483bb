import DependencyDiagram.Resolver
import Mathlib.Logic.Relation

/-!
The graph that a catalog declares. A module is complete if its dependencies can be unfolded to the
end: it reaches neither an unknown module nor a cycle. A complete module has one unfolding, which
is why a resolver may keep it from one call to the next.
-/

namespace DependencyDiagram

open Relation

namespace Resolver

theorem mem_withoutNoise {path target : String} {declared : List String} :
    target ∈ withoutNoise path declared ↔ target ∈ declared ∧ target ≠ path := by
  simp [withoutNoise, List.mem_eraseDups]

theorem nodup_eraseDups (names : List String) : names.eraseDups.Nodup := by
  -- What is left after each name is a filtered rest, not the tail itself.
  induction size : names.length using Nat.strongRecOn generalizing names with
  | ind size ih =>
    subst size
    cases names with
    | nil => exact List.nodup_nil
    | cons name rest =>
      rw [List.eraseDups_cons]
      have shorter : (rest.filter fun other => !other == name).length < (name :: rest).length :=
        Nat.lt_succ_of_le (List.length_filter_le _ _)
      refine List.nodup_cons.mpr ⟨?_, ih _ shorter _ rfl⟩
      simp [List.mem_eraseDups]

theorem nodup_withoutNoise (path : String) (declared : List String) :
    (withoutNoise path declared).Nodup :=
  nodup_eraseDups _

end Resolver

namespace Catalog

/-- The targets of a known module's edges, in their order: neither a module's mention of itself nor
a repetition is an edge. -/
def edges? (catalog : Catalog) (path : String) : Option (List String) :=
  (catalog.dependencies? path).map (Resolver.withoutNoise path)

/-- A dependency as it is written down, a module's mention of itself included. -/
def Declares (catalog : Catalog) (source target : String) : Prop :=
  ∃ declared, catalog.dependencies? source = some declared ∧ target ∈ declared

def Reaches (catalog : Catalog) : String → String → Prop :=
  ReflTransGen catalog.Declares

def Depends (catalog : Catalog) (source target : String) : Prop :=
  ∃ targets, catalog.edges? source = some targets ∧ target ∈ targets

variable {catalog : Catalog} {source target path : String}

theorem depends_iff : catalog.Depends source target ↔ catalog.Declares source target ∧ source ≠ target := by
  constructor
  · intro depends
    obtain ⟨targets, known, member⟩ := depends
    obtain ⟨declared, found, rfl⟩ := Option.map_eq_some_iff.mp known
    obtain ⟨written, different⟩ := Resolver.mem_withoutNoise.mp member
    exact ⟨⟨declared, found, written⟩, different.symm⟩
  · intro edge
    obtain ⟨⟨declared, found, written⟩, different⟩ := edge
    refine ⟨Resolver.withoutNoise source declared, by simp [edges?, found], ?_⟩
    exact Resolver.mem_withoutNoise.mpr ⟨written, different.symm⟩

theorem nodup_edges {targets : List String} (known : catalog.edges? source = some targets) : targets.Nodup := by
  obtain ⟨declared, _, rfl⟩ := Option.map_eq_some_iff.mp known
  exact Resolver.nodup_withoutNoise source declared

/-- Self-references lead nowhere new. -/
theorem reaches_iff : catalog.Reaches source target ↔ ReflTransGen catalog.Depends source target := by
  constructor
  · intro reached
    induction reached with
    | refl => exact .refl
    | @tail middle target _ declares ih =>
      by_cases same : middle = target
      · exact same ▸ ih
      · exact ih.tail (depends_iff.mpr ⟨declares, same⟩)
  · exact ReflTransGen.mono (fun _ _ depends => (depends_iff.mp depends).1) _ _

/-- Paths whose declared dependencies are among them again are left by no route. -/
theorem Reaches.mem_of_closed {paths : List String} (reached : catalog.Reaches source target)
    (closed : ∀ path ∈ paths, ∀ dependency ∈ (catalog.dependencies? path).getD [], dependency ∈ paths)
    (start : source ∈ paths) : target ∈ paths := by
  induction reached with
  | refl => exact start
  | tail _ declares ih =>
    obtain ⟨declared, found, member⟩ := declares
    apply closed _ ih
    rwa [found]

/-- The edges of a module that lies on a cycle of two or more modules lead back to it. -/
theorem transGen_depends_iff : TransGen catalog.Depends path path ↔
    ∃ other, path ≠ other ∧ catalog.Reaches path other ∧ catalog.Reaches other path := by
  constructor
  · intro cycle
    obtain ⟨next, first, back⟩ := TransGen.head'_iff.mp cycle
    have different := (depends_iff.mp first).2
    exact ⟨next, different, reaches_iff.mpr (.single first), reaches_iff.mpr back⟩
  · intro round
    obtain ⟨other, different, there, back⟩ := round
    rcases reflTransGen_iff_eq_or_transGen.mp (reaches_iff.mp there) with same | path
    · exact absurd same.symm different
    · exact path.trans_left (reaches_iff.mp back)

/-- The module is the whole unfolding of what is declared for its path and below it. -/
inductive Unfolds (catalog : Catalog) : Module → Prop where
  | intro (path : String) (dependencies : List Module)
      (edges : catalog.edges? path = some (dependencies.map (·.path)))
      (below : ∀ dependency ∈ dependencies, Unfolds catalog dependency) :
      Unfolds catalog ⟨path, dependencies⟩

def Complete (catalog : Catalog) (path : String) : Prop :=
  ∃ module, catalog.Unfolds module ∧ module.path = path

theorem Unfolds.complete {module : Module} (unfolds : catalog.Unfolds module) :
    catalog.Complete module.path := ⟨module, unfolds, rfl⟩

theorem unfolds_lists_eq {first second : List Module} (paths : first.map (·.path) = second.map (·.path))
    (alike : ∀ module ∈ first, ∀ other, catalog.Unfolds other → module.path = other.path → module = other)
    (unfolds : ∀ other ∈ second, catalog.Unfolds other) : first = second := by
  induction first generalizing second with
  | nil => exact (List.map_eq_nil_iff.mp paths.symm).symm
  | cons module rest ih =>
    cases second with
    | nil => simp at paths
    | cons other others =>
      obtain ⟨same, later⟩ := List.cons.inj paths
      have heads := alike module (by simp) other (unfolds other (by simp)) same
      have tails := ih later (fun m member => alike m (by simp [member]))
        (fun m member => unfolds m (by simp [member]))
      rw [heads, tails]

theorem Unfolds.unique {first second : Module} (left : catalog.Unfolds first)
    (right : catalog.Unfolds second) (same : first.path = second.path) : first = second := by
  induction left generalizing second with
  | intro path dependencies edges below ih =>
    cases right with
    | intro other others otherEdges otherBelow =>
      simp only at same
      subst same
      rw [edges] at otherEdges
      have dependenciesSame := unfolds_lists_eq (Option.some.inj otherEdges)
        (fun module member other unfolds => ih module member unfolds) otherBelow
      rw [dependenciesSame]

/-- What an unfolded module depends on unfolds inside it. -/
theorem Unfolds.below_depends {module : Module} (unfolds : catalog.Unfolds module)
    (depends : catalog.Depends module.path target) :
    ∃ inner, catalog.Unfolds inner ∧ inner.path = target ∧ sizeOf inner < sizeOf module := by
  cases unfolds with
  | intro path dependencies edges below =>
    obtain ⟨targets, known, member⟩ := depends
    rw [edges] at known
    obtain rfl := Option.some.inj known
    obtain ⟨inner, inside, same⟩ := List.mem_map.mp member
    refine ⟨inner, below inner inside, same, ?_⟩
    have smaller := List.sizeOf_lt_of_mem inside
    simp only [Module.mk.sizeOf_spec]
    omega

theorem Unfolds.below_cycle {module : Module} (unfolds : catalog.Unfolds module)
    (reached : TransGen catalog.Depends module.path target) :
    ∃ inner, catalog.Unfolds inner ∧ inner.path = target ∧ sizeOf inner < sizeOf module := by
  induction reached with
  | single depends => exact unfolds.below_depends depends
  | tail _ depends ih =>
    obtain ⟨middle, middleUnfolds, rfl, smaller⟩ := ih
    obtain ⟨inner, innerUnfolds, same, smallest⟩ := middleUnfolds.below_depends depends
    exact ⟨inner, innerUnfolds, same, Nat.lt_trans smallest smaller⟩

theorem Complete.of_depends (complete : catalog.Complete source)
    (depends : catalog.Depends source target) : catalog.Complete target := by
  obtain ⟨module, unfolds, rfl⟩ := complete
  obtain ⟨inner, innerUnfolds, same, _⟩ := unfolds.below_depends depends
  exact ⟨inner, innerUnfolds, same⟩

/-- No cycle passes through a complete module, since its unfolding would contain itself. -/
theorem Complete.acyclic (complete : catalog.Complete path) : ¬ TransGen catalog.Depends path path := by
  intro cycle
  obtain ⟨module, unfolds, rfl⟩ := complete
  obtain ⟨inner, innerUnfolds, same, smaller⟩ := unfolds.below_cycle cycle
  rw [innerUnfolds.unique unfolds same] at smaller
  exact Nat.lt_irrefl _ smaller

theorem Complete.known (complete : catalog.Complete path) : ∃ targets, catalog.edges? path = some targets := by
  obtain ⟨module, unfolds, rfl⟩ := complete
  cases unfolds with
  | intro path dependencies edges below => exact ⟨_, edges⟩

theorem mem_paths_of_edges {targets : List String} (known : catalog.edges? path = some targets) :
    path ∈ catalog.paths := by
  obtain ⟨declared, found, _⟩ := Option.map_eq_some_iff.mp known
  obtain ⟨declaration, present, _⟩ := Option.map_eq_some_iff.mp found
  have same : declaration.path = path := by simpa using List.find?_some present
  exact List.mem_map.mpr ⟨declaration, List.mem_of_find?_eq_some present, same⟩

end Catalog

end DependencyDiagram
