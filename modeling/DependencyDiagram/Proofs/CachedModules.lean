import DependencyDiagram.Proofs.CacheGrowth
import DependencyDiagram.Proofs.DrawnEdges

/-!
Which modules a resolver keeps. A path is resolved alike from wherever it is reached if it reaches neither a
cycle nor an unknown path. Exactly these paths are kept, among those that successful calls have reached, and
in every diagram such a path looks as if it had been resolved on its own.
-/

namespace DependencyDiagram

open Relation

namespace Catalog

/-- A cycle of edges can be reached. A module's mention of itself is no edge. -/
def ReachesCycle (catalog : Catalog) (path : String) : Prop :=
  ∃ other, ReflTransGen catalog.Depends path other ∧ TransGen catalog.Depends other other

/-- A path that is not declared can be reached. -/
def ReachesUnknown (catalog : Catalog) (path : String) : Prop :=
  ∃ other, ReflTransGen catalog.Depends path other ∧ catalog.dependencies? other = none

variable {catalog : Catalog} {path other : String}

theorem Complete.reaches (complete : catalog.Complete path) (reached : ReflTransGen catalog.Depends path other) :
    catalog.Complete other := by
  induction reached with
  | refl => exact complete
  | tail _ depends ih => exact ih.of_depends depends

theorem Complete.not_reachesCycle (complete : catalog.Complete path) : ¬ catalog.ReachesCycle path := by
  rintro ⟨other, reached, cycle⟩
  exact (complete.reaches reached).acyclic cycle

theorem Complete.not_reachesUnknown (complete : catalog.Complete path) : ¬ catalog.ReachesUnknown path := by
  rintro ⟨other, reached, unknown⟩
  obtain ⟨targets, known⟩ := (complete.reaches reached).known
  simp [edges?, unknown] at known

end Catalog

namespace Module

/-- Where no cycle can be reached nothing is cut, neither there nor below. -/
theorem Resolves.unfolds {catalog : Catalog} {target : String} {cuts : List CycleBreak} {module : Module}
    (resolves : module.Resolves catalog target cuts) : (inner : Module) → inner.Within module →
    ¬ catalog.ReachesCycle inner.path → catalog.Unfolds inner
  | ⟨path, dependencies⟩, within, acyclic => by
    obtain ⟨targets, known, names⟩ := resolves.keeps _ within
    have whole : Walk.uncut cuts path targets = targets :=
      List.filter_eq_self.mpr fun _ _ => decide_eq_true fun cut =>
        acyclic ⟨path, .refl, (resolves.cycle_of_cut cut).2⟩
    refine .intro path dependencies (known.trans (congrArg some (names.trans whole).symm)) ?_
    intro dependency member
    have depends := ((resolves.keeps_iff within _).mp (List.mem_map_of_mem member)).1
    refine resolves.unfolds dependency (within.dependency member) ?_
    rintro ⟨other, reached, cycle⟩
    exact acyclic ⟨other, .head depends reached, cycle⟩
termination_by inner => sizeOf inner
decreasing_by exact @sizeOf_dependency_lt ⟨path, dependencies⟩ dependency member

end Module

namespace Catalog

variable {catalog : Catalog} {path : String}

/-- What reaches neither a cycle nor an unknown path can be unfolded to the end. -/
theorem complete_iff : catalog.Complete path ↔ ¬ catalog.ReachesCycle path ∧ ¬ catalog.ReachesUnknown path := by
  constructor
  · exact fun complete => ⟨complete.not_reachesCycle, complete.not_reachesUnknown⟩
  · rintro ⟨acyclic, known⟩
    have fresh := Resolver.resolve_new_result catalog path
    cases found : catalog.firstUnknown? path with
    | some missing =>
      obtain ⟨reached, unknown⟩ := reaches_firstUnknown found
      exact absurd ⟨missing, reaches_iff.mp reached, unknown⟩ known
    | none =>
      rw [found] at fresh
      obtain ⟨module, resolved⟩ := fresh
      have resolves := (Resolver.sound_new catalog).resolves resolved
      exact ⟨module, resolves.unfolds module .itself (resolves.named ▸ acyclic), resolves.named⟩

end Catalog

namespace Walk

variable {catalog : Catalog} {walk : Walk} {path other : String}

/-- Once no module is open, whatever a module at hand reaches is at hand as well. -/
theorem Stocked.atHand_of_reaches (stocked : walk.Stocked catalog []) (atHand : walk.AtHand path)
    (reached : catalog.Reaches path other) : walk.AtHand other := by
  rw [Catalog.reaches_iff] at reached
  induction reached with
  | refl => exact atHand
  | tail _ depends ih =>
    rcases ih.cases with kept | shared
    · exact .inl (Resolver.mem_keptPaths.mp (stocked.resolver.below _ kept _ depends))
    · exact (stocked.frontier _ shared _ depends).resolve_left List.not_mem_nil

end Walk

namespace Resolver

variable {catalog : Catalog} {resolver : Resolver} {target path : String} {module : Module}

theorem keptPaths_reporting (walk : Walk) (result : Except Failure Walk.Part) :
    (reporting walk result).keptPaths = walk.resolver.keptPaths := by
  cases result <;> rfl

theorem keptPaths_directDependencies (resolver : Resolver) (path : String) :
    (resolver.directDependencies path).resolver.keptPaths = resolver.keptPaths := by
  rw [keptPaths, directDependencies_modules, keptPaths]

theorem Sound.complete_of_kept (sound : resolver.Sound catalog) (kept : path ∈ resolver.keptPaths) :
    catalog.Complete path := by
  obtain ⟨module, found⟩ := Option.ne_none_iff_exists'.mp (mem_keptPaths.mp kept)
  obtain ⟨named, unfolds⟩ := sound.keeps path module found
  exact ⟨module, unfolds, named⟩

theorem Sound.keptPaths_subset (sound : resolver.Sound catalog) (target : String) :
    resolver.keptPaths ⊆ (resolver.resolve target).resolver.keptPaths := by
  obtain ⟨walk, result, entered, _, leaves⟩ := resolve_enters sound.grounded target
  obtain ⟨new, grown, _⟩ := (entered.extends (sound.report []).grounded).kept
  rw [leaves, keptPaths_reporting, grown]
  exact List.subset_append_right new _

theorem Stocked.started (stocked : resolver.Stocked catalog) :
    (Walk.start { resolver with cycleBreaks := [] }).Stocked catalog [] :=
  Walk.stocked_start ⟨stocked.distinct, stocked.below⟩

theorem Stocked.resolve (stocked : resolver.Stocked catalog) (sound : resolver.Sound catalog) (path : String) :
    (resolver.resolve path).resolver.Stocked catalog := by
  obtain ⟨walk, result, entered, _, leaves⟩ := resolve_enters sound.grounded path
  obtain ⟨distinct, below⟩ := (entered.stocked (Walk.sound_start (sound.report []))
    (catalog.openBefore_nil path) List.not_mem_nil stocked.started).1
  rw [leaves]
  constructor
  · rwa [keptPaths_reporting]
  · rwa [keptPaths_reporting]

theorem Stocked.directDependencies (stocked : resolver.Stocked catalog) (path : String) :
    (resolver.directDependencies path).resolver.Stocked catalog := by
  constructor
  · rw [keptPaths_directDependencies]
    exact stocked.distinct
  · rw [keptPaths_directDependencies]
    exact stocked.below

theorem stocked_after (catalog : Catalog) (calls : List Call) : ((new catalog).after calls).Stocked catalog := by
  have both : ((new catalog).after calls).Sound catalog ∧ ((new catalog).after calls).Stocked catalog := by
    refine @after_preserves (fun resolver => resolver.Sound catalog ∧ resolver.Stocked catalog) (new catalog)
      ?_ ?_ ⟨sound_new catalog, stocked_new catalog⟩ calls
    · exact fun _ path ⟨sound, stocked⟩ => ⟨sound.resolve path, stocked.resolve sound path⟩
    · exact fun _ path ⟨sound, stocked⟩ => ⟨sound.directDependencies path, stocked.directDependencies path⟩
  exact both.2

/-- Later calls forget nothing. -/
theorem Sound.kept_after (sound : resolver.Sound catalog) (kept : path ∈ resolver.keptPaths)
    (calls : List Call) : path ∈ (resolver.after calls).keptPaths := by
  have both : (resolver.after calls).Sound catalog ∧ path ∈ (resolver.after calls).keptPaths := by
    refine @after_preserves (fun resolver => resolver.Sound catalog ∧ path ∈ resolver.keptPaths) resolver
      ?_ ?_ ⟨sound, kept⟩ calls
    · exact fun _ target ⟨sound, kept⟩ => ⟨sound.resolve target, sound.keptPaths_subset target kept⟩
    · intro between target ⟨sound, kept⟩
      exact ⟨sound.directDependencies target, by rwa [keptPaths_directDependencies]⟩
  exact both.2

/-- A successful call keeps, besides what was kept before, what its target reaches and reaches no cycle. -/
theorem Sound.mem_keptPaths_resolve (sound : resolver.Sound catalog) (stocked : resolver.Stocked catalog)
    (resolved : (resolver.resolve target).result = .ok module) :
    path ∈ (resolver.resolve target).resolver.keptPaths ↔
      path ∈ resolver.keptPaths ∨ catalog.Reaches target path ∧ ¬ catalog.ReachesCycle path := by
  obtain ⟨walk, result, entered, gives, leaves⟩ := resolve_enters sound.grounded target
  have started := Walk.sound_start (sound.report [])
  have before := catalog.openBefore_nil target
  constructor
  · intro kept
    have complete := (sound.resolve target).complete_of_kept kept
    obtain ⟨new, grown, reached⟩ := (entered.extends started.resolver.grounded).kept
    rw [leaves, keptPaths_reporting, grown] at kept
    rcases List.mem_append.mp kept with isNew | earlier
    · exact .inr ⟨reached path isNew, complete.not_reachesCycle⟩
    · exact .inl earlier
  · rintro (earlier | ⟨reached, acyclic⟩)
    · exact sound.keptPaths_subset target earlier
    · have resolves := sound.resolves resolved
      obtain ⟨inner, within, rfl⟩ := (resolves.within_iff path).mpr reached
      have complete := (resolves.unfolds inner within acyclic).complete
      obtain ⟨part, rfl, -⟩ := Walk.ok_of_map (gives.symm.trans resolved)
      obtain ⟨finished, atHand⟩ := (entered.stocked started before List.not_mem_nil stocked.started).2 part rfl
      rw [leaves, keptPaths_reporting]
      exact (entered.sound started before).1.kept (finished.atHand_of_reaches atHand reached) complete

/-- Each target resolves when it is its turn. -/
def ResolvesAll : Resolver → List String → Prop
  | _, [] => True
  | resolver, target :: targets => (∃ module, (resolver.resolve target).result = .ok module) ∧
    (resolver.resolve target).resolver.ResolvesAll targets

theorem Sound.mem_keptPaths_after (sound : resolver.Sound catalog) (stocked : resolver.Stocked catalog)
    {targets : List String} (resolved : resolver.ResolvesAll targets) :
    path ∈ (resolver.after (targets.map .resolve)).keptPaths ↔ path ∈ resolver.keptPaths ∨
      (∃ target ∈ targets, catalog.Reaches target path) ∧ ¬ catalog.ReachesCycle path := by
  induction targets generalizing resolver with
  | nil => simp [Resolver.after]
  | cons target targets ih =>
    obtain ⟨⟨module, first⟩, others⟩ := resolved
    have rest := ih (sound.resolve target) (stocked.resolve sound target) others
    rw [sound.mem_keptPaths_resolve stocked first] at rest
    rw [List.exists_mem_cons_iff, or_and_right, ← or_assoc]
    exact rest

/-- A module that can be unfolded to the end resolves to its unfolding, whatever was called before. -/
theorem Sound.resolve_of_unfolds (sound : resolver.Sound catalog) (unfolds : catalog.Unfolds module) :
    (resolver.resolve module.path).result = .ok module := by
  obtain ⟨walk, result, entered, gives, _⟩ := resolve_enters sound.grounded module.path
  have started := Walk.sound_start (sound.report [])
  have before := catalog.openBefore_nil module.path
  obtain ⟨⟨other, rfl⟩, _⟩ := entered.of_complete started before unfolds.complete
  have marked := (entered.sound started before).2 _ rfl
  have same : other = module := (marked.whole rfl).unique unfolds marked.named
  rw [gives, same, Except.map]

end Resolver

namespace Module.Resolves

variable {catalog : Catalog} {target path : String} {cuts others : List CycleBreak} {module inner group : Module}

/-- What occurs below a module is what occurs around it and can be reached from it. -/
theorem within_inner_iff (resolves : module.Resolves catalog target cuts)
    (alone : inner.Resolves catalog path others) (within : inner.Within module) :
    group.Within inner ↔ group.Within module ∧ catalog.Reaches path group.path := by
  constructor
  · exact fun inside => ⟨inside.trans within, (alone.within_iff _).mp ⟨group, inside, rfl⟩⟩
  · rintro ⟨outside, reached⟩
    obtain ⟨found, inside, same⟩ := (alone.within_iff _).mpr reached
    rwa [← resolves.onePerPath found group (inside.trans within) outside same]

end Module.Resolves

/-- In the graph of a module a path looks as if it had been resolved on its own: the module of that path is
the one that every call gives for it, its part of the drawing is what is drawn for it alone, and no edge of
this part has been cut. -/
structure Module.ShowsAlone (catalog : Catalog) (cuts : List CycleBreak) (path : String)
    (module inner : Module) : Prop where
  within : inner.Within module
  only : ∀ other : Module, other.Within module → other.path = path → other = inner
  resolved : ∀ calls, (((Resolver.new catalog).after calls).resolve path).result = .ok inner
  drawn : ∀ group, group ∈ inner.edgeGroups ↔ group ∈ module.edgeGroups ∧ catalog.Reaches path group.path
  uncut : ∀ edge ∈ cuts, ¬ catalog.Reaches path edge.source

theorem Module.Resolves.showsAlone {catalog : Catalog} {target path : String} {cuts : List CycleBreak}
    {module : Module} (resolves : module.Resolves catalog target cuts) (reached : catalog.Reaches target path)
    (acyclic : ¬ catalog.ReachesCycle path) : ∃ inner, module.ShowsAlone catalog cuts path inner := by
  obtain ⟨inner, within, rfl⟩ := (resolves.within_iff path).mpr reached
  have resolved (calls : List Resolver.Call) :=
    (Resolver.sound_after catalog calls).resolve_of_unfolds (resolves.unfolds inner within acyclic)
  have alone := (Resolver.sound_after catalog []).resolves (resolved [])
  refine ⟨inner, within, ?_, resolved, ?_, ?_⟩
  · exact fun other otherWithin same => resolves.onePerPath other inner otherWithin within same
  · intro group
    rw [alone.mem_edgeGroups, resolves.mem_edgeGroups, resolves.within_inner_iff alone within]
    exact and_right_comm
  · intro edge cut below
    exact acyclic ⟨edge.source, Catalog.reaches_iff.mp below, (resolves.cycle_of_cut cut).2⟩

/-- After some calls a resolver keeps the modules that do not depend on where a resolution starts. -/
structure Resolver.KeepsStartIndependent (catalog : Catalog) (calls : List Resolver.Call) : Prop where
  /-- No other module is kept, and those that are have lost nothing. -/
  kept : ∀ path module, ((new catalog).after calls).modules.lookup path = some module →
    ¬ catalog.ReachesCycle path ∧ ¬ catalog.ReachesUnknown path ∧ module.path = path ∧ catalog.Unfolds module
  /-- A successful call keeps every such module that it comes across, for all calls after it. -/
  keeps : ∀ target module, (((new catalog).after calls).resolve target).result = .ok module →
    ∀ later path, catalog.Reaches target path → ¬ catalog.ReachesCycle path →
    ∃ inner, ((((new catalog).after calls).resolve target).resolver.after later).modules.lookup path = some inner
  /-- The graph of a diagram shows each such module as it is resolved on its own. -/
  shows : ∀ target format style diagram,
    (((new catalog).after calls).generate target format style).result = .ok diagram →
    ∃ module : Module, (((new catalog).after calls).resolveTarget target).result = .ok module ∧
      diagram.content = format.render module (.build target module.dependencyPaths) style ∧
      ∀ path, catalog.Reaches target path → ¬ catalog.ReachesCycle path →
        ∃ inner, module.ShowsAlone catalog diagram.cycleBreaks path inner

/-- Exactly the modules that reach neither a cycle nor an unknown path are kept for later calls. Hence after
the resolution of some targets as many are kept as paths that reach no cycle can be reached from them. -/
theorem Resolver.after_keepsStartIndependent (catalog : Catalog) (calls : List Resolver.Call) :
    KeepsStartIndependent catalog calls ∧
    ∀ targets, (new catalog).ResolvesAll targets → ∃ paths : List String, paths.Nodup ∧
      (∀ path, path ∈ paths ↔
        (∃ target ∈ targets, catalog.Reaches target path) ∧ ¬ catalog.ReachesCycle path) ∧
      ((new catalog).after (targets.map .resolve)).keptModules = paths.length := by
  have sound := sound_after catalog calls
  refine ⟨⟨?_, ?_, ?_⟩, ?_⟩
  · intro path module found
    obtain ⟨named, unfolds⟩ := sound.keeps path module found
    obtain ⟨acyclic, known⟩ := Catalog.complete_iff.mp ⟨module, unfolds, named⟩
    exact ⟨acyclic, known, named, unfolds⟩
  · intro target module resolved later path reached acyclic
    have kept := (sound.mem_keptPaths_resolve (stocked_after catalog calls) resolved).mpr (.inr ⟨reached, acyclic⟩)
    exact Option.ne_none_iff_exists'.mp (mem_keptPaths.mp ((sound.resolve target).kept_after kept later))
  · intro target format style diagram generated
    obtain ⟨module, found, resolved, rfl⟩ := generate_ok generated
    exact ⟨module, found, rfl, fun path => (sound.resolves resolved).showsAlone⟩
  · intro targets resolved
    refine ⟨_, (stocked_after catalog (targets.map .resolve)).distinct, fun path => ?_, ?_⟩
    · rw [(sound_new catalog).mem_keptPaths_after (stocked_new catalog) resolved, or_iff_right]
      exact List.not_mem_nil
    · rw [keptModules, keptPaths, List.length_map]

/-- Two modules that depend on each other and on two others that do not depend on them. -/
def Catalog.partlyCyclic : Catalog :=
  .ofPairs [(":a", [":b", ":c"]), (":b", [":c", ":a"]), (":c", [":c", ":d"]), (":d", [])]

theorem Resolver.after_partlyCyclic : ∃ paths : List String, paths.Nodup ∧ paths.length = 2 ∧
    (∀ path, path ∈ paths ↔
      (∃ target ∈ [":a", ":b"], Catalog.partlyCyclic.Reaches target path) ∧ ¬ Catalog.partlyCyclic.ReachesCycle path) ∧
    Catalog.partlyCyclic.Unfolds ⟨":c", [⟨":d", []⟩]⟩ := by
  obtain ⟨keeps, counted⟩ := after_keepsStartIndependent .partlyCyclic [.resolve ":a", .resolve ":unknown"]
  obtain ⟨paths, distinct, listed, count⟩ := counted [":a", ":b"] ⟨⟨_, rfl⟩, ⟨_, rfl⟩, trivial⟩
  exact ⟨paths, distinct, count.symm.trans rfl, listed, (keeps.kept ":c" _ rfl).2.2.2⟩

end DependencyDiagram
