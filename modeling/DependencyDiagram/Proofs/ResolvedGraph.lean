import DependencyDiagram.Proofs.CycleCuts

/-!
The graph that a successful call of a resolver hands back, and what its cut edges are: each of them
would close a cycle of kept edges again, and there is one only if a cycle can be reached.
-/

namespace DependencyDiagram

open Relation

namespace Walk

variable {catalog : Catalog} {opened : List String} {walk : Walk}

theorem Settled.within {inner module : Module} (tidy : walk.Tidy catalog opened) (inside : inner.Within module)
    (settled : Settled catalog walk.truncated module) : Settled catalog walk.truncated inner := by
  induction inside with
  | itself => exact settled
  | @deeper dependency module member _ ih =>
    apply ih
    rcases settled with unfolds | shared
    · cases unfolds with
      | intro path dependencies edges below => exact .inl (below dependency member)
    · exact (tidy.shared _ _ shared).2 dependency member

theorem Settled.unique {first second : Module} (sound : walk.Sound catalog)
    (left : Settled catalog walk.truncated first) (right : Settled catalog walk.truncated second)
    (same : first.path = second.path) : first = second := by
  rcases left with unfolds | shared <;> rcases right with otherUnfolds | otherShared
  · exact unfolds.unique otherUnfolds same
  · exact absurd (same ▸ unfolds.complete) (sound.shares _ _ otherShared).2
  · exact absurd (same ▸ otherUnfolds.complete) (sound.shares _ _ shared).2
  · rw [same] at shared
    exact Option.some.inj (shared.symm.trans otherShared)

/-- At the end of a traversal no edge of a complete module has been cut. -/
theorem Tidy.incomplete (tidy : walk.Tidy catalog []) (sound : walk.Sound catalog) {edge : CycleBreak}
    (member : edge ∈ walk.cuts) : ¬ catalog.Complete edge.source := by
  rcases tidy.attributed edge member with isOpen | finished
  · cases isOpen
  · obtain ⟨module, found⟩ := Option.ne_none_iff_exists'.mp finished
    exact (sound.shares _ _ found).2

theorem Settled.names {module : Module} (tidy : walk.Tidy catalog []) (sound : walk.Sound catalog)
    (settled : Settled catalog walk.truncated module) :
    ∃ targets, catalog.edges? module.path = some targets ∧
      module.dependencyNames = uncut walk.cuts module.path targets := by
  rcases settled with unfolds | shared
  · have complete := unfolds.complete
    cases unfolds with
    | intro path dependencies edges below =>
      refine ⟨_, edges, (List.filter_eq_self.mpr fun target _ => ?_).symm⟩
      exact decide_eq_true fun member => tidy.incomplete sound member complete
  · exact (tidy.shared _ _ shared).1

end Walk

namespace Module

/-- The graph of what a path reaches, without the cut edges: it has one module for each path, with
the declared edges that were not cut, and every cut edge leads to a module around its source. -/
structure Resolves (catalog : Catalog) (path : String) (cuts : List CycleBreak) (module : Module) :
    Prop where
  named : module.path = path
  onePerPath : module.OnePerPath
  keeps : ∀ inner : Module, inner.Within module → ∃ targets, catalog.edges? inner.path = some targets ∧
    inner.dependencyNames = Walk.uncut cuts inner.path targets
  closes : ∀ edge ∈ cuts, ∃ inner outer : Module, inner.Within outer ∧ outer.Within module ∧
    inner.path = edge.source ∧ outer.path = edge.target
  declared : ∀ edge ∈ cuts, catalog.Depends edge.source edge.target
  nodup : cuts.Nodup

end Module

/-- What a successful call of a sound resolver hands back. -/
theorem Resolver.Sound.resolves {catalog : Catalog} {resolver : Resolver} (sound : resolver.Sound catalog)
    {path : String} {module : Module} (resolved : (resolver.resolve path).result = .ok module) :
    module.Resolves catalog path (resolver.resolve path).resolver.cycleBreaks := by
  obtain ⟨walk, result, entered, gives, leaves⟩ := resolve_enters sound.grounded path
  obtain ⟨part, rfl, rfl⟩ := Walk.ok_of_map (gives.symm.trans resolved)
  have started := Walk.sound_start (sound.report [])
  have before := catalog.openBefore_nil path
  obtain ⟨walkSound, marked⟩ := entered.sound started before
  obtain ⟨tidy, _, settled, new, grown, charted⟩ :=
    entered.accounted started before (Walk.tidy_start catalog _) (by simp) part rfl
  rw [leaves]
  refine ⟨(marked part rfl).named, ?_, ?_, ?_, tidy.declared, tidy.nodup⟩
  · intro first second firstWithin secondWithin same
    exact (settled.within tidy firstWithin).unique walkSound (settled.within tidy secondWithin) same
  · intro inner within
    exact (settled.within tidy within).names tidy walkSound
  · intro edge member
    change edge ∈ walk.cuts at member
    rw [grown] at member
    obtain ⟨_, inner, within, named, back | ⟨outer, outerWithin, outerNamed, inside⟩⟩ := charted edge member
    · cases back
    · exact ⟨inner, outer, inside, outerWithin, named, outerNamed⟩

namespace Module.Resolves

variable {catalog : Catalog} {path : String} {cuts : List CycleBreak} {module : Module}

/-- An edge of an occurring module is either kept or cut. -/
theorem keeps_iff (resolves : module.Resolves catalog path cuts) {inner : Module} (within : inner.Within module)
    (target : String) : target ∈ inner.dependencyNames ↔
      catalog.Depends inner.path target ∧ ⟨inner.path, target⟩ ∉ cuts := by
  obtain ⟨targets, known, names⟩ := resolves.keeps inner within
  rw [names, Walk.uncut, List.mem_filter, decide_eq_true_iff]
  refine and_congr_left fun _ => ⟨fun member => ⟨targets, known, member⟩, ?_⟩
  intro depends
  obtain ⟨others, otherKnown, member⟩ := depends
  cases known.symm.trans otherKnown
  exact member

theorem depends_of_keeps (resolves : module.Resolves catalog path cuts) {source target : String}
    (kept : module.Keeps source target) : catalog.Depends source target := by
  obtain ⟨inner, within, rfl, member⟩ := kept
  exact ((resolves.keeps_iff within target).mp member).1

/-- No module is lost: the graph shows exactly what can be reached. -/
theorem within_iff (resolves : module.Resolves catalog path cuts) (target : String) :
    (∃ inner : Module, inner.Within module ∧ inner.path = target) ↔ catalog.Reaches path target := by
  constructor
  · intro occurs
    obtain ⟨inner, within, rfl⟩ := occurs
    rw [← resolves.named, Catalog.reaches_iff]
    exact ReflTransGen.mono (fun _ _ kept => resolves.depends_of_keeps kept) _ _ (within.keeps .itself)
  · intro reached
    rw [Catalog.reaches_iff] at reached
    induction reached with
    | refl => exact ⟨module, .itself, resolves.named⟩
    | @tail middle target _ depends ih =>
      obtain ⟨inner, within, rfl⟩ := ih
      -- A cut edge leads to a module around its source, so it does not leave the graph.
      by_cases cut : ⟨inner.path, target⟩ ∈ cuts
      · obtain ⟨_, outer, _, outerWithin, _, outerNamed⟩ := resolves.closes _ cut
        exact ⟨outer, outerWithin, outerNamed⟩
      · obtain ⟨dependency, member, named⟩ :=
          List.mem_map.mp ((resolves.keeps_iff within target).mpr ⟨depends, cut⟩)
        exact ⟨dependency, within.dependency member, named⟩

theorem keeps_of_depends (resolves : module.Resolves catalog path cuts) {source target : String}
    (reached : catalog.Reaches path source) (depends : catalog.Depends source target)
    (uncut : ⟨source, target⟩ ∉ cuts) : module.Keeps source target := by
  obtain ⟨inner, within, rfl⟩ := (resolves.within_iff source).mpr reached
  exact ⟨inner, within, rfl, (resolves.keeps_iff within target).mpr ⟨depends, uncut⟩⟩

/-- A cut edge's target still reaches its source, so the edge would close a cycle. -/
theorem cut_closes (resolves : module.Resolves catalog path cuts) {edge : CycleBreak} (cut : edge ∈ cuts) :
    TransGen module.Keeps edge.target edge.source := by
  obtain ⟨inner, outer, inside, outerWithin, named, outerNamed⟩ := resolves.closes edge cut
  have back := inside.keeps outerWithin
  rw [named, outerNamed] at back
  refine (reflTransGen_iff_eq_or_transGen.mp back).resolve_left fun same => ?_
  exact (Catalog.depends_iff.mp (resolves.declared edge cut)).2 same

/-- A cycle of declared edges that can be reached would be one of kept edges, if none were cut. -/
theorem cut_of_cycle (resolves : module.Resolves catalog path cuts) {source : String}
    (reached : catalog.Reaches path source) (cycle : TransGen catalog.Depends source source) : cuts ≠ [] := by
  intro none
  subst none
  have kept (target : String) (depends : TransGen catalog.Depends source target) :
      TransGen module.Keeps source target ∧ catalog.Reaches path target := by
    induction depends with
    | single depends =>
      exact ⟨.single (resolves.keeps_of_depends reached depends (by simp)),
        reached.tail (Catalog.depends_iff.mp depends).1⟩
    | tail _ depends ih =>
      exact ⟨ih.1.tail (resolves.keeps_of_depends ih.2 depends (by simp)),
        ih.2.tail (Catalog.depends_iff.mp depends).1⟩
  exact resolves.onePerPath.acyclic source (kept source cycle).1

/-- The source of a cut edge can be reached and lies on a cycle of declared edges. -/
theorem cycle_of_cut (resolves : module.Resolves catalog path cuts) {edge : CycleBreak} (cut : edge ∈ cuts) :
    catalog.Reaches path edge.source ∧ TransGen catalog.Depends edge.source edge.source := by
  obtain ⟨inner, _, inside, outerWithin, named, _⟩ := resolves.closes edge cut
  have back : TransGen catalog.Depends edge.target edge.source :=
    TransGen.mono (fun _ _ kept => resolves.depends_of_keeps kept) _ _ (resolves.cut_closes cut)
  exact ⟨(resolves.within_iff _).mp ⟨inner, inside.trans outerWithin, named⟩,
    .head (resolves.declared edge cut) back⟩

end Module.Resolves

namespace Module

/-- The cut of a graph is acyclic, coherent and minimal. -/
structure MinimallyCut (catalog : Catalog) (path : String) (cuts : List CycleBreak) (module : Module) :
    Prop where
  onePerPath : module.OnePerPath
  acyclic : ∀ source, ¬ TransGen module.Keeps source source
  /-- With any one of the cut edges put back, the kept edges have a cycle through it. -/
  closing : ∀ edge ∈ cuts, TransGen module.Keeps edge.target edge.source ∧
    TransGen (fun source target => module.Keeps source target ∨
      source = edge.source ∧ target = edge.target) edge.source edge.source
  uncut_iff : cuts = [] ↔ ¬ ∃ first second, first ≠ second ∧ catalog.Reaches path first ∧
    catalog.Reaches first second ∧ catalog.Reaches second first

end Module

/-- Whatever was called before, a resolved graph has one module for each path and no cycle of kept
edges; each edge it lacks would close a cycle with the kept ones; and it lacks none exactly if no
cycle of two or more modules can be reached. -/
theorem Resolver.resolve_minimallyCut (catalog : Catalog) (calls : List Resolver.Call) (path : String)
    (module : Module)
    (resolved : (((Resolver.new catalog).after calls).resolve path).result = .ok module) :
    module.MinimallyCut catalog path
      (((Resolver.new catalog).after calls).resolve path).resolver.cycleBreaks := by
  have resolves := (sound_after catalog calls).resolves resolved
  refine ⟨resolves.onePerPath, resolves.onePerPath.acyclic, fun edge cut => ?_, ?_, ?_⟩
  · have back := resolves.cut_closes cut
    exact ⟨back, .head (.inr ⟨rfl, rfl⟩) (TransGen.mono (fun _ _ kept => .inl kept) _ _ back)⟩
  · intro uncut round
    obtain ⟨first, second, different, reached, there, back⟩ := round
    have cycle := Catalog.transGen_depends_iff.mpr ⟨second, different, there, back⟩
    exact resolves.cut_of_cycle reached cycle uncut
  · intro acyclic
    refine List.eq_nil_iff_forall_not_mem.mpr fun edge cut => acyclic ?_
    obtain ⟨reached, cycle⟩ := resolves.cycle_of_cut cut
    obtain ⟨other, different, there, back⟩ := Catalog.transGen_depends_iff.mp cycle
    exact ⟨edge.source, other, different, reached, there, back⟩

/-- Three modules that all depend on each other. -/
def Catalog.entangled : Catalog :=
  .ofPairs [(":a", [":b", ":c"]), (":b", [":c", ":a"]), (":c", [":a", ":b"])]

theorem Resolver.resolve_entangled :
    (((Resolver.new .entangled).after [.resolve ":b"]).resolve ":a").result =
      .ok ⟨":a", [⟨":b", [⟨":c", []⟩]⟩, ⟨":c", []⟩]⟩ ∧
    (Module.mk ":a" [⟨":b", [⟨":c", []⟩]⟩, ⟨":c", []⟩]).MinimallyCut .entangled ":a"
      [⟨":c", ":a"⟩, ⟨":c", ":b"⟩, ⟨":b", ":a"⟩] :=
  ⟨rfl, resolve_minimallyCut .entangled [.resolve ":b"] ":a" _ rfl⟩

end DependencyDiagram
