import DependencyDiagram.Proofs.UnknownModules

/-!
How kept modules accumulate. A traversal keeps modules in addition to those it starts with, each of them once
and only after all that it needs. What a module with a cut below it needs is at hand or still open, so at the
end of a successful traversal everything that can be reached is at hand.
-/

namespace DependencyDiagram

namespace Resolver

/-- The paths of the modules kept for later calls. -/
def keptPaths (resolver : Resolver) : List String := resolver.modules.map Prod.fst

theorem mem_keys {α : Type} {entries : List (String × α)} {key : String} :
    key ∈ entries.map Prod.fst ↔ entries.lookup key ≠ none := by
  rw [Option.ne_none_iff_isSome, List.lookup_isSome_iff, List.mem_map]
  simp

theorem mem_keptPaths {resolver : Resolver} {path : String} :
    path ∈ resolver.keptPaths ↔ resolver.modules.lookup path ≠ none := mem_keys

/-- No module is kept twice, and none without those that it needs. -/
structure Stocked (catalog : Catalog) (resolver : Resolver) : Prop where
  distinct : resolver.keptPaths.Nodup
  below : ∀ path ∈ resolver.keptPaths, ∀ target, catalog.Depends path target → target ∈ resolver.keptPaths

theorem stocked_new (catalog : Catalog) : (new catalog).Stocked catalog :=
  ⟨List.nodup_nil, fun _ member => absurd member List.not_mem_nil⟩

end Resolver

namespace Walk

variable {catalog : Catalog} {opened targets : List String} {path source target : String}
variable {walk between after : Walk} {module : Module}

@[simp] theorem asked_keptPaths (path : String) : (walk.asked path).resolver.keptPaths = walk.resolver.keptPaths := by
  rw [Resolver.keptPaths, asked_modules, Resolver.keptPaths]

theorem AtHand.cases (atHand : walk.AtHand path) :
    path ∈ walk.resolver.keptPaths ∨ walk.truncated.lookup path ≠ none :=
  atHand.imp_left Resolver.mem_keptPaths.mpr

/-- A walk goes on from another one: what was shared still is, and to what was kept only modules have been
added that can be reached from a path. -/
structure Extends (catalog : Catalog) (path : String) (walk after : Walk) : Prop where
  shared : ∀ other, walk.truncated.lookup other ≠ none → after.truncated.lookup other ≠ none
  kept : ∃ new, after.resolver.keptPaths = new ++ walk.resolver.keptPaths ∧
    ∀ other ∈ new, catalog.Reaches path other

theorem extends_of_eq (truncated : after.truncated = walk.truncated)
    (modules : after.resolver.modules = walk.resolver.modules) : Extends catalog path walk after := by
  refine ⟨fun other => by rw [truncated]; exact id, [], ?_, by simp⟩
  rw [Resolver.keptPaths, modules, List.nil_append, Resolver.keptPaths]

theorem Extends.trans (first : Extends catalog path walk between) (second : Extends catalog path between after) :
    Extends catalog path walk after := by
  obtain ⟨firstNew, firstGrown, firstReached⟩ := first.kept
  obtain ⟨secondNew, secondGrown, secondReached⟩ := second.kept
  refine ⟨fun other found => second.shared other (first.shared other found), secondNew ++ firstNew, ?_, ?_⟩
  · rw [secondGrown, firstGrown, List.append_assoc]
  · exact List.forall_mem_append.mpr ⟨secondReached, firstReached⟩

/-- What can be reached from a dependency can be reached from the module itself. -/
theorem Extends.from (extended : Extends catalog target walk after) (depends : catalog.Depends source target) :
    Extends catalog source walk after := by
  obtain ⟨new, grown, reached⟩ := extended.kept
  refine ⟨extended.shared, new, grown, fun other member => ?_⟩
  exact .head (Catalog.depends_iff.mp depends).1 (reached other member)

theorem extends_asked (walk : Walk) (path : String) : Extends catalog path walk (walk.asked path) :=
  extends_of_eq rfl (asked_modules walk path)

theorem extends_cut (walk : Walk) (edge : CycleBreak) : Extends catalog path walk (walk.cut edge) :=
  extends_of_eq rfl rfl

theorem extends_keep (walk : Walk) (path : String) (modules : List Module) (truncated : Bool) :
    Extends catalog path walk (walk.keep ⟨path, modules⟩ truncated) := by
  cases truncated with
  | false => exact ⟨fun _ => id, [path], rfl, by simpa using .refl⟩
  | true =>
    refine ⟨fun other found => ?_, [], rfl, by simp⟩
    rw [keep_part_truncated, lookup_entry]
    split
    · simp
    · exact found

theorem Extends.atHand (extended : Extends catalog path walk after) {other : String} (atHand : walk.AtHand other) :
    after.AtHand other := by
  obtain ⟨new, grown, _⟩ := extended.kept
  rcases atHand.cases with kept | shared
  · left
    rw [← Resolver.mem_keptPaths, grown]
    exact List.mem_append_right new kept
  · exact .inr (extended.shared other shared)

mutual

theorem Enters.extends {opened : List String} {path : String} {walk after : Walk}
    {result : Except Failure Part} : Enters opened path walk after result → walk.resolver.Grounded catalog →
    Extends catalog path walk after
  | .cached _, _ => extends_of_eq rfl rfl
  | .shared _ _, _ => extends_of_eq rfl rfl
  | .unknown _ _ _, _ => extends_asked walk path
  | .failed _ _ answered below, grounded =>
    (extends_asked walk path).trans (below.extends (Resolver.directDependencies_grounded grounded path)
      fun _ member => ⟨_, grounded.answer answered, member⟩)
  | .expanded _ _ answered below, grounded =>
    ((extends_asked walk path).trans (below.extends (Resolver.directDependencies_grounded grounded path)
      fun _ member => ⟨_, grounded.answer answered, member⟩)).trans (extends_keep _ _ _ _)

theorem Follows.extends {opened targets : List String} {source : String} {walk after : Walk}
    {result : Except Failure Parts} : Follows opened source targets walk after result →
    walk.resolver.Grounded catalog → (∀ target ∈ targets, catalog.Depends source target) →
    Extends catalog source walk after
  | .done, _, _ => extends_of_eq rfl rfl
  | .cut _ rest, grounded, depends =>
    (extends_cut walk _).trans (rest.extends grounded (List.forall_mem_cons.mp depends).2)
  | .stopped _ first, grounded, depends =>
    (first.extends grounded).from (List.forall_mem_cons.mp depends).1
  | .followed _ first rest, grounded, depends => by
    obtain ⟨edge, others⟩ := List.forall_mem_cons.mp depends
    exact ((first.extends grounded).from edge).trans (rest.extends (first.grounded grounded) others)

end

/-- What shared modules need is at hand unless it is open, and nothing that is open is kept. -/
structure Stocked (catalog : Catalog) (opened : List String) (walk : Walk) : Prop where
  resolver : walk.resolver.Stocked catalog
  uncached : ∀ path ∈ opened, path ∉ walk.resolver.keptPaths
  frontier : ∀ path, walk.truncated.lookup path ≠ none → ∀ target, catalog.Depends path target →
    target ∈ opened ∨ walk.AtHand target

theorem stocked_start {resolver : Resolver} (stocked : resolver.Stocked catalog) :
    (start resolver).Stocked catalog [] :=
  ⟨stocked, by simp, by simp [start]⟩

theorem Stocked.open (stocked : walk.Stocked catalog opened) (uncached : walk.resolver.modules.lookup path = none) :
    (walk.asked path).Stocked catalog (path :: opened) := by
  have kept : (walk.asked path).resolver.keptPaths = walk.resolver.keptPaths := asked_keptPaths path
  have extended : Extends catalog path walk (walk.asked path) := extends_asked walk path
  obtain ⟨distinct, below⟩ := stocked.resolver
  refine ⟨⟨?_, ?_⟩, ?_, ?_⟩
  · rwa [kept]
  · rwa [kept]
  · rw [kept]
    refine List.forall_mem_cons.mpr ⟨fun member => ?_, stocked.uncached⟩
    exact Resolver.mem_keptPaths.mp member uncached
  · intro other shared target depends
    rcases stocked.frontier other shared target depends with isOpen | atHand
    · exact .inl (List.mem_cons_of_mem path isOpen)
    · exact .inr (extended.atHand atHand)

theorem Stocked.cut (stocked : walk.Stocked catalog opened) (edge : CycleBreak) :
    (walk.cut edge).Stocked catalog opened :=
  ⟨stocked.resolver, stocked.uncached, stocked.frontier⟩

/-- Of what is at hand in a sound walk the complete modules are kept. -/
theorem Sound.kept (sound : walk.Sound catalog) (atHand : walk.AtHand path) (complete : catalog.Complete path) :
    path ∈ walk.resolver.keptPaths := by
  rcases atHand.cases with kept | shared
  · exact kept
  · obtain ⟨module, found⟩ := Option.ne_none_iff_exists'.mp shared
    exact absurd complete (sound.shares path module found).2

/-- A module is kept for good when all that it needs is kept. -/
theorem Stocked.closeWhole {modules : List Module} (stocked : walk.Stocked catalog (path :: opened))
    (closed : path ∉ opened) (needs : ∀ target, catalog.Depends path target → target ∈ walk.resolver.keptPaths) :
    (walk.keep ⟨path, modules⟩ false).Stocked catalog opened := by
  obtain ⟨unkept, openUncached⟩ := List.forall_mem_cons.mp stocked.uncached
  refine ⟨⟨List.nodup_cons.mpr ⟨unkept, stocked.resolver.distinct⟩, ?_⟩, ?_, ?_⟩
  · refine List.forall_mem_cons.mpr ⟨fun target depends => List.mem_cons_of_mem _ (needs target depends), ?_⟩
    exact fun other kept target depends => List.mem_cons_of_mem _ (stocked.resolver.below other kept target depends)
  · intro other isOpen kept
    rcases List.mem_cons.mp kept with rfl | before
    · exact closed isOpen
    · exact openUncached other isOpen before
  · intro other shared target depends
    rw [atHand_keep, ← or_assoc, or_comm (a := target ∈ opened), ← List.mem_cons]
    exact stocked.frontier other shared target depends

theorem Stocked.closePart {modules : List Module} (stocked : walk.Stocked catalog (path :: opened))
    (needs : ∀ target, catalog.Depends path target → target ∈ path :: opened ∨ walk.AtHand target) :
    (walk.keep ⟨path, modules⟩ true).Stocked catalog opened := by
  refine ⟨stocked.resolver, (List.forall_mem_cons.mp stocked.uncached).2, ?_⟩
  intro other shared target depends
  rw [atHand_keep, ← or_assoc, or_comm (a := target ∈ opened), ← List.mem_cons]
  rw [keep_part_truncated, lookup_entry] at shared
  split at shared
  · next same =>
    subst same
    exact needs target depends
  · exact stocked.frontier other shared target depends

mutual

/-- However it ends, a traversal leaves a stocked resolver; if it succeeds, its module is at hand. -/
theorem Enters.stocked {opened : List String} {path : String} {walk after : Walk}
    {result : Except Failure Part} : Enters opened path walk after result → walk.Sound catalog →
    catalog.OpenBefore opened path → path ∉ opened → walk.Stocked catalog opened →
    after.resolver.Stocked catalog ∧
      ∀ part, result = .ok part → after.Stocked catalog opened ∧ after.AtHand path
  | .cached found, _, _, _, stocked =>
    ⟨stocked.resolver, fun _ _ => ⟨⟨stocked.resolver, stocked.uncached, stocked.frontier⟩, .inl (by simp [found])⟩⟩
  | .shared _ found, _, _, _, stocked =>
    ⟨stocked.resolver, fun _ _ => ⟨stocked, .inr (by simp [found])⟩⟩
  | .unknown uncached _ _, _, _, _, stocked => ⟨(stocked.open uncached).resolver, by simp⟩
  | .failed uncached _ answered below, sound, before, _, stocked =>
    ⟨(below.stocked (sound.asked path) before.enter (sound.edges answered) (stocked.open uncached)).1, by simp⟩
  | @Enters.expanded _ _ _ between _ parts uncached _ answered below, sound, before, closed, stocked => by
    have edges := sound.edges answered
    obtain ⟨betweenSound, marked⟩ := below.sound (sound.asked path) before.enter edges
    obtain ⟨_, finished⟩ := below.stocked (sound.asked path) before.enter edges (stocked.open uncached)
    obtain ⟨betweenStocked, needs⟩ := finished _ rfl
    have module := (marked _ rfl).module (sound.answer answered)
    have needed (target : String) (depends : catalog.Depends path target) :
        target ∈ path :: opened ∨ between.AtHand target := by
      obtain ⟨others, known, member⟩ := depends
      obtain rfl := Option.some.inj ((sound.answer answered).symm.trans known)
      exact needs target member
    have kept : (between.keep ⟨path, parts.modules⟩ parts.truncated).Stocked catalog opened := by
      cases mark : parts.truncated with
      | true => exact betweenStocked.closePart needed
      | false =>
        have complete := (module.whole mark).complete
        refine betweenStocked.closeWhole closed fun target depends => ?_
        -- An edge to an open module would put the complete module on a cycle.
        have atHand := (needed target depends).resolve_left fun back =>
          complete.acyclic (before.enter.cycle depends back)
        exact betweenSound.kept atHand (complete.of_depends depends)
    exact ⟨kept.resolver, fun _ _ => ⟨kept, (atHand_keep _ _ _ _).mpr (.inl rfl)⟩⟩

theorem Follows.stocked {opened targets : List String} {source : String} {walk after : Walk}
    {result : Except Failure Parts} : Follows opened source targets walk after result → walk.Sound catalog →
    catalog.OpenAt opened source → (∀ target ∈ targets, catalog.Depends source target) →
    walk.Stocked catalog opened → after.resolver.Stocked catalog ∧
      ∀ parts, result = .ok parts → after.Stocked catalog opened ∧
        ∀ target ∈ targets, target ∈ opened ∨ after.AtHand target
  | .done, _, _, _, stocked => ⟨stocked.resolver, fun _ _ => ⟨stocked, by simp⟩⟩
  | .cut back rest, sound, openAt, depends, stocked => by
    obtain ⟨kept, finished⟩ := rest.stocked (sound.cut _) openAt (List.forall_mem_cons.mp depends).2 (stocked.cut _)
    refine ⟨kept, fun parts made => ?_⟩
    obtain ⟨inner, succeeded, -⟩ := ok_of_map made
    obtain ⟨afterStocked, needs⟩ := finished inner succeeded
    exact ⟨afterStocked, List.forall_mem_cons.mpr ⟨.inl back, needs⟩⟩
  | .stopped forward first, sound, openAt, depends, stocked => by
    have before := openAt.follow (List.forall_mem_cons.mp depends).1
    exact ⟨(first.stocked sound before forward stocked).1, by simp⟩
  | .followed forward first rest, sound, openAt, depends, stocked => by
    obtain ⟨edge, others⟩ := List.forall_mem_cons.mp depends
    have before := openAt.follow edge
    have betweenSound := (first.sound sound before).1
    obtain ⟨betweenStocked, atHand⟩ := (first.stocked sound before forward stocked).2 _ rfl
    obtain ⟨kept, finished⟩ := rest.stocked betweenSound openAt others betweenStocked
    refine ⟨kept, fun parts made => ?_⟩
    obtain ⟨inner, succeeded, -⟩ := ok_of_map made
    obtain ⟨afterStocked, needs⟩ := finished inner succeeded
    have still := (rest.extends betweenSound.resolver.grounded others).atHand atHand
    exact ⟨afterStocked, List.forall_mem_cons.mpr ⟨.inr still, needs⟩⟩

end

end Walk

end DependencyDiagram
