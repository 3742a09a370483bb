import DependencyDiagram.Proofs.ResolverRun

/-!
What a resolver may keep. Modules kept for later calls are whole unfoldings, modules shared within a
call are not complete. Hence a traversal that finds a complete module gets the same part, and leaves
the same cuts, as one that has to resolve it, and two traversals of one path never differ.
-/

namespace DependencyDiagram

open Relation

namespace Catalog

/-- The open modules of a traversal that is about to enter `path`. -/
def OpenBefore (catalog : Catalog) (opened : List String) (path : String) : Prop :=
  ∀ other ∈ opened, TransGen catalog.Depends other path

/-- The open modules of a traversal that follows the edges of `source`, itself included. -/
def OpenAt (catalog : Catalog) (opened : List String) (source : String) : Prop :=
  ∀ other ∈ opened, ReflTransGen catalog.Depends other source

variable {catalog : Catalog} {opened : List String} {path source target : String}

theorem OpenBefore.enter (before : catalog.OpenBefore opened path) : catalog.OpenAt (path :: opened) path := by
  intro other member
  rcases List.mem_cons.mp member with rfl | outer
  · exact .refl
  · exact (before other outer).to_reflTransGen

theorem OpenAt.follow (at_ : catalog.OpenAt opened source) (depends : catalog.Depends source target) :
    catalog.OpenBefore opened target :=
  fun other member => TransGen.tail' (at_ other member) depends

/-- An edge back to an open module closes a cycle through its source. -/
theorem OpenAt.cycle (at_ : catalog.OpenAt opened source) (depends : catalog.Depends source target)
    (back : target ∈ opened) : TransGen catalog.Depends source source :=
  TransGen.head' depends (at_ target back)

theorem openBefore_nil (catalog : Catalog) (path : String) : catalog.OpenBefore [] path := by
  intro other member
  cases member

end Catalog

namespace Resolver

/-- Modules are kept for later calls only as whole unfoldings. -/
structure Sound (catalog : Catalog) (resolver : Resolver) : Prop where
  grounded : resolver.Grounded catalog
  keeps : ∀ path module, resolver.modules.lookup path = some module →
    module.path = path ∧ catalog.Unfolds module

theorem sound_new (catalog : Catalog) : (new catalog).Sound catalog :=
  ⟨grounded_new catalog, fun _ _ found => by simp [new] at found⟩

end Resolver

namespace Walk

structure Sound (catalog : Catalog) (walk : Walk) : Prop where
  resolver : walk.resolver.Sound catalog
  shares : ∀ path module, walk.truncated.lookup path = some module →
    module.path = path ∧ ¬ catalog.Complete path

/-- The mark of a part says whether its module is a whole unfolding. -/
structure Part.Marked (catalog : Catalog) (path : String) (part : Part) : Prop where
  named : part.module.path = path
  whole : part.truncated = false → catalog.Unfolds part.module
  lacking : part.truncated = true → ¬ catalog.Complete path

structure Parts.Marked (catalog : Catalog) (source : String) (targets : List String) (parts : Parts) :
    Prop where
  whole : parts.truncated = false → parts.modules.map (·.path) = targets ∧
    ∀ module ∈ parts.modules, catalog.Unfolds module
  lacking : parts.truncated = true → ¬ catalog.Complete source

variable {catalog : Catalog} {walk : Walk} {path : String}

theorem sound_start {resolver : Resolver} (sound : resolver.Sound catalog) : (start resolver).Sound catalog :=
  ⟨sound, fun _ _ found => by simp [start] at found⟩

theorem Sound.asked (sound : walk.Sound catalog) (path : String) : (walk.asked path).Sound catalog := by
  refine ⟨⟨Resolver.directDependencies_grounded sound.resolver.grounded path, ?_⟩, sound.shares⟩
  intro other module found
  rw [asked_modules] at found
  exact sound.resolver.keeps other module found

theorem Sound.answer (sound : walk.Sound catalog) {targets : List String}
    (answered : (walk.resolver.directDependencies path).result = .ok targets) :
    catalog.edges? path = some targets :=
  sound.resolver.grounded.answer answered

theorem Sound.edges (sound : walk.Sound catalog) {targets : List String}
    (answered : (walk.resolver.directDependencies path).result = .ok targets) :
    ∀ target ∈ targets, catalog.Depends path target :=
  fun _ member => ⟨targets, sound.answer answered, member⟩

theorem Sound.refusal (sound : walk.Sound catalog) {failure : Failure}
    (refused : (walk.resolver.directDependencies path).result = .error failure) :
    catalog.edges? path = none ∧ failure = .unknownModule path catalog.paths :=
  sound.resolver.grounded.refusal refused

theorem Sound.cut (sound : walk.Sound catalog) (edge : CycleBreak) : (walk.cut edge).Sound catalog :=
  ⟨sound.resolver, sound.shares⟩

theorem lookup_entry (module : Module) (entries : List (String × Module)) (path : String) :
    ((module.path, module) :: entries).lookup path =
      if path = module.path then some module else entries.lookup path := by
  rw [List.lookup_cons]
  by_cases same : path = module.path
  · simp [same]
  · rw [if_neg same, beq_false_of_ne same]

theorem of_lookup_entry {entries : List (String × Module)} {module other : Module}
    (found : ((module.path, module) :: entries).lookup path = some other) :
    (other = module ∧ module.path = path) ∨ entries.lookup path = some other := by
  rw [lookup_entry] at found
  split at found
  · next same => exact .inl ⟨(Option.some.inj found).symm, same.symm⟩
  · exact .inr found

theorem ok_of_map {α β : Type} {change : α → β} {result : Except Failure α} {made : β}
    (changed : result.map change = .ok made) : ∃ inner, result = .ok inner ∧ change inner = made := by
  cases result with
  | error failure => cases changed
  | ok inner => exact ⟨inner, rfl, Except.ok.inj changed⟩

/-- Keeping a marked module keeps the walk sound. -/
theorem Sound.keep (sound : walk.Sound catalog) {module : Module} {truncated : Bool}
    (marked : Part.Marked catalog module.path ⟨module, truncated⟩) :
    (walk.keep module truncated).Sound catalog := by
  have grounded := keep_grounded module truncated sound.resolver.grounded
  cases truncated with
  | false =>
    refine ⟨⟨grounded, fun path other found => ?_⟩, sound.shares⟩
    rcases of_lookup_entry found with ⟨rfl, same⟩ | earlier
    · exact ⟨same, marked.whole rfl⟩
    · exact sound.resolver.keeps path other earlier
  | true =>
    refine ⟨⟨grounded, sound.resolver.keeps⟩, fun path other found => ?_⟩
    rcases of_lookup_entry found with ⟨rfl, same⟩ | earlier
    · exact ⟨same, same ▸ marked.lacking rfl⟩
    · exact sound.shares path other earlier

/-- A module whose parts are all whole unfolds, one with a lacking part is not complete. -/
theorem Parts.Marked.module {targets : List String} {parts : Parts}
    (marked : parts.Marked catalog path targets) (known : catalog.edges? path = some targets) :
    Part.Marked catalog path ⟨⟨path, parts.modules⟩, parts.truncated⟩ where
  named := rfl
  whole := by
    intro uncut
    obtain ⟨paths, unfold⟩ := marked.whole uncut
    exact .intro path parts.modules (by rw [known, paths]) unfold
  lacking := marked.lacking

theorem Parts.Marked.truncated {targets : List String} {parts : Parts}
    (marked : parts.Marked catalog path targets) (known : catalog.edges? path = some targets)
    (incomplete : ¬ catalog.Complete path) : parts.truncated = true := by
  cases mark : parts.truncated with
  | false => exact absurd ((marked.module known).whole mark).complete incomplete
  | true => rfl

theorem marked_nil (catalog : Catalog) (source : String) : Parts.Marked catalog source [] ⟨[], false⟩ :=
  ⟨fun _ => ⟨rfl, by simp⟩, by simp⟩

theorem Parts.Marked.cut {source target : String} {targets opened : List String} {parts : Parts}
    (openAt : catalog.OpenAt opened source) (depends : catalog.Depends source target)
    (back : target ∈ opened) : parts.afterCut.Marked catalog source (target :: targets) where
  whole := by simp [Parts.afterCut]
  lacking := fun _ complete => complete.acyclic (openAt.cycle depends back)

theorem Parts.Marked.cons {source target : String} {targets : List String} {part : Part} {parts : Parts}
    (depends : catalog.Depends source target) (first : part.Marked catalog target)
    (rest : parts.Marked catalog source targets) :
    (part.before parts).Marked catalog source (target :: targets) := by
  constructor
  · intro uncut
    obtain ⟨firstUncut, restUncut⟩ := Bool.or_eq_false_iff.mp uncut
    obtain ⟨paths, unfold⟩ := rest.whole restUncut
    refine ⟨by simp [Part.before, first.named, paths], ?_⟩
    intro module member
    rcases List.mem_cons.mp member with rfl | later
    · exact first.whole firstUncut
    · exact unfold module later
  · intro truncated complete
    rcases Bool.or_eq_true_iff.mp truncated with here | later
    · exact first.lacking here (complete.of_depends depends)
    · exact rest.lacking later complete

mutual

theorem Enters.sound {opened : List String} {path : String} {walk after : Walk}
    {result : Except Failure Part} : Enters opened path walk after result → walk.Sound catalog →
    catalog.OpenBefore opened path →
    after.Sound catalog ∧ ∀ part, result = .ok part → part.Marked catalog path
  | .cached found, sound, _ => by
    obtain ⟨named, unfolds⟩ := sound.resolver.keeps _ _ found
    refine ⟨⟨sound.resolver, sound.shares⟩, ?_⟩
    intro part made
    cases made
    exact ⟨named, fun _ => unfolds, by simp⟩
  | .shared _ found, sound, _ => by
    obtain ⟨named, incomplete⟩ := sound.shares _ _ found
    refine ⟨sound, ?_⟩
    intro part made
    cases made
    exact ⟨named, by simp, fun _ => incomplete⟩
  | .unknown _ _ _, sound, _ => ⟨sound.asked path, by simp⟩
  | .failed _ _ answered below, sound, before => by
    exact ⟨(below.sound (sound.asked path) before.enter (sound.edges answered)).1, by simp⟩
  | .expanded _ _ answered below, sound, before => by
    obtain ⟨afterSound, marked⟩ := below.sound (sound.asked path) before.enter (sound.edges answered)
    have module := (marked _ rfl).module (sound.answer answered)
    refine ⟨afterSound.keep module, ?_⟩
    intro part made
    cases made
    exact module

theorem Follows.sound {opened targets : List String} {source : String} {walk after : Walk}
    {result : Except Failure Parts} : Follows opened source targets walk after result →
    walk.Sound catalog → catalog.OpenAt opened source →
    (∀ target ∈ targets, catalog.Depends source target) →
    after.Sound catalog ∧ ∀ parts, result = .ok parts → parts.Marked catalog source targets
  | .done, sound, _, _ => by
    refine ⟨sound, ?_⟩
    intro parts made
    cases made
    exact marked_nil catalog source
  | .cut back rest, sound, openAt, depends => by
    obtain ⟨edge, others⟩ := List.forall_mem_cons.mp depends
    refine ⟨(rest.sound (sound.cut _) openAt others).1, fun parts made => ?_⟩
    obtain ⟨inner, -, rfl⟩ := ok_of_map made
    exact .cut openAt edge back
  | .stopped _ first, sound, openAt, depends =>
    ⟨(first.sound sound (openAt.follow (List.forall_mem_cons.mp depends).1)).1, by simp⟩
  | .followed _ first rest, sound, openAt, depends => by
    obtain ⟨edge, others⟩ := List.forall_mem_cons.mp depends
    obtain ⟨betweenSound, marked⟩ := first.sound sound (openAt.follow edge)
    obtain ⟨afterSound, restMarked⟩ := rest.sound betweenSound openAt others
    refine ⟨afterSound, fun parts made => ?_⟩
    obtain ⟨inner, succeeded, rfl⟩ := ok_of_map made
    exact .cons edge (marked _ rfl) (restMarked inner succeeded)

end

/-- Two walks that share the same modules within the call and have cut the same edges. They may keep
different modules for later calls. -/
structure Alike (walk other : Walk) : Prop where
  truncated : walk.truncated = other.truncated
  cuts : walk.cuts = other.cuts

theorem Alike.trans {first second third : Walk} (left : first.Alike second) (right : second.Alike third) :
    first.Alike third :=
  ⟨left.truncated.trans right.truncated, left.cuts.trans right.cuts⟩

theorem Alike.symm {first second : Walk} (alike : first.Alike second) : second.Alike first :=
  ⟨alike.truncated.symm, alike.cuts.symm⟩

theorem Alike.cut {walk other : Walk} (alike : walk.Alike other) (edge : CycleBreak) :
    (walk.cut edge).Alike (other.cut edge) :=
  ⟨alike.truncated, by simp [alike.cuts]⟩

theorem Alike.asked {walk other : Walk} (alike : walk.Alike other) (path : String) :
    (walk.asked path).Alike (other.asked path) :=
  ⟨alike.truncated, alike.cuts⟩

theorem Alike.keep {walk other : Walk} (alike : walk.Alike other) (module : Module) (truncated : Bool) :
    (walk.keep module truncated).Alike (other.keep module truncated) := by
  cases truncated with
  | false => exact ⟨alike.truncated, alike.cuts⟩
  | true => exact ⟨by simp [alike.truncated], alike.cuts⟩

mutual

/-- A complete module always resolves to its unfolding, and nothing is cut on the way. -/
theorem Enters.of_complete {opened : List String} {path : String} {walk after : Walk}
    {result : Except Failure Part} : Enters opened path walk after result → walk.Sound catalog →
    catalog.OpenBefore opened path → catalog.Complete path →
    (∃ module, result = .ok ⟨module, false⟩) ∧ after.Alike walk
  | .cached _, _, _, _ => ⟨⟨_, rfl⟩, rfl, rfl⟩
  | .shared _ found, sound, _, complete => absurd complete (sound.shares _ _ found).2
  | .unknown _ _ refused, sound, _, complete => by
    obtain ⟨targets, known⟩ := complete.known
    simp [(sound.refusal refused).1] at known
  | .failed _ _ answered below, sound, before, complete => by
    obtain ⟨⟨modules, made⟩, _⟩ :=
      below.of_complete (sound.asked path) before.enter (sound.edges answered) complete
    cases made
  | .expanded _ _ answered below, sound, before, complete => by
    obtain ⟨⟨modules, made⟩, alike⟩ :=
      below.of_complete (sound.asked path) before.enter (sound.edges answered) complete
    cases made
    exact ⟨⟨_, rfl⟩, alike.truncated, alike.cuts⟩

theorem Follows.of_complete {opened targets : List String} {source : String} {walk after : Walk}
    {result : Except Failure Parts} : Follows opened source targets walk after result →
    walk.Sound catalog → catalog.OpenAt opened source →
    (∀ target ∈ targets, catalog.Depends source target) → catalog.Complete source →
    (∃ modules, result = .ok ⟨modules, false⟩) ∧ after.Alike walk
  | .done, _, _, _, _ => ⟨⟨[], rfl⟩, rfl, rfl⟩
  | .cut back _, _, openAt, depends, complete =>
    absurd (openAt.cycle (List.forall_mem_cons.mp depends).1 back) complete.acyclic
  | .stopped _ first, sound, openAt, depends, complete => by
    have edge := (List.forall_mem_cons.mp depends).1
    obtain ⟨⟨module, made⟩, _⟩ := first.of_complete sound (openAt.follow edge) (complete.of_depends edge)
    cases made
  | .followed _ first rest, sound, openAt, depends, complete => by
    obtain ⟨edge, others⟩ := List.forall_mem_cons.mp depends
    have betweenSound := (first.sound sound (openAt.follow edge)).1
    obtain ⟨⟨module, made⟩, firstAlike⟩ :=
      first.of_complete sound (openAt.follow edge) (complete.of_depends edge)
    obtain ⟨⟨modules, rfl⟩, restAlike⟩ := rest.of_complete betweenSound openAt others complete
    cases made
    exact ⟨⟨module :: modules, rfl⟩, restAlike.trans firstAlike⟩

end

theorem Enters.agree_of_complete {opened : List String} {path : String}
    {walk after other otherAfter : Walk} {result otherResult : Except Failure Part}
    (left : Enters opened path walk after result) (right : Enters opened path other otherAfter otherResult)
    (sound : walk.Sound catalog) (otherSound : other.Sound catalog) (alike : walk.Alike other)
    (before : catalog.OpenBefore opened path) (complete : catalog.Complete path) :
    result = otherResult ∧ after.Alike otherAfter := by
  obtain ⟨⟨module, rfl⟩, unchanged⟩ := left.of_complete sound before complete
  obtain ⟨⟨otherModule, rfl⟩, otherUnchanged⟩ := right.of_complete otherSound before complete
  have marked := (left.sound sound before).2 _ rfl
  have otherMarked := (right.sound otherSound before).2 _ rfl
  have same : module = otherModule := (marked.whole rfl).unique (otherMarked.whole rfl)
    (marked.named.trans otherMarked.named.symm)
  exact ⟨by rw [same], unchanged.trans (alike.trans otherUnchanged.symm)⟩

/-- A module that is not complete is not at hand in a sound walk. -/
theorem Sound.uncached (sound : walk.Sound catalog) (incomplete : ¬ catalog.Complete path) {module : Module} :
    walk.resolver.modules.lookup path ≠ some module := by
  intro found
  obtain ⟨named, unfolds⟩ := sound.resolver.keeps path module found
  exact incomplete ⟨module, unfolds, named⟩

/-- A known module that is neither complete nor shared is expanded. -/
theorem Enters.expands {opened targets : List String} {path : String} {walk after : Walk}
    {result : Except Failure Part} (enters : Enters opened path walk after result)
    (sound : walk.Sound catalog) (incomplete : ¬ catalog.Complete path)
    (unfinished : walk.truncated.lookup path = none) (known : catalog.edges? path = some targets) :
    (∃ failure, result = .error failure ∧
      Follows (path :: opened) path targets (walk.asked path) after (.error failure)) ∨
    (∃ between parts, result = .ok ⟨⟨path, parts.modules⟩, parts.truncated⟩ ∧
      after = between.keep ⟨path, parts.modules⟩ parts.truncated ∧
      Follows (path :: opened) path targets (walk.asked path) between (.ok parts)) := by
  cases enters with
  | cached found => exact absurd found (sound.uncached incomplete)
  | shared _ found => simp [found] at unfinished
  | unknown _ _ refused => simp [(sound.refusal refused).1] at known
  | failed _ _ answered below =>
    obtain rfl := Option.some.inj ((sound.answer answered).symm.trans known)
    exact .inl ⟨_, rfl, below⟩
  | expanded _ _ answered below =>
    obtain rfl := Option.some.inj ((sound.answer answered).symm.trans known)
    exact .inr ⟨_, _, rfl, rfl, below⟩

mutual

/-- Two sound walks that are alike stay alike and get the same result, whatever each of them keeps:
where only one has the module at hand, the module is complete. -/
theorem Enters.agree {opened : List String} {path : String} {walk after other otherAfter : Walk}
    {result otherResult : Except Failure Part} : Enters opened path walk after result →
    Enters opened path other otherAfter otherResult → walk.Sound catalog → other.Sound catalog →
    walk.Alike other → catalog.OpenBefore opened path → result = otherResult ∧ after.Alike otherAfter
  | .cached found, right, sound, otherSound, alike, before => by
    obtain ⟨named, unfolds⟩ := sound.resolver.keeps _ _ found
    exact (Enters.cached found).agree_of_complete right sound otherSound alike before ⟨_, unfolds, named⟩
  | .shared _ found, right, sound, otherSound, alike, _ => by
    have incomplete := (sound.shares _ _ found).2
    rw [alike.truncated] at found
    cases right with
    | cached otherFound => exact absurd otherFound (otherSound.uncached incomplete)
    | shared _ otherFound =>
      cases found.symm.trans otherFound
      exact ⟨rfl, alike⟩
    | unknown _ unfinished _ => simp [unfinished] at found
    | failed _ unfinished _ _ => simp [unfinished] at found
    | expanded _ unfinished _ _ => simp [unfinished] at found
  | .unknown _ unfinished refused, right, sound, otherSound, alike, _ => by
    obtain ⟨absent, rfl⟩ := sound.refusal refused
    rw [alike.truncated] at unfinished
    cases right with
    | cached found =>
      obtain ⟨named, unfolds⟩ := otherSound.resolver.keeps _ _ found
      obtain ⟨targets, known⟩ := Catalog.Complete.known ⟨_, unfolds, named⟩
      simp [known] at absent
    | shared _ found => simp [found] at unfinished
    | unknown _ _ otherRefused =>
      obtain ⟨_, rfl⟩ := otherSound.refusal otherRefused
      exact ⟨rfl, alike.truncated, alike.cuts⟩
    | failed _ _ answered _ => simp [otherSound.answer answered] at absent
    | expanded _ _ answered _ => simp [otherSound.answer answered] at absent
  | .failed uncached unfinished answered below, right, sound, otherSound, alike, before => by
    -- If the module is not complete, the other walk cannot have it at hand either and expands it too.
    by_cases complete : catalog.Complete path
    · exact (Enters.failed uncached unfinished answered below).agree_of_complete right sound otherSound
        alike before complete
    · have belowAlike := alike.asked path
      rw [alike.truncated] at unfinished
      rcases right.expands otherSound complete unfinished (sound.answer answered) with
        ⟨failure, rfl, otherBelow⟩ | ⟨between, parts, rfl, rfl, otherBelow⟩
      · obtain ⟨same, afterAlike⟩ := below.agree otherBelow (sound.asked path) (otherSound.asked path)
          belowAlike before.enter (sound.edges answered)
        cases same
        exact ⟨rfl, afterAlike⟩
      · cases (below.agree otherBelow (sound.asked path) (otherSound.asked path)
          belowAlike before.enter (sound.edges answered)).1
  | .expanded uncached unfinished answered below, right, sound, otherSound, alike, before => by
    by_cases complete : catalog.Complete path
    · exact (Enters.expanded uncached unfinished answered below).agree_of_complete right sound otherSound
        alike before complete
    · have belowAlike := alike.asked path
      rw [alike.truncated] at unfinished
      rcases right.expands otherSound complete unfinished (sound.answer answered) with
        ⟨failure, rfl, otherBelow⟩ | ⟨between, parts, rfl, rfl, otherBelow⟩
      · cases (below.agree otherBelow (sound.asked path) (otherSound.asked path)
          belowAlike before.enter (sound.edges answered)).1
      · obtain ⟨same, afterAlike⟩ := below.agree otherBelow (sound.asked path) (otherSound.asked path)
          belowAlike before.enter (sound.edges answered)
        cases same
        exact ⟨rfl, afterAlike.keep _ _⟩

theorem Follows.agree {opened targets : List String} {source : String}
    {walk after other otherAfter : Walk} {result otherResult : Except Failure Parts} :
    Follows opened source targets walk after result →
    Follows opened source targets other otherAfter otherResult → walk.Sound catalog →
    other.Sound catalog → walk.Alike other → catalog.OpenAt opened source →
    (∀ target ∈ targets, catalog.Depends source target) → result = otherResult ∧ after.Alike otherAfter
  | .done, right, _, _, alike, _, _ => by
    cases right with
    | done => exact ⟨rfl, alike⟩
  | .cut back rest, right, sound, otherSound, alike, openAt, depends => by
    have others := (List.forall_mem_cons.mp depends).2
    cases right with
    | cut _ otherRest =>
      obtain ⟨rfl, restAlike⟩ :=
        rest.agree otherRest (sound.cut _) (otherSound.cut _) (alike.cut _) openAt others
      exact ⟨rfl, restAlike⟩
    | stopped forward _ => exact absurd back forward
    | followed forward _ _ => exact absurd back forward
  | .stopped forward first, right, sound, otherSound, alike, openAt, depends => by
    have before := openAt.follow (List.forall_mem_cons.mp depends).1
    cases right with
    | cut back _ => exact absurd back forward
    | stopped _ otherFirst =>
      obtain ⟨same, firstAlike⟩ := first.agree otherFirst sound otherSound alike before
      cases same
      exact ⟨rfl, firstAlike⟩
    | followed _ otherFirst _ =>
      cases (first.agree otherFirst sound otherSound alike before).1
  | .followed forward first rest, right, sound, otherSound, alike, openAt, depends => by
    obtain ⟨edge, others⟩ := List.forall_mem_cons.mp depends
    have before := openAt.follow edge
    cases right with
    | cut back _ => exact absurd back forward
    | stopped _ otherFirst =>
      cases (first.agree otherFirst sound otherSound alike before).1
    | followed _ otherFirst otherRest =>
      obtain ⟨same, firstAlike⟩ := first.agree otherFirst sound otherSound alike before
      cases same
      obtain ⟨rfl, restAlike⟩ := rest.agree otherRest (first.sound sound before).1
        (otherFirst.sound otherSound before).1 firstAlike openAt others
      exact ⟨rfl, restAlike⟩

end

end Walk

end DependencyDiagram
