import DependencyDiagram.Proofs.CallHistory
import DependencyDiagram.Proofs.ModuleGraph

/-!
Where a traversal cuts. A cut edge leaves a module that is being expanded and leads to an open one,
which will contain it: once the traversal has ended, every cut edge leads back to a module around its
source. The modules shared within the call keep exactly the edges that were not cut.
-/

namespace DependencyDiagram

namespace Module

/-- The edge leaves a module inside this one, towards an open module or back to a module around its
source. -/
def Charts (module : Module) (opened : List String) (edge : CycleBreak) : Prop :=
  ∃ inner : Module, inner.Within module ∧ inner.path = edge.source ∧
    (edge.target ∈ opened ∨
      ∃ outer : Module, outer.Within module ∧ outer.path = edge.target ∧ inner.Within outer)

/-- An edge to the module itself turns back inside it once it is closed. -/
theorem Charts.close {dependency module : Module} {opened : List String} {edge : CycleBreak}
    (charts : dependency.Charts (module.path :: opened) edge)
    (member : dependency ∈ module.dependencies) : module.Charts opened edge := by
  obtain ⟨inner, within, named, leads⟩ := charts
  refine ⟨inner, .deeper member within, named, ?_⟩
  rcases leads with back | ⟨outer, outerWithin, outerNamed, inside⟩
  · rcases List.mem_cons.mp back with same | further
    · exact .inr ⟨module, .itself, same.symm, .deeper member within⟩
    · exact .inl further
  · exact .inr ⟨outer, .deeper member outerWithin, outerNamed, inside⟩

end Module

namespace Walk

/-- The module is its path's whole unfolding, or it is the one shared for its path. -/
def Settled (catalog : Catalog) (shared : List (String × Module)) (module : Module) : Prop :=
  catalog.Unfolds module ∨ shared.lookup module.path = some module

/-- The edges of a known module that were not cut. -/
def uncut (cuts : List CycleBreak) (source : String) (targets : List String) : List String :=
  targets.filter (⟨source, ·⟩ ∉ cuts)

/-- The cuts of a traversal account for what its shared modules lack. -/
structure Tidy (catalog : Catalog) (opened : List String) (walk : Walk) : Prop where
  shared : ∀ path module, walk.truncated.lookup path = some module →
    (∃ targets, catalog.edges? path = some targets ∧
      module.dependencyNames = uncut walk.cuts path targets) ∧
    ∀ dependency ∈ module.dependencies, Settled catalog walk.truncated dependency
  unfinished : ∀ path ∈ opened, walk.truncated.lookup path = none
  attributed : ∀ edge ∈ walk.cuts, edge.source ∈ opened ∨ walk.truncated.lookup edge.source ≠ none
  declared : ∀ edge ∈ walk.cuts, catalog.Depends edge.source edge.target
  nodup : walk.cuts.Nodup

/-- Modules shared in one walk are still shared in the other. -/
def Persists (walk after : Walk) : Prop :=
  ∀ path module, walk.truncated.lookup path = some module → after.truncated.lookup path = some module

structure Part.Accounted (catalog : Catalog) (opened : List String) (walk after : Walk) (part : Part) :
    Prop where
  tidy : after.Tidy catalog opened
  persists : walk.Persists after
  settled : Settled catalog after.truncated part.module
  cuts : ∃ new, after.cuts = walk.cuts ++ new ∧
    ∀ edge ∈ new, edge.source ∉ opened ∧ part.module.Charts opened edge

structure Parts.Accounted (catalog : Catalog) (opened : List String) (source : String)
    (targets : List String) (walk after : Walk) (parts : Parts) : Prop where
  tidy : after.Tidy catalog opened
  persists : walk.Persists after
  settled : ∀ module ∈ parts.modules, Settled catalog after.truncated module
  names : parts.modules.map (·.path) = targets.filter (· ∉ opened)
  cuts : ∃ new, after.cuts = walk.cuts ++ new ∧
    (∀ target ∈ targets, target ∈ opened → ⟨source, target⟩ ∈ new) ∧
    ∀ edge ∈ new, (edge.source = source ∧ edge.target ∈ targets ∧ edge.target ∈ opened) ∨
      (edge.source ∉ opened ∧ ∃ module ∈ parts.modules, module.Charts opened edge)

variable {catalog : Catalog} {opened targets : List String} {path source : String}
variable {walk between after : Walk} {module : Module}

theorem Persists.trans (first : walk.Persists between) (second : between.Persists after) :
    walk.Persists after :=
  fun path module found => second path module (first path module found)

theorem Settled.persist (settled : Settled catalog walk.truncated module) (persists : walk.Persists after) :
    Settled catalog after.truncated module :=
  settled.imp_right (persists _ _)

theorem Alike.persists (alike : after.Alike walk) : walk.Persists after :=
  fun path module found => by rw [alike.truncated]; exact found

theorem Tidy.alike (tidy : walk.Tidy catalog opened) (alike : after.Alike walk) :
    after.Tidy catalog opened := by
  obtain ⟨shared, unfinished, attributed, declared, nodup⟩ := tidy
  rw [← alike.cuts, ← alike.truncated] at *
  exact ⟨shared, unfinished, attributed, declared, nodup⟩

theorem tidy_start (catalog : Catalog) (resolver : Resolver) : (start resolver).Tidy catalog [] := by
  constructor <;> simp [start]

/-- An unknown or unfinished module that is not open has no cut edge. -/
theorem Tidy.uncharged (tidy : walk.Tidy catalog opened) (closed : path ∉ opened)
    (unfinished : walk.truncated.lookup path = none) (target : String) : ⟨path, target⟩ ∉ walk.cuts := by
  intro member
  rcases tidy.attributed _ member with isOpen | finished
  · exact closed isOpen
  · exact finished unfinished

theorem Tidy.open (tidy : walk.Tidy catalog opened) (unfinished : walk.truncated.lookup path = none) :
    (walk.asked path).Tidy catalog (path :: opened) where
  shared := tidy.shared
  unfinished := by
    intro other member
    rcases List.mem_cons.mp member with rfl | outer
    · exact unfinished
    · exact tidy.unfinished other outer
  attributed := fun edge member => (tidy.attributed edge member).imp_left (List.mem_cons_of_mem path)
  declared := tidy.declared
  nodup := tidy.nodup

theorem uncut_append_of_ne {cuts : List CycleBreak} {edge : CycleBreak} (different : edge.source ≠ path) :
    uncut (cuts ++ [edge]) path targets = uncut cuts path targets := by
  apply List.filter_congr
  intro target _
  have other : (⟨path, target⟩ : CycleBreak) ≠ edge := by
    intro same
    subst same
    exact different rfl
  simp [other]

theorem Tidy.cut {target : String} (tidy : walk.Tidy catalog opened) (isOpen : source ∈ opened)
    (depends : catalog.Depends source target) (fresh : ⟨source, target⟩ ∉ walk.cuts) :
    (walk.cut ⟨source, target⟩).Tidy catalog opened where
  shared := by
    intro path module found
    obtain ⟨⟨targets, known, names⟩, settled⟩ := tidy.shared path module found
    have different : source ≠ path := by
      intro same
      subst same
      rw [cut_truncated, tidy.unfinished source isOpen] at found
      cases found
    refine ⟨⟨targets, known, ?_⟩, settled⟩
    rw [cut_cuts, uncut_append_of_ne different, names]
  unfinished := tidy.unfinished
  attributed := by
    intro edge member
    rcases List.mem_append.mp member with earlier | last
    · exact tidy.attributed edge earlier
    · rw [List.mem_singleton.mp last]
      exact .inl isOpen
  declared := by
    intro edge member
    rcases List.mem_append.mp member with earlier | last
    · exact tidy.declared edge earlier
    · rw [List.mem_singleton.mp last]
      exact depends
  nodup := by
    refine List.nodup_append.mpr ⟨tidy.nodup, by simp, ?_⟩
    intro edge member last only same
    rw [same, List.mem_singleton.mp only] at member
    exact fresh member

theorem persists_keep (unfinished : walk.truncated.lookup module.path = none) :
    walk.Persists (walk.keep module true) := by
  intro path other found
  have different : path ≠ module.path := by
    intro same
    subst same
    rw [unfinished] at found
    cases found
  rw [keep_part_truncated, lookup_entry, if_neg different]
  exact found

/-- Keeping a module with a cut below it closes it: from now on its cuts are those of a shared module. -/
theorem Tidy.close {modules : List Module} (tidy : walk.Tidy catalog (path :: opened))
    (closed : path ∉ opened) (known : catalog.edges? path = some targets)
    (names : modules.map (·.path) = uncut walk.cuts path targets)
    (settled : ∀ module ∈ modules, Settled catalog walk.truncated module) :
    (walk.keep ⟨path, modules⟩ true).Tidy catalog opened := by
  have persists : walk.Persists (walk.keep ⟨path, modules⟩ true) :=
    persists_keep (tidy.unfinished path (by simp))
  constructor
  · intro other module found
    rcases of_lookup_entry found with ⟨rfl, rfl⟩ | earlier
    · exact ⟨⟨targets, known, by simpa [Module.dependencyNames] using names⟩,
        fun dependency member => (settled dependency member).persist persists⟩
    · obtain ⟨account, inner⟩ := tidy.shared other module earlier
      exact ⟨by simpa using account, fun dependency member => (inner dependency member).persist persists⟩
  · intro other member
    have different : other ≠ path := by
      intro same
      subst same
      exact closed member
    rw [keep_part_truncated, lookup_entry, if_neg different]
    exact tidy.unfinished other (by simp [member])
  · intro edge member
    rw [keep_cuts] at member
    rcases tidy.attributed edge member with isOpen | finished
    · rcases List.mem_cons.mp isOpen with same | outer
      · exact .inr (by rw [keep_part_truncated, lookup_entry, if_pos same]; simp)
      · exact .inl outer
    · obtain ⟨module, found⟩ := Option.ne_none_iff_exists'.mp finished
      exact .inr (by rw [persists _ _ found]; simp)
  · simpa using tidy.declared
  · simpa using tidy.nodup

theorem accounted_of_alike {part : Part} (tidy : walk.Tidy catalog opened) (alike : after.Alike walk)
    (settled : Settled catalog walk.truncated part.module) : part.Accounted catalog opened walk after where
  tidy := tidy.alike alike
  persists := alike.persists
  settled := settled.persist alike.persists
  cuts := ⟨[], by simp [alike.cuts], by simp⟩

/-- Resolving a complete module leaves everything as it was. -/
theorem Enters.accounted_of_complete {result : Except Failure Part}
    (enters : Enters opened path walk after result) (sound : walk.Sound catalog)
    (before : catalog.OpenBefore opened path) (complete : catalog.Complete path)
    (tidy : walk.Tidy catalog opened) {part : Part} (made : result = .ok part) :
    part.Accounted catalog opened walk after := by
  obtain ⟨⟨module, resolved⟩, alike⟩ := enters.of_complete sound before complete
  cases resolved.symm.trans made
  exact accounted_of_alike tidy alike (.inl (((enters.sound sound before).2 _ made).whole rfl))

/-- The parts of a module that is not complete make up the module, and their cuts are its own. -/
theorem Parts.Accounted.expanded {parts : Parts} (closed : path ∉ opened)
    (known : catalog.edges? path = some targets) (before : walk.Tidy catalog opened)
    (unfinished : walk.truncated.lookup path = none)
    (accounted : parts.Accounted catalog (path :: opened) path targets (walk.asked path) after) :
    Part.Accounted catalog opened walk (after.keep ⟨path, parts.modules⟩ true)
      ⟨⟨path, parts.modules⟩, true⟩ := by
  obtain ⟨tidy, persists, settled, names, new, grown, cutBack, cutAll⟩ := accounted
  have uncharged := before.uncharged closed unfinished
  -- Before this module was opened it had no cut edges, so those it has now go to open modules.
  have kept : parts.modules.map (·.path) = uncut after.cuts path targets := by
    rw [names]
    apply List.filter_congr
    intro target member
    refine decide_eq_decide.mpr (not_congr ?_)
    rw [grown, List.mem_append]
    constructor
    · exact fun back => .inr (cutBack target member back)
    · intro either
      rcases either with earlier | later
      · exact absurd earlier (uncharged target)
      · rcases cutAll _ later with ⟨_, _, back⟩ | ⟨outside, _⟩
        · exact back
        · exact absurd (by simp) outside
  refine ⟨tidy.close closed known kept settled, ?_, .inr (by simp), new, by simpa using grown, ?_⟩
  · exact Persists.trans persists (persists_keep (tidy.unfinished path (by simp)))
  · intro edge member
    rcases cutAll edge member with ⟨own, _, back⟩ | ⟨outside, module, inside, charts⟩
    · refine ⟨own ▸ closed, ⟨path, parts.modules⟩, .itself, own.symm, ?_⟩
      rcases List.mem_cons.mp back with same | further
      · exact .inr ⟨⟨path, parts.modules⟩, .itself, same.symm, .itself⟩
      · exact .inl further
    · exact ⟨fun isOpen => outside (by simp [isOpen]), charts.close inside⟩

theorem accounted_nil (tidy : walk.Tidy catalog opened) :
    Parts.Accounted catalog opened source [] walk walk ⟨[], false⟩ where
  tidy := tidy
  persists := fun _ _ found => found
  settled := by simp
  names := rfl
  cuts := ⟨[], by simp⟩

theorem Parts.Accounted.cut {target : String} {parts : Parts} (back : target ∈ opened)
    (rest : parts.Accounted catalog opened source targets (walk.cut ⟨source, target⟩) after) :
    parts.afterCut.Accounted catalog opened source (target :: targets) walk after := by
  obtain ⟨tidy, persists, settled, names, new, grown, cutBack, cutAll⟩ := rest
  refine ⟨tidy, persists, settled, by simp [Parts.afterCut, names, back], ⟨source, target⟩ :: new, ?_, ?_, ?_⟩
  · simp [grown]
  · intro other member isOpen
    rcases List.mem_cons.mp member with rfl | later
    · exact List.mem_cons_self
    · exact List.mem_cons_of_mem _ (cutBack other later isOpen)
  · intro edge member
    rcases List.mem_cons.mp member with rfl | later
    · exact .inl ⟨rfl, List.mem_cons_self, back⟩
    · refine (cutAll edge later).imp_left fun own => ?_
      exact ⟨own.1, List.mem_cons_of_mem _ own.2.1, own.2.2⟩

theorem Parts.Accounted.followed {target : String} {part : Part} {parts : Parts} (forward : target ∉ opened)
    (named : part.module.path = target) (first : part.Accounted catalog opened walk between)
    (rest : parts.Accounted catalog opened source targets between after) :
    (part.before parts).Accounted catalog opened source (target :: targets) walk after := by
  obtain ⟨_, firstPersists, firstSettled, firstNew, firstGrown, firstCuts⟩ := first
  obtain ⟨tidy, persists, settled, names, new, grown, cutBack, cutAll⟩ := rest
  refine ⟨tidy, firstPersists.trans persists, ?_, ?_, firstNew ++ new, ?_, ?_, ?_⟩
  · intro module member
    rcases List.mem_cons.mp member with rfl | later
    · exact firstSettled.persist persists
    · exact settled module later
  · simp [Part.before, names, named, forward]
  · rw [grown, firstGrown, List.append_assoc]
  · intro other member isOpen
    rcases List.mem_cons.mp member with rfl | later
    · exact absurd isOpen forward
    · exact List.mem_append_right _ (cutBack other later isOpen)
  · intro edge member
    rcases List.mem_append.mp member with earlier | later
    · obtain ⟨outside, charts⟩ := firstCuts edge earlier
      exact .inr ⟨outside, part.module, List.mem_cons_self, charts⟩
    · rcases cutAll edge later with ⟨own, listed, isOpen⟩ | ⟨outside, module, inside, charts⟩
      · exact .inl ⟨own, List.mem_cons_of_mem _ listed, isOpen⟩
      · exact .inr ⟨outside, module, List.mem_cons_of_mem _ inside, charts⟩

mutual

/-- Every successful step accounts for what it cuts. -/
theorem Enters.accounted {opened : List String} {path : String} {walk after : Walk}
    {result : Except Failure Part} : Enters opened path walk after result → walk.Sound catalog →
    catalog.OpenBefore opened path → walk.Tidy catalog opened → path ∉ opened →
    ∀ part, result = .ok part → part.Accounted catalog opened walk after
  | .cached found, sound, _, tidy, _ => by
    intro part made
    cases made
    exact accounted_of_alike tidy ⟨rfl, rfl⟩ (.inl (sound.resolver.keeps _ _ found).2)
  | .shared _ found, sound, _, tidy, _ => by
    intro part made
    cases made
    have named := (sound.shares _ _ found).1
    exact accounted_of_alike tidy ⟨rfl, rfl⟩ (.inr (by rw [named]; exact found))
  | .unknown _ _ _, _, _, _, _ => by simp
  | .failed _ _ _ _, _, _, _, _ => by simp
  | .expanded uncached unfinished answered below, sound, before, tidy, closed => by
    intro part made
    -- A complete module is kept for good and cuts nothing, any other becomes a shared one.
    by_cases complete : catalog.Complete path
    · exact (Enters.expanded uncached unfinished answered below).accounted_of_complete sound before
        complete tidy made
    · cases made
      have edges := sound.edges answered
      have known := sound.answer answered
      have marked := (below.sound (sound.asked path) before.enter edges).2 _ rfl
      have accounted := below.accounted (sound.asked path) before.enter edges (tidy.open unfinished)
        (by simp) (Catalog.nodup_edges known) (fun target _ => tidy.uncharged closed unfinished target) _ rfl
      rw [marked.truncated known complete]
      exact accounted.expanded closed known tidy unfinished

theorem Follows.accounted {opened targets : List String} {source : String} {walk after : Walk}
    {result : Except Failure Parts} : Follows opened source targets walk after result →
    walk.Sound catalog → catalog.OpenAt opened source →
    (∀ target ∈ targets, catalog.Depends source target) → walk.Tidy catalog opened →
    source ∈ opened → targets.Nodup → (∀ target ∈ targets, ⟨source, target⟩ ∉ walk.cuts) →
    ∀ parts, result = .ok parts → parts.Accounted catalog opened source targets walk after
  | .done, _, _, _, tidy, _, _, _ => by
    intro parts made
    cases made
    exact accounted_nil tidy
  | .cut back rest, sound, openAt, depends, tidy, isOpen, distinct, fresh => by
    intro parts made
    obtain ⟨inner, succeeded, rfl⟩ := ok_of_map made
    obtain ⟨edge, others⟩ := List.forall_mem_cons.mp depends
    obtain ⟨unlisted, othersDistinct⟩ := List.nodup_cons.mp distinct
    obtain ⟨uncut, othersFresh⟩ := List.forall_mem_cons.mp fresh
    refine .cut back (rest.accounted (sound.cut _) openAt others (tidy.cut isOpen edge uncut) isOpen
      othersDistinct ?_ inner succeeded)
    intro other listed member
    rcases List.mem_append.mp member with earlier | last
    · exact othersFresh other listed earlier
    · cases List.mem_singleton.mp last
      exact unlisted listed
  | .stopped _ _, _, _, _, _, _, _, _ => by simp
  | .followed forward first rest, sound, openAt, depends, tidy, isOpen, distinct, fresh => by
    intro parts made
    obtain ⟨inner, succeeded, rfl⟩ := ok_of_map made
    obtain ⟨edge, others⟩ := List.forall_mem_cons.mp depends
    have before := openAt.follow edge
    obtain ⟨betweenSound, marked⟩ := first.sound sound before
    have accounted := first.accounted sound before tidy forward _ rfl
    refine .followed forward (marked _ rfl).named accounted (rest.accounted betweenSound openAt others
      accounted.tidy isOpen (List.nodup_cons.mp distinct).2 ?_ inner succeeded)
    obtain ⟨new, grown, outside⟩ := accounted.cuts
    intro other listed member
    rw [grown] at member
    rcases List.mem_append.mp member with earlier | later
    · exact (List.forall_mem_cons.mp fresh).2 other listed earlier
    · exact (outside _ later).1 isOpen

end

end Walk

end DependencyDiagram
