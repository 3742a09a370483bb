import DependencyDiagram.Proofs.ConsultedPaths

/-!
What a traversal takes. `Walk.Runs` and `Walk.RunsAlong` are the derivations of a traversal with no bound on
its depth, each with the depth to which its calls nest and the modules that it expands. No more modules than
are known can be open inside each other, and a module that was expanded is open or at hand from then on, so it
is not expanded again.
-/

namespace DependencyDiagram

namespace Catalog

/-- How many different modules may still be opened. -/
def room (catalog : Catalog) (opened : List String) : Nat :=
  (catalog.paths.eraseDups.filter (· ∉ opened)).length

theorem room_cons_lt {catalog : Catalog} {path : String} {opened : List String} (known : path ∈ catalog.paths)
    (closed : path ∉ opened) : catalog.room (path :: opened) < catalog.room opened :=
  filter_notMem_cons_lt (List.mem_eraseDups.mpr known) closed

theorem room_nil (catalog : Catalog) : catalog.room [] = catalog.paths.eraseDups.length := by
  simp [room]

end Catalog

namespace Walk

/-- How deep the calls of a traversal nest, and the modules whose edges it goes through, the first one first. -/
structure Effort where
  depth : Nat
  expanded : List String

namespace Effort

/-- A call that finds its module or fails to, and needs no others. -/
def call : Effort := ⟨1, []⟩

def expand (path : String) (below : Effort) : Effort := ⟨below.depth + 1, path :: below.expanded⟩

def nothing : Effort := ⟨0, []⟩

def andThen (first rest : Effort) : Effort := ⟨max first.depth rest.depth, first.expanded ++ rest.expanded⟩

end Effort

mutual

/-- Entering a module, with the effort that it takes. -/
inductive Runs : List String → String → Walk → Walk → Except Failure Part → Effort → Prop where
  | cached {opened : List String} {path : String} {walk : Walk} {module : Module}
      (found : walk.resolver.modules.lookup path = some module) :
      Runs opened path walk (walk.note (.cachedModule path)) (.ok ⟨module, false⟩) .call
  | shared {opened : List String} {path : String} {walk : Walk} {module : Module}
      (uncached : walk.resolver.modules.lookup path = none)
      (found : walk.truncated.lookup path = some module) :
      Runs opened path walk walk (.ok ⟨module, true⟩) .call
  | unknown {opened : List String} {path : String} {walk : Walk} {failure : Failure}
      (uncached : walk.resolver.modules.lookup path = none)
      (unfinished : walk.truncated.lookup path = none)
      (refused : (walk.resolver.directDependencies path).result = .error failure) :
      Runs opened path walk (walk.asked path) (.error failure) .call
  | failed {opened : List String} {path : String} {walk after : Walk} {targets : List String}
      {failure : Failure} {effort : Effort}
      (uncached : walk.resolver.modules.lookup path = none)
      (unfinished : walk.truncated.lookup path = none)
      (answered : (walk.resolver.directDependencies path).result = .ok targets)
      (below : RunsAlong (path :: opened) path targets (walk.asked path) after (.error failure) effort) :
      Runs opened path walk after (.error failure) (effort.expand path)
  | expanded {opened : List String} {path : String} {walk after : Walk} {targets : List String}
      {parts : Parts} {effort : Effort}
      (uncached : walk.resolver.modules.lookup path = none)
      (unfinished : walk.truncated.lookup path = none)
      (answered : (walk.resolver.directDependencies path).result = .ok targets)
      (below : RunsAlong (path :: opened) path targets (walk.asked path) after (.ok parts) effort) :
      Runs opened path walk (after.keep ⟨path, parts.modules⟩ parts.truncated)
        (.ok ⟨⟨path, parts.modules⟩, parts.truncated⟩) (effort.expand path)

/-- Following the edges of a module one after the other, with the effort that it takes. -/
inductive RunsAlong :
    List String → String → List String → Walk → Walk → Except Failure Parts → Effort → Prop where
  | done {opened : List String} {source : String} {walk : Walk} :
      RunsAlong opened source [] walk walk (.ok ⟨[], false⟩) .nothing
  | cut {opened targets : List String} {source target : String} {walk after : Walk}
      {result : Except Failure Parts} {effort : Effort} (back : target ∈ opened)
      (rest : RunsAlong opened source targets (walk.cut ⟨source, target⟩) after result effort) :
      RunsAlong opened source (target :: targets) walk after (result.map Parts.afterCut) effort
  | stopped {opened targets : List String} {source target : String} {walk after : Walk}
      {failure : Failure} {effort : Effort} (forward : target ∉ opened)
      (first : Runs opened target walk after (.error failure) effort) :
      RunsAlong opened source (target :: targets) walk after (.error failure) effort
  | followed {opened targets : List String} {source target : String} {walk between after : Walk}
      {part : Part} {result : Except Failure Parts} {effort later : Effort} (forward : target ∉ opened)
      (first : Runs opened target walk between (.ok part) effort)
      (rest : RunsAlong opened source targets between after result later) :
      RunsAlong opened source (target :: targets) walk after (result.map part.before) (effort.andThen later)

end

variable {catalog : Catalog}

mutual

theorem Enters.runs {opened : List String} {path : String} {walk after : Walk}
    {result : Except Failure Part} : Enters opened path walk after result →
    ∃ effort, Runs opened path walk after result effort
  | .cached found => ⟨_, .cached found⟩
  | .shared uncached found => ⟨_, .shared uncached found⟩
  | .unknown uncached unfinished refused => ⟨_, .unknown uncached unfinished refused⟩
  | .failed uncached unfinished answered below => by
    obtain ⟨_, runs⟩ := below.runs
    exact ⟨_, .failed uncached unfinished answered runs⟩
  | .expanded uncached unfinished answered below => by
    obtain ⟨_, runs⟩ := below.runs
    exact ⟨_, .expanded uncached unfinished answered runs⟩

theorem Follows.runs {opened targets : List String} {source : String} {walk after : Walk}
    {result : Except Failure Parts} : Follows opened source targets walk after result →
    ∃ effort, RunsAlong opened source targets walk after result effort
  | .done => ⟨_, .done⟩
  | .cut back rest => by
    obtain ⟨_, runs⟩ := rest.runs
    exact ⟨_, .cut back runs⟩
  | .stopped forward first => by
    obtain ⟨_, runs⟩ := first.runs
    exact ⟨_, .stopped forward runs⟩
  | .followed forward first rest => by
    obtain ⟨_, firstRuns⟩ := first.runs
    obtain ⟨_, restRuns⟩ := rest.runs
    exact ⟨_, .followed forward firstRuns restRuns⟩

end

mutual

/-- Whatever the bound on the depth is, it makes no difference unless the calls nest deeper. -/
theorem Runs.enter_eq {opened : List String} {path : String} {walk after : Walk}
    {result : Except Failure Part} {effort : Effort} : Runs opened path walk after result effort →
    ∀ bound, effort.depth ≤ bound → enter bound opened path walk = (after, result)
  | .cached found, bound + 1, _ => by simp only [enter, found]
  | .shared uncached found, bound + 1, _ => by simp only [enter, uncached, found]
  | .unknown uncached unfinished refused, bound + 1, _ => by
    simp only [enter, uncached, unfinished, refused]
    rfl
  | .failed uncached unfinished answered below, bound + 1, enough => by
    have followed := below.follow_eq bound (Nat.le_of_succ_le_succ enough)
    unfold asked at followed
    simp only [enter, uncached, unfinished, answered, followed]
  | .expanded uncached unfinished answered below, bound + 1, enough => by
    have followed := below.follow_eq bound (Nat.le_of_succ_le_succ enough)
    unfold asked at followed
    simp only [enter, uncached, unfinished, answered, followed]

theorem RunsAlong.follow_eq {opened targets : List String} {source : String} {walk after : Walk}
    {result : Except Failure Parts} {effort : Effort} : RunsAlong opened source targets walk after result effort →
    ∀ bound, effort.depth ≤ bound → follow (enter bound opened) opened source targets walk = (after, result)
  | .done, _, _ => rfl
  | @RunsAlong.cut _ _ _ _ _ _ result _ back rest, bound, enough => by
    rw [follow, if_pos back, rest.follow_eq bound enough]
    cases result <;> rfl
  | .stopped forward first, bound, enough => by
    rw [follow, if_neg forward, first.enter_eq bound enough]
  | @RunsAlong.followed _ _ _ _ _ _ _ _ result _ _ forward first rest, bound, enough => by
    obtain ⟨firstEnough, restEnough⟩ := Nat.max_le.mp enough
    rw [follow, if_neg forward, first.enter_eq bound firstEnough]
    dsimp only
    rw [rest.follow_eq bound restEnough]
    cases result <;> rfl

end

mutual

theorem Runs.enters {opened : List String} {path : String} {walk after : Walk}
    {result : Except Failure Part} {effort : Effort} : Runs opened path walk after result effort →
    Enters opened path walk after result
  | .cached found => .cached found
  | .shared uncached found => .shared uncached found
  | .unknown uncached unfinished refused => .unknown uncached unfinished refused
  | .failed uncached unfinished answered below => .failed uncached unfinished answered below.follows
  | .expanded uncached unfinished answered below => .expanded uncached unfinished answered below.follows

theorem RunsAlong.follows {opened targets : List String} {source : String} {walk after : Walk}
    {result : Except Failure Parts} {effort : Effort} : RunsAlong opened source targets walk after result effort →
    Follows opened source targets walk after result
  | .done => .done
  | .cut back rest => .cut back rest.follows
  | .stopped forward first => .stopped forward first.enters
  | .followed forward first rest => .followed forward first.enters rest.follows

end

theorem expand_depth_le {opened targets : List String} {path : String} {walk : Walk} {below : Effort}
    (nested : below.depth ≤ catalog.room (path :: opened) + 1) (grounded : walk.resolver.Grounded catalog)
    (answered : (walk.resolver.directDependencies path).result = .ok targets) (closed : path ∉ opened) :
    (below.expand path).depth ≤ catalog.room opened + 1 := by
  have narrower := Catalog.room_cons_lt (Catalog.mem_paths_of_edges (grounded.answer answered)) closed
  exact Nat.succ_le_succ (Nat.le_trans nested narrower)

mutual

/-- Each call nested in another one opens a known module that is not open yet; only the innermost may not. -/
theorem Runs.depth_le {opened : List String} {path : String} {walk after : Walk}
    {result : Except Failure Part} {effort : Effort} : Runs opened path walk after result effort →
    walk.resolver.Grounded catalog → path ∉ opened → effort.depth ≤ catalog.room opened + 1
  | .cached _, _, _ => Nat.le_add_left _ _
  | .shared _ _, _, _ => Nat.le_add_left _ _
  | .unknown _ _ _, _, _ => Nat.le_add_left _ _
  | .failed _ _ answered below, grounded, closed =>
    expand_depth_le (below.depth_le (Resolver.directDependencies_grounded grounded path)) grounded answered closed
  | .expanded _ _ answered below, grounded, closed =>
    expand_depth_le (below.depth_le (Resolver.directDependencies_grounded grounded path)) grounded answered closed

theorem RunsAlong.depth_le {opened targets : List String} {source : String} {walk after : Walk}
    {result : Except Failure Parts} {effort : Effort} : RunsAlong opened source targets walk after result effort →
    walk.resolver.Grounded catalog → effort.depth ≤ catalog.room opened + 1
  | .done, _ => Nat.zero_le _
  | .cut _ rest, grounded => rest.depth_le grounded
  | .stopped forward first, grounded => first.depth_le grounded forward
  | .followed forward first rest, grounded =>
    Nat.max_le.mpr ⟨first.depth_le grounded forward, rest.depth_le (first.enters.grounded grounded)⟩

end

section Events

variable (walk : Walk) (path : String)

theorem consulted_cached : Log.consulted (walk.note (.cachedModule path)).events = Log.consulted walk.events :=
  (Log.consulted_append _ _).trans (List.append_nil _)

theorem consulted_cut (edge : CycleBreak) : Log.consulted (walk.cut edge).events = Log.consulted walk.events :=
  (Log.consulted_append _ _).trans (List.append_nil _)

theorem keep_events (module : Module) (truncated : Bool) : (walk.keep module truncated).events = walk.events := by
  cases truncated <;> rfl

theorem consulted_asked : Log.consulted (walk.asked path).events = Log.consulted walk.events ++
    if Resolver.failed (walk.resolver.directDependencies path).result then [] else [path] := by
  unfold asked
  rw [Log.consulted_append, Resolver.consulted_directDependencies]

end Events

mutual

/-- The modules that a traversal expands are those whose direct dependencies it consults. -/
theorem Runs.consulted {opened : List String} {path : String} {walk after : Walk}
    {result : Except Failure Part} {effort : Effort} : Runs opened path walk after result effort →
    Log.consulted after.events = Log.consulted walk.events ++ effort.expanded
  | .cached _ => (consulted_cached walk path).trans (List.append_nil _).symm
  | .shared _ _ => (List.append_nil _).symm
  | .unknown _ _ refused => by
    rw [consulted_asked, refused]
    rfl
  | .failed _ _ answered below => by
    rw [below.consulted, consulted_asked, answered, List.append_assoc]
    rfl
  | .expanded _ _ answered below => by
    rw [keep_events, below.consulted, consulted_asked, answered, List.append_assoc]
    rfl

theorem RunsAlong.consulted {opened targets : List String} {source : String} {walk after : Walk}
    {result : Except Failure Parts} {effort : Effort} : RunsAlong opened source targets walk after result effort →
    Log.consulted after.events = Log.consulted walk.events ++ effort.expanded
  | .done => (List.append_nil _).symm
  | .cut _ rest => by rw [rest.consulted, consulted_cut]
  | .stopped _ first => first.consulted
  | .followed _ first rest => by
    rw [rest.consulted, first.consulted, List.append_assoc]
    rfl

end

/-- A traversal expands modules that are neither open nor at hand, each of them once. If it succeeds they are at
hand afterwards. -/
structure ExpandsOnce (opened : List String) (walk after : Walk) (succeeded : Prop) (expanded : List String) :
    Prop where
  distinct : expanded.Nodup
  closed : ∀ path ∈ expanded, path ∉ opened
  fresh : ∀ path ∈ expanded, ¬ walk.AtHand path
  finished : succeeded → ∀ path ∈ expanded, after.AtHand path
  still : ∀ path, walk.AtHand path → after.AtHand path

section Once

variable {opened expanded later : List String} {path : String} {walk between after : Walk} {succeeded : Prop}

theorem expandsOnce_nothing (still : ∀ path, walk.AtHand path → after.AtHand path) :
    ExpandsOnce opened walk after succeeded [] :=
  ⟨List.nodup_nil, by simp, by simp, by simp, still⟩

/-- The module itself is open while those below it are expanded, and it is finished after them. -/
theorem ExpandsOnce.expand (below : ExpandsOnce (path :: opened) (walk.asked path) between succeeded expanded)
    (closed : path ∉ opened) (fresh : ¬ walk.AtHand path)
    (still : ∀ other, between.AtHand other → after.AtHand other) (kept : succeeded → after.AtHand path) :
    ExpandsOnce opened walk after succeeded (path :: expanded) where
  distinct := by
    refine List.nodup_cons.mpr ⟨fun again => ?_, below.distinct⟩
    exact below.closed path again List.mem_cons_self
  closed := by
    refine List.forall_mem_cons.mpr ⟨closed, fun other member isOpen => ?_⟩
    exact below.closed other member (List.mem_cons_of_mem path isOpen)
  fresh := by
    refine List.forall_mem_cons.mpr ⟨fresh, fun other member atHand => ?_⟩
    exact below.fresh other member ((atHand_asked walk path other).mpr atHand)
  finished succeeds :=
    List.forall_mem_cons.mpr ⟨kept succeeds, fun other member =>
      still other (below.finished succeeds other member)⟩
  still other atHand := still other (below.still other ((atHand_asked walk path other).mpr atHand))

theorem ExpandsOnce.andThen (first : ExpandsOnce opened walk between True expanded)
    (rest : ExpandsOnce opened between after succeeded later) :
    ExpandsOnce opened walk after succeeded (expanded ++ later) where
  distinct := by
    refine List.nodup_append'.mpr ⟨first.distinct, rest.distinct, fun path before again => ?_⟩
    exact rest.fresh path again (first.finished trivial path before)
  closed := List.forall_mem_append.mpr ⟨first.closed, rest.closed⟩
  fresh := by
    refine List.forall_mem_append.mpr ⟨first.fresh, fun path member atHand => ?_⟩
    exact rest.fresh path member (first.still path atHand)
  finished succeeds := by
    refine List.forall_mem_append.mpr ⟨fun path member => ?_, rest.finished succeeds⟩
    exact rest.still path (first.finished trivial path member)
  still path atHand := rest.still path (first.still path atHand)

end Once

mutual

theorem Runs.expandsOnce {opened : List String} {path : String} {walk after : Walk}
    {result : Except Failure Part} {effort : Effort} : Runs opened path walk after result effort → path ∉ opened →
    ExpandsOnce opened walk after (Resolver.failed result = false) effort.expanded
  | .cached _, _ => expandsOnce_nothing fun _ => id
  | .shared _ _, _ => expandsOnce_nothing fun _ => id
  | .unknown _ _ _, _ => expandsOnce_nothing fun other => (atHand_asked walk path other).mpr
  | .failed uncached unfinished _ below, closed => by
    refine below.expandsOnce.expand closed ?_ (fun _ => id) (by simp [Resolver.failed])
    simp [AtHand, uncached, unfinished]
  | .expanded uncached unfinished _ below, closed => by
    refine below.expandsOnce.expand closed ?_ ?_ fun _ => (atHand_keep _ _ _ _).mpr (.inl rfl)
    · simp [AtHand, uncached, unfinished]
    · exact fun other atHand => (atHand_keep _ _ _ _).mpr (.inr atHand)

theorem RunsAlong.expandsOnce {opened targets : List String} {source : String} {walk after : Walk}
    {result : Except Failure Parts} {effort : Effort} : RunsAlong opened source targets walk after result effort →
    ExpandsOnce opened walk after (Resolver.failed result = false) effort.expanded
  | .done => expandsOnce_nothing fun _ => id
  | .cut _ rest => by
    have once := rest.expandsOnce
    rw [Resolver.failed_map]
    exact ⟨once.distinct, once.closed, once.fresh, once.finished, once.still⟩
  | .stopped forward first => first.expandsOnce forward
  | .followed forward first rest => by
    have once := first.expandsOnce forward
    rw [Resolver.failed_map]
    exact ExpandsOnce.andThen ⟨once.distinct, once.closed, once.fresh, fun _ => once.finished rfl, once.still⟩
      rest.expandsOnce

end

/-- Two runs from the same walk end alike. -/
theorem Runs.unique {opened : List String} {path : String} {walk after otherAfter : Walk}
    {result otherResult : Except Failure Part} {effort other : Effort}
    (left : Runs opened path walk after result effort) (right : Runs opened path walk otherAfter otherResult other) :
    after = otherAfter ∧ result = otherResult := by
  have leftEnds := left.enter_eq (max effort.depth other.depth) (Nat.le_max_left _ _)
  have rightEnds := right.enter_eq (max effort.depth other.depth) (Nat.le_max_right _ _)
  exact Prod.mk.inj (leftEnds.symm.trans rightEnds)

end Walk

namespace Resolver

/-- One call as a traversal with no bound on its depth. -/
def Runs (resolver : Resolver) (path : String) (after : Walk) (result : Except Failure Walk.Part)
    (effort : Walk.Effort) : Prop :=
  Walk.Runs [] path (Walk.start { resolver with cycleBreaks := [] }) after result effort

/-- What holds of a call of the resolver that ends in a walk with a result. -/
structure EndsWithin (catalog : Catalog) (resolver : Resolver) (path : String) (after : Walk)
    (result : Except Failure Walk.Part) (effort : Walk.Effort) : Prop where
  answer : resolver.resolve path = ⟨reporting after result, after.events, result.map (·.module)⟩
  /-- The calls nest no deeper than there are different known modules, plus one. -/
  nested : effort.depth ≤ catalog.paths.eraseDups.length + 1
  /-- No module is expanded twice. -/
  once : effort.expanded.Nodup
  /-- The expanded modules are those whose direct dependencies are consulted. -/
  consulted : Log.consulted (resolver.resolve path).events = effort.expanded
  /-- Room for deeper calls would not be used. -/
  unbounded : ∀ bound, effort.depth ≤ bound →
    Walk.enter bound [] path (Walk.start { resolver with cycleBreaks := [] }) = (after, result)

/-- Whatever the catalog declares and whatever was called before, the recursion of a call comes to an end. -/
theorem after_terminates (catalog : Catalog) (calls : List Call) (path : String) :
    (∃ after result effort, ((new catalog).after calls).Runs path after result effort) ∧
    ∀ after result effort, ((new catalog).after calls).Runs path after result effort →
      ((new catalog).after calls).EndsWithin catalog path after result effort := by
  have grounded := (sound_after catalog calls).grounded
  obtain ⟨walk, found, entered, answer⟩ := resolve_traverses grounded path
  obtain ⟨taken, traversal⟩ := entered.runs
  refine ⟨⟨walk, found, taken, traversal⟩, fun after result effort runs => ?_⟩
  obtain ⟨rfl, rfl⟩ := traversal.unique runs
  have nested := Walk.Runs.depth_le runs ((sound_after catalog calls).report []).grounded List.not_mem_nil
  rw [Catalog.room_nil] at nested
  refine ⟨answer, nested, (Walk.Runs.expandsOnce runs List.not_mem_nil).distinct, ?_, Walk.Runs.enter_eq runs⟩
  rw [answer]
  exact Walk.Runs.consulted runs

/-- The members of a cycle are expanded again in a later call, once each; what lies below them is kept. -/
theorem after_terminates_partlyCyclic : ∃ after result effort,
    ((new .partlyCyclic).after [.resolve ":b"]).Runs ":a" after result effort ∧
      effort.expanded = [":a", ":b"] ∧ effort.depth ≤ 5 := by
  obtain ⟨⟨after, result, effort, runs⟩, ends⟩ := after_terminates .partlyCyclic [.resolve ":b"] ":a"
  have bounded := ends after result effort runs
  exact ⟨after, result, effort, runs, bounded.consulted.symm.trans rfl, bounded.nested⟩

end Resolver

end DependencyDiagram
