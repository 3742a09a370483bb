import DependencyDiagram.Proofs.DeclaredGraph

/-!
Traversals as derivations. `Walk.Enters` and `Walk.Follows` have one rule for each thing a traversal
can do and leave out the bound on its depth, which is always sufficient: the open modules are known
and different. Statements about a traversal are proved rule by rule.
-/

namespace DependencyDiagram

namespace Catalog

/-- The answer to a question for a module's edges. -/
def ask (catalog : Catalog) (path : String) : Except Failure (List String) :=
  match catalog.edges? path with
  | some targets => .ok targets
  | none => .error (.unknownModule path catalog.paths)

theorem ask_eq_ok {catalog : Catalog} {path : String} {targets : List String} :
    catalog.ask path = .ok targets ↔ catalog.edges? path = some targets := by
  unfold ask
  cases catalog.edges? path <;> simp

theorem ask_eq_error {catalog : Catalog} {path : String} {failure : Failure}
    (refused : catalog.ask path = .error failure) :
    catalog.edges? path = none ∧ failure = .unknownModule path catalog.paths := by
  unfold ask at refused
  cases known : catalog.edges? path with
  | none =>
    rw [known] at refused
    exact ⟨rfl, (Except.error.inj refused).symm⟩
  | some targets => simp [known] at refused

/-- How many known modules may still be opened. -/
def unopened (catalog : Catalog) (opened : List String) : Nat :=
  (catalog.paths.filter (· ∉ opened)).length

theorem filter_notMem_cons_lt {known opened : List String} {path : String} (member : path ∈ known)
    (closed : path ∉ opened) : (known.filter (· ∉ path :: opened)).length < (known.filter (· ∉ opened)).length := by
  have narrowed : known.filter (· ∉ path :: opened) = (known.filter (· ∉ opened)).filter (· ≠ path) := by
    rw [List.filter_filter]
    apply List.filter_congr
    intro other _
    simp [not_or]
  rw [narrowed, List.length_filter_lt_length_iff_exists]
  exact ⟨path, List.mem_filter.mpr ⟨member, by simpa using closed⟩, by simp⟩

theorem unopened_cons_lt {catalog : Catalog} {path : String} {opened : List String}
    (known : path ∈ catalog.paths) (closed : path ∉ opened) :
    catalog.unopened (path :: opened) < catalog.unopened opened :=
  filter_notMem_cons_lt known closed

theorem unopened_nil_lt (catalog : Catalog) : catalog.unopened [] < catalog.size + 1 := by
  have bound := List.length_filter_le (· ∉ ([] : List String)) catalog.paths
  rw [paths, List.length_map] at bound
  exact Nat.lt_succ_of_le bound

end Catalog

namespace Resolver

/-- The resolver serves the catalog and remembers only what the catalog has said. -/
structure Grounded (catalog : Catalog) (resolver : Resolver) : Prop where
  serves : resolver.catalog = catalog
  remembers : ∀ path kept, resolver.dependencies.lookup path = some kept → catalog.edges? path = some kept

variable {catalog : Catalog} {resolver : Resolver}

theorem grounded_new (catalog : Catalog) : (new catalog).Grounded catalog :=
  ⟨rfl, fun _ _ found => by simp [new] at found⟩

/-- Whether it has been asked for before or not, a module has the edges the catalog gives it. -/
theorem directDependencies_result (grounded : resolver.Grounded catalog) (path : String) :
    (resolver.directDependencies path).result = catalog.ask path := by
  obtain ⟨rfl, remembers⟩ := grounded
  unfold directDependencies
  cases found : resolver.dependencies.lookup path with
  | some kept => exact (Catalog.ask_eq_ok.mpr (remembers path kept found)).symm
  | none => cases declared : resolver.catalog.dependencies? path <;>
      simp [Catalog.ask, Catalog.edges?, declared]

theorem Grounded.answer (grounded : resolver.Grounded catalog) {path : String} {targets : List String}
    (answered : (resolver.directDependencies path).result = .ok targets) : catalog.edges? path = some targets :=
  Catalog.ask_eq_ok.mp ((directDependencies_result grounded path).symm.trans answered)

theorem Grounded.refusal (grounded : resolver.Grounded catalog) {path : String} {failure : Failure}
    (refused : (resolver.directDependencies path).result = .error failure) :
    catalog.edges? path = none ∧ failure = .unknownModule path catalog.paths :=
  Catalog.ask_eq_error ((directDependencies_result grounded path).symm.trans refused)

theorem directDependencies_grounded (grounded : resolver.Grounded catalog) (path : String) :
    (resolver.directDependencies path).resolver.Grounded catalog := by
  obtain ⟨rfl, remembers⟩ := grounded
  unfold directDependencies
  cases found : resolver.dependencies.lookup path with
  | some kept => exact ⟨rfl, remembers⟩
  | none =>
    cases declared : resolver.catalog.dependencies? path with
    | none => exact ⟨rfl, remembers⟩
    | some names =>
      refine ⟨rfl, fun other kept present => ?_⟩
      rw [List.lookup_cons] at present
      split at present
      · next same =>
        rw [beq_iff_eq.mp same, Catalog.edges?, declared]
        simpa using present
      · exact remembers other kept present

theorem directDependencies_cycleBreaks (resolver : Resolver) (path : String) :
    (resolver.directDependencies path).resolver.cycleBreaks = resolver.cycleBreaks := by
  unfold directDependencies
  split
  · rfl
  · split <;> rfl

theorem directDependencies_modules (resolver : Resolver) (path : String) :
    (resolver.directDependencies path).resolver.modules = resolver.modules := by
  unfold directDependencies
  split
  · rfl
  · split <;> rfl

end Resolver

namespace Walk

/-- The walk after the edges of a module have been asked for. -/
def asked (walk : Walk) (path : String) : Walk :=
  let answer := walk.resolver.directDependencies path
  { walk with resolver := answer.resolver, events := walk.events ++ answer.events }

def Parts.afterCut (parts : Parts) : Parts := ⟨parts.modules, true⟩

def Part.before (part : Part) (parts : Parts) : Parts :=
  ⟨part.module :: parts.modules, part.truncated || parts.truncated⟩

mutual

/-- Entering a module, by what the walk finds there. -/
inductive Enters : List String → String → Walk → Walk → Except Failure Part → Prop where
  | cached {opened : List String} {path : String} {walk : Walk} {module : Module}
      (found : walk.resolver.modules.lookup path = some module) :
      Enters opened path walk (walk.note (.cachedModule path)) (.ok ⟨module, false⟩)
  | shared {opened : List String} {path : String} {walk : Walk} {module : Module}
      (uncached : walk.resolver.modules.lookup path = none)
      (found : walk.truncated.lookup path = some module) :
      Enters opened path walk walk (.ok ⟨module, true⟩)
  | unknown {opened : List String} {path : String} {walk : Walk} {failure : Failure}
      (uncached : walk.resolver.modules.lookup path = none)
      (unfinished : walk.truncated.lookup path = none)
      (refused : (walk.resolver.directDependencies path).result = .error failure) :
      Enters opened path walk (walk.asked path) (.error failure)
  | failed {opened : List String} {path : String} {walk after : Walk} {targets : List String}
      {failure : Failure}
      (uncached : walk.resolver.modules.lookup path = none)
      (unfinished : walk.truncated.lookup path = none)
      (answered : (walk.resolver.directDependencies path).result = .ok targets)
      (below : Follows (path :: opened) path targets (walk.asked path) after (.error failure)) :
      Enters opened path walk after (.error failure)
  | expanded {opened : List String} {path : String} {walk after : Walk} {targets : List String}
      {parts : Parts}
      (uncached : walk.resolver.modules.lookup path = none)
      (unfinished : walk.truncated.lookup path = none)
      (answered : (walk.resolver.directDependencies path).result = .ok targets)
      (below : Follows (path :: opened) path targets (walk.asked path) after (.ok parts)) :
      Enters opened path walk (after.keep ⟨path, parts.modules⟩ parts.truncated)
        (.ok ⟨⟨path, parts.modules⟩, parts.truncated⟩)

/-- Following the edges of a module one after the other. -/
inductive Follows : List String → String → List String → Walk → Walk → Except Failure Parts → Prop where
  | done {opened : List String} {source : String} {walk : Walk} :
      Follows opened source [] walk walk (.ok ⟨[], false⟩)
  | cut {opened targets : List String} {source target : String} {walk after : Walk}
      {result : Except Failure Parts} (back : target ∈ opened)
      (rest : Follows opened source targets (walk.cut ⟨source, target⟩) after result) :
      Follows opened source (target :: targets) walk after (result.map Parts.afterCut)
  | stopped {opened targets : List String} {source target : String} {walk after : Walk}
      {failure : Failure} (forward : target ∉ opened)
      (first : Enters opened target walk after (.error failure)) :
      Follows opened source (target :: targets) walk after (.error failure)
  | followed {opened targets : List String} {source target : String} {walk between after : Walk}
      {part : Part} {result : Except Failure Parts} (forward : target ∉ opened)
      (first : Enters opened target walk between (.ok part))
      (rest : Follows opened source targets between after result) :
      Follows opened source (target :: targets) walk after (result.map part.before)

end

section Fields

variable (walk : Walk) (event : Log.Event) (edge : CycleBreak) (path : String) (module : Module)

@[simp] theorem note_resolver : (walk.note event).resolver = walk.resolver := rfl

@[simp] theorem note_truncated : (walk.note event).truncated = walk.truncated := rfl

@[simp] theorem note_cuts : (walk.note event).cuts = walk.cuts := rfl

@[simp] theorem cut_resolver : (walk.cut edge).resolver = walk.resolver := rfl

@[simp] theorem cut_truncated : (walk.cut edge).truncated = walk.truncated := rfl

@[simp] theorem cut_cuts : (walk.cut edge).cuts = walk.cuts ++ [edge] := rfl

@[simp] theorem asked_truncated : (walk.asked path).truncated = walk.truncated := rfl

@[simp] theorem asked_cuts : (walk.asked path).cuts = walk.cuts := rfl

@[simp] theorem asked_modules : (walk.asked path).resolver.modules = walk.resolver.modules :=
  walk.resolver.directDependencies_modules path

@[simp] theorem asked_cycleBreaks : (walk.asked path).resolver.cycleBreaks = walk.resolver.cycleBreaks :=
  walk.resolver.directDependencies_cycleBreaks path

@[simp] theorem keep_cycleBreaks (truncated : Bool) :
    (walk.keep module truncated).resolver.cycleBreaks = walk.resolver.cycleBreaks := by
  cases truncated <;> rfl

@[simp] theorem keep_cuts (truncated : Bool) : (walk.keep module truncated).cuts = walk.cuts := by
  cases truncated <;> rfl

@[simp] theorem keep_whole_truncated : (walk.keep module false).truncated = walk.truncated := rfl

@[simp] theorem keep_whole_modules : (walk.keep module false).resolver.modules =
    (module.path, module) :: walk.resolver.modules := rfl

@[simp] theorem keep_part_truncated : (walk.keep module true).truncated =
    (module.path, module) :: walk.truncated := rfl

@[simp] theorem keep_part_resolver : (walk.keep module true).resolver = walk.resolver := rfl

theorem keep_grounded {catalog : Catalog} {walk : Walk} (truncated : Bool)
    (grounded : walk.resolver.Grounded catalog) : (walk.keep module truncated).resolver.Grounded catalog := by
  obtain ⟨serves, remembers⟩ := grounded
  cases truncated <;> exact ⟨serves, remembers⟩

end Fields

variable {catalog : Catalog}

mutual

theorem Enters.grounded {opened : List String} {path : String} {walk after : Walk}
    {result : Except Failure Part} : Enters opened path walk after result →
    walk.resolver.Grounded catalog → after.resolver.Grounded catalog
  | .cached _, grounded => grounded
  | .shared _ _, grounded => grounded
  | .unknown _ _ _, grounded => Resolver.directDependencies_grounded grounded path
  | .failed _ _ _ below, grounded =>
    below.grounded (Resolver.directDependencies_grounded grounded path)
  | .expanded _ _ _ below, grounded =>
    keep_grounded _ _ (below.grounded (Resolver.directDependencies_grounded grounded path))

theorem Follows.grounded {opened targets : List String} {source : String} {walk after : Walk}
    {result : Except Failure Parts} : Follows opened source targets walk after result →
    walk.resolver.Grounded catalog → after.resolver.Grounded catalog
  | .done, grounded => grounded
  | .cut _ rest, grounded => rest.grounded grounded
  | .stopped _ first, grounded => first.grounded grounded
  | .followed _ first rest, grounded => rest.grounded (first.grounded grounded)

end

mutual

/-- What earlier calls have reported stays until the traversal ends. -/
theorem Enters.cycleBreaks {opened : List String} {path : String} {walk after : Walk}
    {result : Except Failure Part} : Enters opened path walk after result →
    after.resolver.cycleBreaks = walk.resolver.cycleBreaks
  | .cached _ => rfl
  | .shared _ _ => rfl
  | .unknown _ _ _ => by simp
  | .failed _ _ _ below => by rw [below.cycleBreaks, asked_cycleBreaks]
  | .expanded _ _ _ below => by rw [keep_cycleBreaks, below.cycleBreaks, asked_cycleBreaks]

theorem Follows.cycleBreaks {opened targets : List String} {source : String} {walk after : Walk}
    {result : Except Failure Parts} : Follows opened source targets walk after result →
    after.resolver.cycleBreaks = walk.resolver.cycleBreaks
  | .done => rfl
  | .cut _ rest => rest.cycleBreaks
  | .stopped _ first => first.cycleBreaks
  | .followed _ first rest => rest.cycleBreaks.trans first.cycleBreaks

end

theorem follows_follow {enter : String → Walk → Walk × Except Failure Part} {opened : List String}
    (source : String)
    (enters : ∀ target walk, target ∉ opened → walk.resolver.Grounded catalog →
      Enters opened target walk (enter target walk).1 (enter target walk).2)
    (targets : List String) (walk : Walk) (grounded : walk.resolver.Grounded catalog) :
    Follows opened source targets walk (follow enter opened source targets walk).1
      (follow enter opened source targets walk).2 := by
  induction targets generalizing walk with
  | nil => exact .done
  | cons target targets ih =>
    rw [follow]
    split
    · next back =>
      have rest := ih (walk.cut ⟨source, target⟩) grounded
      revert rest
      generalize follow enter opened source targets (walk.cut ⟨source, target⟩) = followed
      obtain ⟨after, _ | parts⟩ := followed
      · exact fun rest => .cut back rest
      · exact fun rest => .cut back rest
    · next forward =>
      have first := enters target walk forward grounded
      revert first
      generalize enter target walk = entered
      obtain ⟨between, _ | part⟩ := entered
      · exact fun first => .stopped forward first
      · intro first
        dsimp only
        have rest := ih between (first.grounded grounded)
        revert rest
        generalize follow enter opened source targets between = followed
        obtain ⟨after, _ | parts⟩ := followed
        · exact fun rest => .followed forward first rest
        · exact fun rest => .followed forward first rest

/-- The bounded traversal is a derivation whenever the bound exceeds the number of known modules
that are not open, so it never runs out. -/
theorem enters_enter (depth : Nat) (opened : List String) (path : String) (walk : Walk)
    (room : catalog.unopened opened < depth) (closed : path ∉ opened)
    (grounded : walk.resolver.Grounded catalog) :
    Enters opened path walk (enter depth opened path walk).1 (enter depth opened path walk).2 := by
  induction depth generalizing opened path walk with
  | zero => exact absurd room (Nat.not_lt_zero _)
  | succ depth ih =>
    rw [enter]
    cases cached : walk.resolver.modules.lookup path with
    | some module => exact .cached cached
    | none =>
      cases shared : walk.truncated.lookup path with
      | some module => exact .shared cached shared
      | none =>
        cases answered : (walk.resolver.directDependencies path).result with
        | error failure =>
          simp only [answered]
          exact .unknown cached shared answered
        | ok targets =>
          simp only [answered]
          have known : path ∈ catalog.paths := Catalog.mem_paths_of_edges (grounded.answer answered)
          -- Opening a known module uses up one of those that may still be opened.
          have narrower : catalog.unopened (path :: opened) < depth :=
            Nat.lt_of_lt_of_le (Catalog.unopened_cons_lt known closed) (Nat.lt_succ_iff.mp room)
          have below := follows_follow path
            (fun target walk forward => ih (path :: opened) target walk narrower forward) targets
            (walk.asked path) (Resolver.directDependencies_grounded grounded path)
          revert below
          unfold asked
          generalize follow (enter depth (path :: opened)) (path :: opened) path targets _ = followed
          obtain ⟨after, _ | parts⟩ := followed
          · exact fun below => .failed cached shared answered below
          · exact fun below => .expanded cached shared answered below

end Walk

namespace Resolver

/-- What a finished traversal leaves in the resolver; only a successful one reports its cuts. -/
def reporting (walk : Walk) : Except Failure Walk.Part → Resolver
  | .ok _ => { walk.resolver with cycleBreaks := walk.cuts }
  | .error _ => walk.resolver

/-- Each call of a resolver is one complete traversal. -/
theorem resolve_traverses {catalog : Catalog} {resolver : Resolver} (grounded : resolver.Grounded catalog)
    (path : String) : ∃ after result,
      Walk.Enters [] path (Walk.start { resolver with cycleBreaks := [] }) after result ∧
      resolver.resolve path = ⟨reporting after result, after.events, result.map (·.module)⟩ := by
  have start : (Walk.start { resolver with cycleBreaks := [] }).resolver.Grounded catalog :=
    ⟨grounded.serves, grounded.remembers⟩
  have entered := Walk.enters_enter (catalog.size + 1) [] path _ catalog.unopened_nil_lt (by simp) start
  refine ⟨_, _, entered, ?_⟩
  rw [resolve, grounded.serves]
  generalize Walk.enter (catalog.size + 1) [] path _ = walked
  obtain ⟨after, _ | part⟩ := walked <;> rfl

theorem resolve_enters {catalog : Catalog} {resolver : Resolver} (grounded : resolver.Grounded catalog)
    (path : String) : ∃ after result,
      Walk.Enters [] path (Walk.start { resolver with cycleBreaks := [] }) after result ∧
      (resolver.resolve path).result = result.map (·.module) ∧
      (resolver.resolve path).resolver = reporting after result := by
  obtain ⟨after, result, entered, answer⟩ := resolve_traverses grounded path
  exact ⟨after, result, entered, by rw [answer], by rw [answer]⟩

end Resolver

end DependencyDiagram
