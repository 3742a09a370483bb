import DependencyDiagram.Proofs.UnknownModules

/-!
Diagrams of a part of a catalog. A traversal only asks about paths that its target reaches, so a catalog
that says the same about them can stand in for the first one. The run is the same step by step, up to the
modules that a failure lists as available.
-/

namespace DependencyDiagram

/-- The same failure where other modules are available. -/
def Failure.among (available : List String) : Failure → Failure
  | .unknownModule path _ => .unknownModule path available
  | failure => failure

namespace Catalog

/-- The catalogs give the same answer about every path that this one reaches. -/
def AgreeBelow (first second : Catalog) (path : String) : Prop :=
  ∀ other, first.Reaches path other → first.dependencies? other = second.dependencies? other

variable {first second : Catalog} {source target : String}

theorem AgreeBelow.here (agree : first.AgreeBelow second source) :
    first.dependencies? source = second.dependencies? source :=
  agree source .refl

theorem AgreeBelow.follow (agree : first.AgreeBelow second source) (depends : first.Depends source target) :
    first.AgreeBelow second target :=
  fun other reached => agree other (.head (depends_iff.mp depends).1 reached)

end Catalog

namespace Resolver

/-- What the resolver has learned, with another catalog to ask from now on. -/
def onCatalog (second : Catalog) (resolver : Resolver) : Resolver := { resolver with catalog := second }

variable {first second : Catalog} {resolver : Resolver} {path : String}

theorem directDependencies_onCatalog (serves : resolver.catalog = first)
    (same : first.dependencies? path = second.dependencies? path) :
    (resolver.onCatalog second).directDependencies path =
      ⟨(resolver.directDependencies path).resolver.onCatalog second, (resolver.directDependencies path).events,
        (resolver.directDependencies path).result.mapError (Failure.among second.paths)⟩ := by
  subst serves
  unfold directDependencies onCatalog
  cases resolver.dependencies.lookup path with
  | some kept => rfl
  | none =>
    dsimp only
    rw [← same]
    cases resolver.catalog.dependencies? path with
    | none => rfl
    | some declared => rfl

end Resolver

namespace Walk

def onCatalog (second : Catalog) (walk : Walk) : Walk := { walk with resolver := walk.resolver.onCatalog second }

variable {first second : Catalog} {walk : Walk} {path : String}

theorem onCatalog_asked (grounded : walk.resolver.Grounded first)
    (same : first.dependencies? path = second.dependencies? path) :
    (walk.asked path).onCatalog second = (walk.onCatalog second).asked path := by
  have answer := Resolver.directDependencies_onCatalog grounded.serves same
  show (walk.asked path).onCatalog second =
    { walk.onCatalog second with
      resolver := ((walk.resolver.onCatalog second).directDependencies path).resolver
      events := walk.events ++ ((walk.resolver.onCatalog second).directDependencies path).events }
  rw [answer]
  rfl

theorem onCatalog_keep (module : Module) (truncated : Bool) :
    (walk.keep module truncated).onCatalog second = (walk.onCatalog second).keep module truncated := by
  cases truncated <;> rfl

theorem answered_onCatalog (grounded : walk.resolver.Grounded first)
    (same : first.dependencies? path = second.dependencies? path) {answer : Except Failure (List String)}
    (answered : (walk.resolver.directDependencies path).result = answer) :
    ((walk.onCatalog second).resolver.directDependencies path).result = answer.mapError (Failure.among second.paths) := by
  show ((walk.resolver.onCatalog second).directDependencies path).result = _
  rw [Resolver.directDependencies_onCatalog grounded.serves same, answered]

theorem mapError_map {α β : Type} (available : List String) (change : α → β) (result : Except Failure α) :
    (result.map change).mapError (Failure.among available) = (result.mapError (Failure.among available)).map change := by
  cases result <;> rfl

mutual

/-- A traversal takes the same steps over a catalog that agrees on what it comes to. -/
theorem Enters.onCatalog {opened : List String} {path : String} {walk after : Walk} {result : Except Failure Part} :
    Enters opened path walk after result → walk.resolver.Grounded first → first.AgreeBelow second path →
    Enters opened path (walk.onCatalog second) (after.onCatalog second) (result.mapError (Failure.among second.paths))
  | .cached found, _, _ => .cached found
  | .shared uncached found, _, _ => .shared uncached found
  | .unknown uncached unfinished refused, grounded, agree => by
    rw [onCatalog_asked grounded agree.here]
    exact .unknown uncached unfinished (answered_onCatalog grounded agree.here refused)
  | .failed uncached unfinished answered below, grounded, agree => by
    have further := below.onCatalog (Resolver.directDependencies_grounded grounded path)
      fun target member => agree.follow ⟨_, grounded.answer answered, member⟩
    rw [onCatalog_asked grounded agree.here] at further
    exact .failed uncached unfinished (answered_onCatalog grounded agree.here answered) further
  | .expanded uncached unfinished answered below, grounded, agree => by
    have further := below.onCatalog (Resolver.directDependencies_grounded grounded path)
      fun target member => agree.follow ⟨_, grounded.answer answered, member⟩
    rw [onCatalog_asked grounded agree.here] at further
    rw [onCatalog_keep]
    exact .expanded uncached unfinished (answered_onCatalog grounded agree.here answered) further

theorem Follows.onCatalog {opened targets : List String} {source : String} {walk after : Walk}
    {result : Except Failure Parts} : Follows opened source targets walk after result →
    walk.resolver.Grounded first → (∀ target ∈ targets, first.AgreeBelow second target) →
    Follows opened source targets (walk.onCatalog second) (after.onCatalog second)
      (result.mapError (Failure.among second.paths))
  | .done, _, _ => .done
  | .cut back rest, grounded, agree => by
    rw [mapError_map]
    exact .cut back (rest.onCatalog grounded (List.forall_mem_cons.mp agree).2)
  | .stopped forward first, grounded, agree =>
    .stopped forward (first.onCatalog grounded (List.forall_mem_cons.mp agree).1)
  | .followed forward first rest, grounded, agree => by
    rw [mapError_map]
    exact .followed forward (first.onCatalog grounded (List.forall_mem_cons.mp agree).1)
      (rest.onCatalog (first.grounded grounded) (List.forall_mem_cons.mp agree).2)

end

end Walk

namespace Resolver

variable {first second : Catalog} {target : String}

/-- A new resolver of either catalog resolves the target alike and cuts the same edges. -/
theorem resolve_agreeBelow (agree : first.AgreeBelow second target) :
    ((new second).resolve target).result =
        ((new first).resolve target).result.mapError (Failure.among second.paths) ∧
      ((new second).resolve target).resolver.cycleBreaks = ((new first).resolve target).resolver.cycleBreaks := by
  obtain ⟨after, result, entered, gives, leaves⟩ := resolve_enters (grounded_new first) target
  obtain ⟨otherAfter, otherResult, otherEntered, otherGives, otherLeaves⟩ :=
    resolve_enters (grounded_new second) target
  -- Over the second catalog the first run starts from the same walk as the second run.
  have taken : Walk.Enters [] target (Walk.start { new second with cycleBreaks := [] }) (after.onCatalog second)
      (result.mapError (Failure.among second.paths)) := entered.onCatalog (grounded_new first) agree
  have sound := Walk.sound_start ((sound_new second).report [])
  obtain ⟨rfl, alike⟩ := otherEntered.agree taken sound sound ⟨rfl, rfl⟩ (second.openBefore_nil target)
  rw [gives, otherGives, leaves, otherLeaves]
  refine ⟨(Walk.mapError_map _ _ _).symm, ?_⟩
  cases result with
  | error failure => exact otherEntered.cycleBreaks.trans entered.cycleBreaks.symm
  | ok part => exact alike.cuts

/-- Catalogs that give the same answer about every path the target reaches draw the same diagram, with the
same text and the same cut edges, or miss the same module. -/
theorem generate_determined_below (first second : Catalog) (target : String)
    (agree : ∀ path, first.Reaches target path → first.dependencies? path = second.dependencies? path)
    (format : Diagram.Format) (style : Option Style.Document) :
    (∃ diagram, ((new first).generate target format style).result = .ok diagram ∧
      ((new second).generate target format style).result = .ok diagram) ∨
    (∃ missing, first.Reaches target missing ∧ first.dependencies? missing = none ∧
      ((new first).generate target format style).result = .error (.unknownModule missing first.paths) ∧
      ((new second).generate target format style).result = .error (.unknownModule missing second.paths)) ∨
    (ModulePath.isValid target = false ∧
      ((new first).generate target format style).result = .error (.invalidPath target) ∧
      ((new second).generate target format style).result = .error (.invalidPath target)) := by
  cases valid : ModulePath.isValid target with
  | false =>
    exact .inr (.inr ⟨rfl, generate_of_not_isValid _ valid _ _, generate_of_not_isValid _ valid _ _⟩)
  | true =>
    obtain ⟨results, cuts⟩ := resolve_agreeBelow agree
    have outcome := resolve_new_result first target
    rw [generate_of_isValid _ valid, generate_of_isValid _ valid, results, cuts]
    cases found : first.firstUnknown? target with
    | none =>
      rw [found] at outcome
      obtain ⟨module, resolved⟩ := outcome
      rw [resolved]
      exact .inl ⟨_, rfl, rfl⟩
    | some missing =>
      rw [found] at outcome
      obtain ⟨reached, unknown⟩ := Catalog.reaches_firstUnknown found
      refine .inr (.inl ⟨missing, reached, unknown, ?_⟩)
      rw [outcome]
      exact ⟨rfl, rfl⟩

end Resolver

/-- Two modules on a cycle, one that needs a missing module, and one that nothing else needs. -/
def Catalog.original : Catalog :=
  .ofPairs [(":a", [":b", ":a"]), (":b", [":a"]), (":c", [":a", ":lost"]), (":unused", [":c"])]

/-- The same in another order, with other modules that none of these needs. -/
def Catalog.rearranged : Catalog :=
  .ofPairs [(":new", [":c", ":a"]), (":c", [":a", ":lost"]), (":b", [":a"]), (":a", [":b", ":a"]), (":unused", [])]

theorem Resolver.generate_rearranged :
    (∀ path, Catalog.original.Reaches ":c" path →
      Catalog.original.dependencies? path = Catalog.rearranged.dependencies? path) ∧
    ((new .original).generate ":c" .dot none).result =
      .error (.unknownModule ":lost" [":a", ":b", ":c", ":unused"]) ∧
    ((new .rearranged).generate ":c" .dot none).result =
      .error (.unknownModule ":lost" [":new", ":c", ":b", ":a", ":unused"]) ∧
    ∃ diagram, ((new .original).generate ":a" .mermaid none).result = .ok diagram ∧
      ((new .rearranged).generate ":a" .mermaid none).result = .ok diagram ∧
      diagram.cycleBreaks = [⟨":b", ":a"⟩] := by
  have same : ∀ path ∈ [":c", ":a", ":lost", ":b"],
      Catalog.original.dependencies? path = Catalog.rearranged.dependencies? path := by decide
  have agree (target : String) (listed : target ∈ [":c", ":a", ":lost", ":b"]) :
      Catalog.original.AgreeBelow .rearranged target := fun path reached =>
    same path (reached.mem_of_closed (by decide) listed)
  refine ⟨agree ":c" (by decide), rfl, ?_, ?_⟩
  · have failed : ((new .original).generate ":c" .dot none).result =
      .error (.unknownModule ":lost" [":a", ":b", ":c", ":unused"]) := rfl
    rcases generate_determined_below _ _ ":c" (agree ":c" (by decide)) .dot none with
      ⟨diagram, drawn, _⟩ | ⟨missing, _, _, missed, otherMissed⟩ | ⟨_, refused, _⟩
    · cases drawn.symm.trans failed
    · cases missed.symm.trans failed
      exact otherMissed
    · cases refused.symm.trans failed
  · rcases generate_determined_below _ _ ":a" (agree ":a" (by decide)) .mermaid none with
      ⟨diagram, drawn, otherDrawn⟩ | ⟨missing, _, _, missed, _⟩ | ⟨_, refused, _⟩
    · refine ⟨diagram, drawn, otherDrawn, ?_⟩
      cases drawn
      rfl
    · cases missed
    · cases refused

end DependencyDiagram
