import DependencyDiagram.Proofs.CachedModules
import DependencyDiagram.Proofs.CoherentCatalogs

/-!
How often a catalog is asked. Each of its answers is remembered and logged, so what has been answered so far
can be read off the log, and no module is asked about twice. A call that fails has asked one question more.
-/

namespace DependencyDiagram

namespace Log

/-- The known module whose direct dependencies were consulted, be it from memory or by asking for them. -/
def Event.consulted? : Event → Option String
  | .cachedDependencies module => some module
  | .foundDependencies module _ => some module
  | _ => none

/-- The module that the catalog was asked about and gave dependencies of. -/
def Event.answered? : Event → Option String
  | .foundDependencies module _ => some module
  | _ => none

def consulted (events : List Event) : List String := events.filterMap Event.consulted?

def answered (events : List Event) : List String := events.filterMap Event.answered?

@[simp] theorem consulted_append (events more : List Event) :
    consulted (events ++ more) = consulted events ++ consulted more := List.filterMap_append

@[simp] theorem answered_append (events more : List Event) :
    answered (events ++ more) = answered events ++ answered more := List.filterMap_append

theorem answered_subset_consulted (events : List Event) : answered events ⊆ consulted events := by
  intro path member
  obtain ⟨event, present, named⟩ := List.mem_filterMap.mp member
  cases event with
  | foundDependencies module dependencies => exact List.mem_filterMap.mpr ⟨_, present, named⟩
  | _ => cases named

end Log

namespace Resolver

def failed {α : Type} : Except Failure α → Bool
  | .ok _ => false
  | .error _ => true

@[simp] theorem failed_map {α β : Type} (result : Except Failure α) (f : α → β) :
    failed (result.map f) = failed result := by
  cases result <;> rfl

/-- The modules that the catalog has given the dependencies of, most recent first. -/
def answeredPaths (resolver : Resolver) : List String := resolver.dependencies.map Prod.fst

/-- From one state of a resolver to another the catalog is asked once about each module that the log reports
as found, and besides a number of times without an answer. What is consulted has been answered. -/
structure Asks (resolver after : Resolver) (events : List Log.Event) (unanswered : Nat) : Prop where
  answered : after.answeredPaths = (Log.answered events).reverse ++ resolver.answeredPaths
  consulted : Log.consulted events ⊆ after.answeredPaths
  once : resolver.answeredPaths.Nodup → after.answeredPaths.Nodup
  calls : after.lookupCalls = resolver.lookupCalls + (Log.answered events).length + unanswered

variable {catalog : Catalog} {resolver between after : Resolver} {events more : List Log.Event}
variable {path target : String} {unanswered later : Nat}

theorem Asks.grows (asks : resolver.Asks after events unanswered) : resolver.answeredPaths ⊆ after.answeredPaths := by
  rw [asks.answered]
  exact List.subset_append_right _ _

theorem Asks.trans (first : resolver.Asks between events unanswered) (second : between.Asks after more later) :
    resolver.Asks after (events ++ more) (unanswered + later) where
  answered := by
    rw [second.answered, first.answered, Log.answered_append, List.reverse_append, List.append_assoc]
  consulted := by
    rw [Log.consulted_append]
    exact List.append_subset.mpr ⟨List.Subset.trans first.consulted second.grows, second.consulted⟩
  once distinct := second.once (first.once distinct)
  calls := by
    rw [second.calls, first.calls, Log.answered_append, List.length_append]
    omega

/-- Events that are not about direct dependencies leave the memory as it is. -/
theorem asks_nothing (same : after.answeredPaths = resolver.answeredPaths)
    (calls : after.lookupCalls = resolver.lookupCalls) (answered : Log.answered events = [])
    (consulted : Log.consulted events = []) : resolver.Asks after events 0 := by
  refine ⟨?_, ?_, ?_, ?_⟩
  · rw [same, answered, List.reverse_nil, List.nil_append]
  · rw [consulted]
    exact List.nil_subset _
  · rw [same]
    exact id
  · rw [calls, answered]
    rfl

theorem directDependencies_asks (resolver : Resolver) (path : String) :
    resolver.Asks (resolver.directDependencies path).resolver (resolver.directDependencies path).events
      (failed (resolver.directDependencies path).result).toNat := by
  unfold directDependencies
  cases found : resolver.dependencies.lookup path with
  | some kept =>
    have remembered : path ∈ resolver.answeredPaths := mem_keys.mpr (by simp [found])
    exact ⟨rfl, by simpa [Log.consulted, Log.Event.consulted?] using remembered, id, rfl⟩
  | none =>
    have fresh : path ∉ resolver.answeredPaths := fun member => mem_keys.mp member found
    cases resolver.catalog.dependencies? path with
    | none => exact ⟨rfl, List.nil_subset _, id, rfl⟩
    | some declared =>
      refine ⟨rfl, ?_, fun distinct => List.nodup_cons.mpr ⟨fresh, distinct⟩, rfl⟩
      simp [Log.consulted, Log.Event.consulted?, answeredPaths]

/-- What is asked for with success is consulted. -/
theorem consulted_directDependencies (resolver : Resolver) (path : String) :
    Log.consulted (resolver.directDependencies path).events =
      if failed (resolver.directDependencies path).result then [] else [path] := by
  unfold directDependencies
  split
  · rfl
  · split <;> rfl

end Resolver

namespace Walk

open Resolver (failed)

variable {walk between after : Walk} {path : String}

/-- A part of a traversal, by the events that it adds. -/
def Asks (walk after : Walk) (unanswered : Nat) : Prop :=
  ∃ events, after.events = walk.events ++ events ∧ walk.resolver.Asks after.resolver events unanswered

theorem Asks.trans {unanswered later : Nat} (first : walk.Asks between unanswered)
    (second : between.Asks after later) : walk.Asks after (unanswered + later) := by
  obtain ⟨events, logged, asks⟩ := first
  obtain ⟨more, further, asksLater⟩ := second
  refine ⟨events ++ more, ?_, asks.trans asksLater⟩
  rw [further, logged, List.append_assoc]

theorem Asks.grows {unanswered : Nat} (asks : walk.Asks after unanswered) :
    walk.resolver.answeredPaths ⊆ after.resolver.answeredPaths := by
  obtain ⟨_, _, asks⟩ := asks
  exact asks.grows

theorem asks_self (walk : Walk) : walk.Asks walk 0 :=
  ⟨[], (List.append_nil _).symm, Resolver.asks_nothing rfl rfl rfl rfl⟩

theorem asks_cached (walk : Walk) (path : String) : walk.Asks (walk.note (.cachedModule path)) 0 :=
  ⟨[.cachedModule path], rfl, Resolver.asks_nothing rfl rfl rfl rfl⟩

theorem asks_cut (walk : Walk) (edge : CycleBreak) : walk.Asks (walk.cut edge) 0 :=
  ⟨[.cutCycle edge], rfl, Resolver.asks_nothing rfl rfl rfl rfl⟩

theorem asks_keep (walk : Walk) (module : Module) (truncated : Bool) :
    walk.Asks (walk.keep module truncated) 0 := by
  refine ⟨[], ?_, Resolver.asks_nothing ?_ ?_ rfl rfl⟩ <;> cases truncated <;> simp [keep, Resolver.answeredPaths]

theorem asks_asked (walk : Walk) (path : String) :
    walk.Asks (walk.asked path) (failed (walk.resolver.directDependencies path).result).toNat :=
  ⟨_, rfl, Resolver.directDependencies_asks walk.resolver path⟩

theorem asks_answered {targets : List String}
    (answered : (walk.resolver.directDependencies path).result = .ok targets) : walk.Asks (walk.asked path) 0 := by
  have asks := asks_asked walk path
  rwa [answered] at asks

mutual

/-- A traversal asks one question without an answer if it fails and none otherwise. -/
theorem Enters.asks {opened : List String} {path : String} {walk after : Walk}
    {result : Except Failure Part} : Enters opened path walk after result → walk.Asks after (failed result).toNat
  | .cached _ => asks_cached walk path
  | .shared _ _ => asks_self walk
  | .unknown _ _ refused => by
    have asks := asks_asked walk path
    rwa [refused] at asks
  | .failed _ _ answered below => by
    have asks := (asks_answered answered).trans below.asks
    rwa [Nat.zero_add] at asks
  | .expanded _ _ answered below =>
    ((asks_answered answered).trans below.asks).trans (asks_keep _ _ _)

theorem Follows.asks {opened targets : List String} {source : String} {walk after : Walk}
    {result : Except Failure Parts} : Follows opened source targets walk after result →
    walk.Asks after (failed result).toNat
  | .done => asks_self walk
  | .cut _ rest => by
    have asks := (asks_cut walk _).trans rest.asks
    rwa [Nat.zero_add, ← Resolver.failed_map] at asks
  | .stopped _ first => first.asks
  | .followed _ first rest => by
    have asks := first.asks.trans rest.asks
    rwa [failed, Bool.toNat_false, Nat.zero_add, ← Resolver.failed_map] at asks

end

/-- Every module at hand has been asked about. -/
def Vouched (walk : Walk) : Prop := ∀ path, walk.AtHand path → path ∈ walk.resolver.answeredPaths

theorem atHand_asked (walk : Walk) (path other : String) : (walk.asked path).AtHand other ↔ walk.AtHand other := by
  rw [AtHand, asked_modules, asked_truncated, AtHand]

theorem Vouched.asked (vouched : walk.Vouched) (path : String) : (walk.asked path).Vouched :=
  fun other atHand => (asks_asked walk path).grows (vouched other ((atHand_asked walk path other).mp atHand))

theorem mem_answeredPaths_asked {targets : List String}
    (answered : (walk.resolver.directDependencies path).result = .ok targets) :
    path ∈ (walk.asked path).resolver.answeredPaths := by
  refine (Resolver.directDependencies_asks walk.resolver path).consulted ?_
  rw [Resolver.consulted_directDependencies, answered]
  exact List.mem_singleton_self path

mutual

theorem Enters.vouched {opened : List String} {path : String} {walk after : Walk}
    {result : Except Failure Part} : Enters opened path walk after result → walk.Vouched → after.Vouched
  | .cached _, vouched => vouched
  | .shared _ _, vouched => vouched
  | .unknown _ _ _, vouched => vouched.asked path
  | .failed _ _ _ below, vouched => below.vouched (vouched.asked path)
  | .expanded _ _ answered below, vouched => by
    intro other atHand
    refine (asks_keep _ _ _).grows ?_
    rcases (atHand_keep _ _ _ _).mp atHand with rfl | before
    · exact below.asks.grows (mem_answeredPaths_asked answered)
    · exact below.vouched (vouched.asked path) other before

theorem Follows.vouched {opened targets : List String} {source : String} {walk after : Walk}
    {result : Except Failure Parts} : Follows opened source targets walk after result → walk.Vouched → after.Vouched
  | .done, vouched => vouched
  | .cut _ rest, vouched => rest.vouched vouched
  | .stopped _ first, vouched => first.vouched vouched
  | .followed _ first rest, vouched => rest.vouched (first.vouched vouched)

end

end Walk

namespace Resolver

variable {catalog : Catalog} {resolver : Resolver} {path target : String} {module : Module}

/-- A module that is kept for later calls has been asked about. -/
def Vouched (resolver : Resolver) : Prop := resolver.keptPaths ⊆ resolver.answeredPaths

theorem Vouched.started (vouched : resolver.Vouched) : (Walk.start { resolver with cycleBreaks := [] }).Vouched := by
  rintro path (kept | shared)
  · exact vouched (mem_keptPaths.mpr kept)
  · simp [Walk.start] at shared

theorem resolve_asks (grounded : resolver.Grounded catalog) (path : String) :
    resolver.Asks (resolver.resolve path).resolver (resolver.resolve path).events
      (failed (resolver.resolve path).result).toNat := by
  obtain ⟨walk, result, entered, answer⟩ := resolve_traverses grounded path
  obtain ⟨events, logged, asks⟩ := entered.asks
  rw [answer, failed_map, logged]
  cases result <;> exact ⟨asks.answered, asks.consulted, asks.once, asks.calls⟩

theorem Vouched.resolve (vouched : resolver.Vouched) (grounded : resolver.Grounded catalog) (path : String) :
    (resolver.resolve path).resolver.Vouched := by
  obtain ⟨walk, result, entered, answer⟩ := resolve_traverses grounded path
  have ended : walk.resolver.Vouched := fun other kept =>
    entered.vouched vouched.started other (.inl (mem_keptPaths.mp kept))
  rw [answer]
  cases result <;> exact ended

theorem Vouched.directDependencies (vouched : resolver.Vouched) (path : String) :
    (resolver.directDependencies path).resolver.Vouched := by
  rw [Vouched, keptPaths_directDependencies]
  exact List.Subset.trans vouched (directDependencies_asks resolver path).grows

/-- Everything that a resolved module reaches has been asked about. -/
theorem Sound.answered_of_reaches (sound : resolver.Sound catalog) (stocked : resolver.Stocked catalog)
    (vouched : resolver.Vouched) (resolved : failed (resolver.resolve target).result = false)
    (reached : catalog.Reaches target path) : path ∈ (resolver.resolve target).resolver.answeredPaths := by
  obtain ⟨walk, result, entered, answer⟩ := resolve_traverses sound.grounded target
  rw [answer] at resolved ⊢
  cases result with
  | error failure => cases resolved
  | ok part =>
    obtain ⟨finished, atHand⟩ := (entered.stocked (Walk.sound_start (sound.report []))
      (catalog.openBefore_nil target) List.not_mem_nil stocked.started).2 part rfl
    exact entered.vouched vouched.started path (finished.atHand_of_reaches atHand reached)

end Resolver

def Answer.forget {α : Type} (answer : Answer α) : Answer Unit :=
  ⟨answer.resolver, answer.events, answer.result.map fun _ => ()⟩

theorem Answer.forget_error {α : Type} {answer : Answer α} {failure : Failure} :
    answer.forget.result = .error failure ↔ answer.result = .error failure := by
  unfold forget
  cases answer.result <;> simp [Except.map]

/-- One of the two operations that ask a catalog. -/
inductive Request where
  | resolve (path : String)
  | directDependencies (path : String)

def Resolver.serve (resolver : Resolver) : Request → Answer Unit
  | .resolve path => (resolver.resolve path).forget
  | .directDependencies path => (resolver.directDependencies path).forget

namespace Resolver

variable {catalog : Catalog} {resolver : Resolver}

theorem serve_asks (grounded : resolver.Grounded catalog) (request : Request) :
    resolver.Asks (resolver.serve request).resolver (resolver.serve request).events
      (failed (resolver.serve request).result).toNat := by
  cases request with
  | resolve path =>
    have asks := resolve_asks grounded path
    rwa [← failed_map _ fun _ => ()] at asks
  | directDependencies path =>
    have asks := resolver.directDependencies_asks path
    rwa [← failed_map _ fun _ => ()] at asks

theorem serve_refused (sound : resolver.Sound catalog) {request : Request} {failure : Failure}
    (refused : (resolver.serve request).result = .error failure) :
    ∃ missing, failure = .unknownModule missing catalog.paths ∧ missing ∉ catalog.paths := by
  cases request with
  | resolve path =>
    obtain ⟨missing, named, unknown⟩ := sound.resolve_refusal (Answer.forget_error.mp refused)
    exact ⟨missing, named, Catalog.not_mem_paths_iff.mpr unknown⟩
  | directDependencies path =>
    obtain ⟨unasked, named⟩ := sound.grounded.refusal (Answer.forget_error.mp refused)
    exact ⟨path, named, Catalog.not_mem_paths_iff.mpr (Option.map_eq_none_iff.mp unasked)⟩

end Resolver

/-- A resolver that has served some requests, with all that was logged meanwhile and the number of requests
that have failed. -/
structure History where
  resolver : Resolver
  events : List Log.Event
  failures : Nat

namespace History

open Resolver (failed)

def next (history : History) (request : Request) : History :=
  let answer := history.resolver.serve request
  ⟨answer.resolver, history.events ++ answer.events, history.failures + (failed answer.result).toNat⟩

/-- What a new resolver goes through with some requests, the first one first. -/
def of (catalog : Catalog) (requests : List Request) : History :=
  requests.foldl next ⟨.new catalog, [], 0⟩

/-- The state of the resolver is what the log says. -/
structure Traced (catalog : Catalog) (history : History) : Prop where
  sound : history.resolver.Sound catalog
  stocked : history.resolver.Stocked catalog
  vouched : history.resolver.Vouched
  asks : (Resolver.new catalog).Asks history.resolver history.events history.failures

variable {catalog : Catalog} {history : History}

theorem traced_begin (catalog : Catalog) : Traced catalog ⟨.new catalog, [], 0⟩ :=
  ⟨Resolver.sound_new catalog, Resolver.stocked_new catalog, List.nil_subset _,
    Resolver.asks_nothing rfl rfl rfl rfl⟩

theorem Traced.next (traced : history.Traced catalog) (request : Request) : (history.next request).Traced catalog := by
  have asks := traced.asks.trans (Resolver.serve_asks traced.sound.grounded request)
  cases request with
  | resolve path =>
    exact ⟨traced.sound.resolve path, traced.stocked.resolve traced.sound path,
      traced.vouched.resolve traced.sound.grounded path, asks⟩
  | directDependencies path =>
    exact ⟨traced.sound.directDependencies path, traced.stocked.directDependencies path,
      traced.vouched.directDependencies path, asks⟩

theorem traced_of (catalog : Catalog) (requests : List Request) : (of catalog requests).Traced catalog := by
  unfold of
  generalize start : (⟨.new catalog, [], 0⟩ : History) = history
  have traced : history.Traced catalog := start ▸ traced_begin catalog
  clear start
  induction requests generalizing history with
  | nil => exact traced
  | cons request rest ih => exact ih _ (traced.next request)

theorem Traced.answeredPaths (traced : history.Traced catalog) :
    history.resolver.answeredPaths = (Log.answered history.events).reverse := by
  rw [traced.asks.answered]
  exact List.append_nil _

theorem Traced.answered_nodup (traced : history.Traced catalog) : (Log.answered history.events).Nodup := by
  have distinct := traced.asks.once List.nodup_nil
  rwa [traced.answeredPaths, List.nodup_reverse] at distinct

theorem Traced.mem_answered_iff (traced : history.Traced catalog) (path : String) :
    path ∈ Log.answered history.events ↔ path ∈ Log.consulted history.events := by
  constructor
  · exact fun answered => Log.answered_subset_consulted _ answered
  · intro consulted
    have remembered := traced.asks.consulted consulted
    rwa [traced.answeredPaths, List.mem_reverse] at remembered

theorem Traced.mem_paths (traced : history.Traced catalog) {path : String}
    (consulted : path ∈ Log.consulted history.events) : path ∈ catalog.paths := by
  obtain ⟨kept, found⟩ := Option.ne_none_iff_exists'.mp (Resolver.mem_keys.mp (traced.asks.consulted consulted))
  exact Catalog.mem_paths_of_edges (traced.sound.grounded.remembers path kept found)

theorem Traced.lookupCalls (traced : history.Traced catalog) :
    history.resolver.lookupCalls = (Log.consulted history.events).eraseDups.length + history.failures := by
  have same : (Log.answered history.events).Perm (Log.consulted history.events).eraseDups := by
    refine (List.perm_ext_iff_of_nodup traced.answered_nodup (Resolver.nodup_eraseDups _)).mpr fun path => ?_
    rw [List.mem_eraseDups]
    exact traced.mem_answered_iff path
  have unasked : (Resolver.new catalog).lookupCalls = 0 := rfl
  rw [traced.asks.calls, same.length_eq, unasked, Nat.zero_add]

/-- The catalog has been asked once about each known path that was consulted, and once more by each request
that failed. -/
structure AsksOnce (catalog : Catalog) (history : History) : Prop where
  counted : history.resolver.lookupCalls =
    (Log.consulted history.events).eraseDups.length + history.failures
  /-- No path is answered twice, and what is consulted has been answered. -/
  once : (Log.answered history.events).Nodup
  answered_iff : ∀ path, path ∈ Log.answered history.events ↔ path ∈ Log.consulted history.events
  known : ∀ path ∈ Log.consulted history.events, path ∈ catalog.paths
  /-- Asking for direct dependencies with success consults their module. -/
  named : ∀ path targets, (history.resolver.directDependencies path).result = .ok targets →
    Log.consulted (history.resolver.directDependencies path).events = [path]
  /-- Besides the questions that are answered a request asks one if it fails and none otherwise. -/
  questions : ∀ request : Request, (history.resolver.serve request).resolver.lookupCalls =
    history.resolver.lookupCalls + (Log.answered (history.resolver.serve request).events).length +
      (failed (history.resolver.serve request).result).toNat
  /-- The question without an answer is about a path that is not known. -/
  refused : ∀ request failure, (history.resolver.serve request).result = .error failure →
    ∃ missing, failure = .unknownModule missing catalog.paths ∧ missing ∉ catalog.paths
  reached : ∀ target module, (history.resolver.resolve target).result = .ok module →
    ∀ path, catalog.Reaches target path → path ∈ Log.consulted (history.next (.resolve target)).events

/-- Whatever is requested of a new resolver, it asks about no known path twice. -/
theorem of_asksOnce (catalog : Catalog) (requests : List Request) : (of catalog requests).AsksOnce catalog := by
  have traced := traced_of catalog requests
  refine ⟨traced.lookupCalls, traced.answered_nodup, traced.mem_answered_iff, ?_, ?_, ?_, ?_, ?_⟩
  · exact fun path consulted => traced.mem_paths consulted
  · intro path targets answered
    rw [Resolver.consulted_directDependencies, answered]
    rfl
  · exact fun request => (Resolver.serve_asks traced.sound.grounded request).calls
  · intro request failure refused
    exact Resolver.serve_refused traced.sound refused
  · intro target module resolved path reached
    have later := traced.next (.resolve target)
    rw [← later.mem_answered_iff, ← List.mem_reverse, ← later.answeredPaths]
    exact traced.sound.answered_of_reaches traced.stocked traced.vouched (by rw [resolved]; rfl) reached

/-- Two modules with a cut edge below them are expanded in both resolutions, but asked about once. -/
example : (of .partlyCyclic [.resolve ":b", .directDependencies ":lost", .resolve ":a"]).resolver.lookupCalls = 5 := rfl

end History

end DependencyDiagram
