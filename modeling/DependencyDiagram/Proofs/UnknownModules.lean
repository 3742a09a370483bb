import DependencyDiagram.Proofs.CallHistory

/-!
Failing resolution. A depth-first walk over what is declared enters every reachable path once, known or
not. A resolver takes the same way, whatever it has kept and cut: it fails exactly if the walk enters an
unknown path, and reports the first one.
-/

namespace DependencyDiagram

open Relation

namespace Catalog

theorem unopened_cons_le (catalog : Catalog) (path : String) (opened : List String) :
    catalog.unopened (path :: opened) ≤ catalog.unopened opened := by
  rw [unopened, unopened, ← List.countP_eq_length_filter, ← List.countP_eq_length_filter]
  refine List.countP_mono_left fun other _ unopened => ?_
  simp only [List.mem_cons, not_or, decide_eq_true_eq] at unopened ⊢
  exact unopened.2

/-- The paths that a depth-first walk enters, in order. It follows dependencies as they are declared and
enters no path twice; nothing is declared below an unknown path. -/
def entered (catalog : Catalog) (visited : List String) : List String → List String
  | [] => []
  | path :: stack =>
    if path ∈ visited then catalog.entered visited stack
    else path :: catalog.entered (path :: visited) ((catalog.dependencies? path).getD [] ++ stack)
termination_by stack => (catalog.unopened visited, stack.length)
decreasing_by
  · exact Prod.Lex.right _ (Nat.lt_succ_self _)
  · next fresh =>
    cases found : catalog.dependencies? path with
    | none =>
      -- An unknown path adds nothing to the stack.
      rcases Nat.lt_or_eq_of_le (catalog.unopened_cons_le path visited) with fewer | same
      · exact Prod.Lex.left _ _ fewer
      · rw [same]
        exact Prod.Lex.right _ (Nat.lt_succ_self _)
    | some declared =>
      have known : path ∈ catalog.paths := mem_paths_of_edges (by rw [edges?, found]; rfl)
      exact Prod.Lex.left _ _ (unopened_cons_lt known fresh)

/-- The first unknown path that a depth-first walk enters. -/
def nextUnknown? (catalog : Catalog) (visited stack : List String) : Option String :=
  (catalog.entered visited stack).find? (!catalog.contains ·)

def firstUnknown? (catalog : Catalog) (path : String) : Option String :=
  catalog.nextUnknown? [] [path]

variable {catalog : Catalog} {visited stack : List String} {path other : String}

theorem entered_visited (member : path ∈ visited) :
    catalog.entered visited (path :: stack) = catalog.entered visited stack := by
  rw [entered, if_pos member]

theorem entered_fresh (fresh : path ∉ visited) : catalog.entered visited (path :: stack) =
    path :: catalog.entered (path :: visited) ((catalog.dependencies? path).getD [] ++ stack) := by
  rw [entered, if_neg fresh]

theorem fresh_of_entered (member : other ∈ catalog.entered visited stack) : other ∉ visited := by
  fun_induction entered catalog visited stack with
  | case1 => cases member
  | case2 visited path stack seen ih => exact ih member
  | case3 visited path stack fresh ih =>
    rcases List.mem_cons.mp member with rfl | later
    · exact fresh
    · exact fun seen => ih later (List.mem_cons_of_mem _ seen)

theorem nodup_entered (catalog : Catalog) (visited stack : List String) :
    (catalog.entered visited stack).Nodup := by
  fun_induction entered catalog visited stack with
  | case1 => exact List.nodup_nil
  | case2 visited path stack seen ih => exact ih
  | case3 visited path stack fresh ih =>
    refine List.nodup_cons.mpr ⟨fun again => ?_, ih⟩
    exact fresh_of_entered again List.mem_cons_self

theorem reaches_of_entered (member : other ∈ catalog.entered visited stack) :
    ∃ start ∈ stack, catalog.Reaches start other := by
  fun_induction entered catalog visited stack with
  | case1 => cases member
  | case2 visited path stack seen ih =>
    obtain ⟨start, listed, reached⟩ := ih member
    exact ⟨start, List.mem_cons_of_mem _ listed, reached⟩
  | case3 visited path stack fresh ih =>
    rcases List.mem_cons.mp member with rfl | later
    · exact ⟨other, List.mem_cons_self, .refl⟩
    · obtain ⟨start, listed, reached⟩ := ih later
      rcases List.mem_append.mp listed with below | beside
      · cases found : catalog.dependencies? path with
        | none => simp [found] at below
        | some declared =>
          rw [found, Option.getD_some] at below
          exact ⟨path, List.mem_cons_self, .head ⟨declared, found, below⟩ reached⟩
      · exact ⟨start, List.mem_cons_of_mem _ beside, reached⟩

theorem visited_or_entered (member : other ∈ stack) : other ∈ visited ∨ other ∈ catalog.entered visited stack := by
  fun_induction entered catalog visited stack with
  | case1 => cases member
  | case2 visited path stack seen ih =>
    rcases List.mem_cons.mp member with rfl | later
    · exact .inl seen
    · exact ih later
  | case3 visited path stack fresh ih =>
    rcases List.mem_cons.mp member with rfl | later
    · exact .inr List.mem_cons_self
    · rcases ih (List.mem_append_right _ later) with seen | found
      · rcases List.mem_cons.mp seen with rfl | earlier
        · exact .inr List.mem_cons_self
        · exact .inl earlier
      · exact .inr (List.mem_cons_of_mem _ found)

/-- What is declared for an entered path is entered too, unless it has been before. -/
theorem entered_closed {source target : String} (member : source ∈ catalog.entered visited stack)
    (declares : catalog.Declares source target) : target ∈ visited ∨ target ∈ catalog.entered visited stack := by
  fun_induction entered catalog visited stack with
  | case1 => cases member
  | case2 visited path stack seen ih => exact ih member
  | case3 visited path stack fresh ih =>
    have below : target ∈ path :: visited ∨
        target ∈ catalog.entered (path :: visited) ((catalog.dependencies? path).getD [] ++ stack) := by
      rcases List.mem_cons.mp member with rfl | later
      · obtain ⟨declared, found, listed⟩ := declares
        apply visited_or_entered
        rw [found]
        exact List.mem_append_left _ listed
      · exact ih later
    rcases below with seen | found
    · rcases List.mem_cons.mp seen with rfl | earlier
      · exact .inr List.mem_cons_self
      · exact .inl earlier
    · exact .inr (List.mem_cons_of_mem _ found)

/-- A walk from one path enters what the path reaches. -/
theorem mem_entered_iff : other ∈ catalog.entered [] [path] ↔ catalog.Reaches path other := by
  constructor
  · intro member
    obtain ⟨start, listed, reached⟩ := reaches_of_entered member
    rwa [List.mem_singleton.mp listed] at reached
  · intro reached
    induction reached with
    | refl => exact (visited_or_entered (List.mem_singleton_self path)).resolve_left List.not_mem_nil
    | tail _ declares ih => exact (entered_closed ih declares).resolve_left List.not_mem_nil

/-- A path further down the stack makes no difference when it will have been entered before. -/
theorem entered_skip (catalog : Catalog) (visited front back : List String)
    (before : path ∈ visited ∨ path ∈ front) :
    catalog.entered visited (front ++ path :: back) = catalog.entered visited (front ++ back) := by
  generalize rest : front ++ back = stack
  fun_induction entered catalog visited stack generalizing front back with
  | case1 visited =>
    obtain ⟨rfl, rfl⟩ := List.append_eq_nil_iff.mp rest
    have seen : path ∈ visited := before.resolve_right List.not_mem_nil
    rw [List.nil_append, entered_visited seen, entered]
  | case2 visited first stack seen ih =>
    cases front with
    | nil =>
      have pathSeen : path ∈ visited := before.resolve_right List.not_mem_nil
      rw [List.nil_append] at rest
      rw [List.nil_append, entered_visited pathSeen, rest, entered_visited seen]
    | cons head front =>
      obtain ⟨rfl, rfl⟩ := List.cons.inj rest
      rw [List.cons_append, entered_visited seen]
      refine ih front back ?_ rfl
      rcases before with earlier | listed
      · exact .inl earlier
      · rcases List.mem_cons.mp listed with rfl | later
        · exact .inl seen
        · exact .inr later
  | case3 visited first stack fresh ih =>
    cases front with
    | nil =>
      have pathSeen : path ∈ visited := before.resolve_right List.not_mem_nil
      rw [List.nil_append] at rest
      rw [List.nil_append, entered_visited pathSeen, rest, entered_fresh fresh]
    | cons head front =>
      obtain ⟨rfl, rfl⟩ := List.cons.inj rest
      rw [List.cons_append, entered_fresh fresh, ← List.append_assoc]
      refine congrArg _ (ih (_ ++ front) back ?_ (List.append_assoc _ _ _))
      rcases before with earlier | listed
      · exact .inl (List.mem_cons_of_mem _ earlier)
      · rcases List.mem_cons.mp listed with rfl | later
        · exact .inl List.mem_cons_self
        · exact .inr (List.mem_append_right _ later)

theorem entered_filter (catalog : Catalog) (visited front back : List String) (keeps : String → Bool)
    (names : List String) (before : ∀ name ∈ names, keeps name = false → name ∈ visited ∨ name ∈ front) :
    catalog.entered visited (front ++ names.filter keeps ++ back) =
      catalog.entered visited (front ++ names ++ back) := by
  induction names generalizing front with
  | nil => rfl
  | cons name names ih =>
    obtain ⟨here, later⟩ := List.forall_mem_cons.mp before
    cases kept : keeps name with
    | true =>
      have further := ih (front ++ [name]) fun other member dropped =>
        (later other member dropped).imp_right (List.mem_append_left _)
      rw [List.filter_cons_of_pos kept]
      simpa using further
    | false =>
      rw [List.filter_cons_of_neg (by simp [kept]), ih front later]
      simpa using (catalog.entered_skip visited front (names ++ back) (here kept)).symm

theorem entered_eraseDups (catalog : Catalog) (visited front back names : List String) :
    catalog.entered visited (front ++ names.eraseDups ++ back) =
      catalog.entered visited (front ++ names ++ back) := by
  -- What is left after each name is a filtered rest, not the tail itself.
  induction size : names.length using Nat.strongRecOn generalizing front names with
  | ind size ih =>
    subst size
    cases names with
    | nil => rfl
    | cons name names =>
      have shorter : (names.filter fun other => !other == name).length < (name :: names).length :=
        Nat.lt_succ_of_le (List.length_filter_le _ _)
      have rest := ih _ shorter (front ++ [name]) _ rfl
      have repeated := catalog.entered_filter visited (front ++ [name]) back (fun other => !other == name) names
        fun other _ dropped => .inr (by simp_all)
      rw [List.eraseDups_cons]
      simpa using rest.trans repeated

/-- The walk may as well follow the edges, without a path's mention of itself and repetitions. -/
theorem entered_withoutNoise (catalog : Catalog) (visited stack declared : List String) (seen : path ∈ visited) :
    catalog.entered visited (Resolver.withoutNoise path declared ++ stack) =
      catalog.entered visited (declared ++ stack) := by
  have once := catalog.entered_eraseDups visited [] stack (declared.filter (· != path))
  have others := catalog.entered_filter visited [] stack (· != path) declared
    fun name _ dropped => .inl (by simp_all)
  exact once.trans others

theorem nextUnknown_visited (member : path ∈ visited) :
    catalog.nextUnknown? visited (path :: stack) = catalog.nextUnknown? visited stack := by
  rw [nextUnknown?, entered_visited member, nextUnknown?]

theorem nextUnknown_unknown (fresh : path ∉ visited) (unknown : catalog.edges? path = none) :
    catalog.nextUnknown? visited (path :: stack) = some path := by
  have absent : catalog.contains path = false := by
    simpa [contains, edges?] using unknown
  rw [nextUnknown?, entered_fresh fresh, List.find?_cons_of_pos (by simp [absent])]

theorem nextUnknown_known {targets : List String} (fresh : path ∉ visited)
    (known : catalog.edges? path = some targets) : catalog.nextUnknown? visited (path :: stack) =
      catalog.nextUnknown? (path :: visited) (targets ++ stack) := by
  obtain ⟨declared, found, rfl⟩ := Option.map_eq_some_iff.mp known
  have present : catalog.contains path = true := by simp [contains, found]
  rw [nextUnknown?, entered_fresh fresh, List.find?_cons_of_neg (by simp [present]), found, Option.getD_some,
    nextUnknown?, catalog.entered_withoutNoise _ stack declared List.mem_cons_self]

/-- The walk meets an unknown path exactly if one can be reached. -/
theorem firstUnknown_isSome_iff (catalog : Catalog) (path : String) : (catalog.firstUnknown? path).isSome ↔
    ∃ missing, catalog.Reaches path missing ∧ catalog.dependencies? missing = none := by
  rw [firstUnknown?, nextUnknown?, List.find?_isSome]
  simp only [mem_entered_iff, contains, Option.not_isSome, Option.isNone_iff_eq_none]

theorem reaches_firstUnknown {missing : String} (found : catalog.firstUnknown? path = some missing) :
    catalog.Reaches path missing ∧ catalog.dependencies? missing = none := by
  have unknown := List.find?_some found
  rw [contains, Option.not_isSome, Option.isNone_iff_eq_none] at unknown
  exact ⟨mem_entered_iff.mp (List.mem_of_find?_eq_some found), unknown⟩

end Catalog

namespace Walk

/-- The walk need not expand the module: it is kept for good or shared within the call. -/
def AtHand (walk : Walk) (path : String) : Prop :=
  walk.resolver.modules.lookup path ≠ none ∨ walk.truncated.lookup path ≠ none

/-- The visited paths are those of the open modules and of the modules at hand. -/
def Explored (walk : Walk) (opened visited : List String) : Prop :=
  ∀ path, path ∈ visited ↔ path ∈ opened ∨ walk.AtHand path

variable {catalog : Catalog} {walk after : Walk} {opened visited : List String} {path : String}

theorem atHand_keep (walk : Walk) (module : Module) (truncated : Bool) (path : String) :
    (walk.keep module truncated).AtHand path ↔ path = module.path ∨ walk.AtHand path := by
  cases truncated with
  | false =>
    rw [AtHand, keep_whole_modules, keep_whole_truncated, lookup_entry]
    by_cases same : path = module.path <;> simp [same, AtHand]
  | true =>
    rw [AtHand, keep_part_truncated, keep_part_resolver, lookup_entry]
    by_cases same : path = module.path <;> simp [same, AtHand]

theorem Explored.asked (explored : walk.Explored opened visited) (path : String) :
    (walk.asked path).Explored (path :: opened) (path :: visited) := by
  intro other
  have before := explored other
  rw [AtHand] at before ⊢
  rw [asked_modules, asked_truncated, List.mem_cons, List.mem_cons, before, or_assoc]

/-- Keeping a module closes it. -/
theorem Explored.keep {module : Module} (explored : walk.Explored (module.path :: opened) visited)
    (truncated : Bool) : (walk.keep module truncated).Explored opened visited := by
  intro other
  rw [explored other, atHand_keep, List.mem_cons, or_assoc, or_left_comm]

theorem Explored.fresh (explored : walk.Explored opened visited) (closed : path ∉ opened)
    (uncached : walk.resolver.modules.lookup path = none) (unfinished : walk.truncated.lookup path = none) :
    path ∉ visited := by
  intro seen
  rcases (explored path).mp seen with isOpen | cached | shared
  · exact closed isOpen
  · exact cached uncached
  · exact shared unfinished

/-- The result agrees with a depth-first walk that has been to `visited` and has `targets` on top of its
stack: a failure names the first unknown path, and without one the walk goes on behind the targets. -/
def FindsUnknown {α : Type} (catalog : Catalog) (opened visited targets : List String) (after : Walk) :
    Except Failure α → Prop
  | .error failure => ∀ stack, ∃ missing, catalog.nextUnknown? visited (targets ++ stack) = some missing ∧
      failure = .unknownModule missing catalog.paths
  | .ok _ => ∃ further, after.Explored opened further ∧
      ∀ stack, catalog.nextUnknown? visited (targets ++ stack) = catalog.nextUnknown? further stack

/-- A target that has been visited is passed over. -/
theorem FindsUnknown.skip {α : Type} {targets : List String} {target : String} {result : Except Failure α}
    (seen : target ∈ visited) (rest : FindsUnknown catalog opened visited targets after result) :
    FindsUnknown catalog opened visited (target :: targets) after result := by
  cases result with
  | error failure =>
    intro stack
    obtain ⟨missing, found, named⟩ := rest stack
    exact ⟨missing, (Catalog.nextUnknown_visited seen).trans found, named⟩
  | ok value =>
    obtain ⟨further, explored, goesOn⟩ := rest
    exact ⟨further, explored, fun stack => (Catalog.nextUnknown_visited seen).trans (goesOn stack)⟩

theorem FindsUnknown.map {α β : Type} {targets : List String} {result : Except Failure α} (change : α → β)
    (finds : FindsUnknown catalog opened visited targets after result) :
    FindsUnknown catalog opened visited targets after (result.map change) := by
  cases result with
  | error failure => exact finds
  | ok value => exact finds

/-- Targets are walked one after the other. -/
theorem FindsUnknown.append {α : Type} {first targets further : List String} {result : Except Failure α}
    (passed : ∀ stack, catalog.nextUnknown? visited (first ++ stack) = catalog.nextUnknown? further stack)
    (rest : FindsUnknown catalog opened further targets after result) :
    FindsUnknown catalog opened visited (first ++ targets) after result := by
  cases result with
  | error failure =>
    intro stack
    obtain ⟨missing, found, named⟩ := rest stack
    refine ⟨missing, ?_, named⟩
    rw [List.append_assoc, passed, found]
  | ok value =>
    obtain ⟨last, explored, goesOn⟩ := rest
    refine ⟨last, explored, fun stack => ?_⟩
    rw [List.append_assoc, passed, goesOn]

mutual

theorem Enters.findsUnknown {opened : List String} {path : String} {walk after : Walk}
    {result : Except Failure Part} : Enters opened path walk after result →
    walk.resolver.Grounded catalog → path ∉ opened → ∀ visited, walk.Explored opened visited →
    FindsUnknown catalog opened visited [path] after result
  | .cached found, _, _ => by
    intro visited explored
    have seen : path ∈ visited := (explored path).mpr (.inr (.inl (by simp [found])))
    exact .skip seen ⟨visited, explored, fun _ => rfl⟩
  | .shared _ found, _, _ => by
    intro visited explored
    have seen : path ∈ visited := (explored path).mpr (.inr (.inr (by simp [found])))
    exact .skip seen ⟨visited, explored, fun _ => rfl⟩
  | .unknown uncached unfinished refused, grounded, closed => by
    intro visited explored stack
    obtain ⟨unknown, named⟩ := grounded.refusal refused
    have fresh := explored.fresh closed uncached unfinished
    exact ⟨path, Catalog.nextUnknown_unknown fresh unknown, named⟩
  | .failed uncached unfinished answered below, grounded, closed => by
    intro visited explored stack
    have known := grounded.answer answered
    have fresh := explored.fresh closed uncached unfinished
    obtain ⟨missing, found, named⟩ := below.findsUnknown (Resolver.directDependencies_grounded grounded path)
      (path :: visited) (explored.asked path) stack
    exact ⟨missing, (Catalog.nextUnknown_known fresh known).trans found, named⟩
  | .expanded uncached unfinished answered below, grounded, closed => by
    intro visited explored
    have known := grounded.answer answered
    have fresh := explored.fresh closed uncached unfinished
    obtain ⟨further, belowExplored, goesOn⟩ := below.findsUnknown
      (Resolver.directDependencies_grounded grounded path) (path :: visited) (explored.asked path)
    exact ⟨further, belowExplored.keep _, fun stack =>
      (Catalog.nextUnknown_known fresh known).trans (goesOn stack)⟩

theorem Follows.findsUnknown {opened targets : List String} {source : String} {walk after : Walk}
    {result : Except Failure Parts} : Follows opened source targets walk after result →
    walk.resolver.Grounded catalog → ∀ visited, walk.Explored opened visited →
    FindsUnknown catalog opened visited targets after result
  | .done, _ => fun visited explored => ⟨visited, explored, fun _ => rfl⟩
  | .cut back rest, grounded => by
    intro visited explored
    have seen := (explored _).mpr (.inl back)
    exact (FindsUnknown.skip seen (rest.findsUnknown grounded visited explored)).map _
  | .stopped forward first, grounded => by
    intro visited explored stack
    exact first.findsUnknown grounded forward visited explored (_ ++ stack)
  | .followed forward first rest, grounded => by
    intro visited explored
    obtain ⟨further, between, passed⟩ := first.findsUnknown grounded forward visited explored
    exact (FindsUnknown.append passed (rest.findsUnknown (first.grounded grounded) further between)).map _

end

end Walk

namespace Resolver

/-- A new resolver fails at the first unknown path of the depth-first walk, if there is one. -/
theorem resolve_new_result (catalog : Catalog) (path : String) :
    match catalog.firstUnknown? path with
    | some missing => ((new catalog).resolve path).result = .error (.unknownModule missing catalog.paths)
    | none => ∃ module, ((new catalog).resolve path).result = .ok module := by
  obtain ⟨after, result, entered, gives, _⟩ := resolve_enters (grounded_new catalog) path
  have start : (Walk.start { new catalog with cycleBreaks := [] }).Explored [] [] := by
    intro other
    simp [Walk.AtHand, Walk.start, new]
  have grounded : (Walk.start { new catalog with cycleBreaks := [] }).resolver.Grounded catalog :=
    ⟨rfl, (grounded_new catalog).remembers⟩
  have finds := entered.findsUnknown grounded List.not_mem_nil [] start
  rw [Catalog.firstUnknown?, gives]
  cases result with
  | error failure =>
    obtain ⟨missing, found, rfl⟩ := finds []
    rw [List.append_nil] at found
    rw [found]
    rfl
  | ok part =>
    obtain ⟨further, _, goesOn⟩ := finds
    have nothing : catalog.nextUnknown? [] [path] = none := by
      rw [← List.append_nil [path], goesOn [], Catalog.nextUnknown?, Catalog.entered]
      rfl
    rw [nothing]
    exact ⟨part.module, rfl⟩

theorem Sound.cycleBreaks_of_error {catalog : Catalog} {resolver : Resolver} (sound : resolver.Sound catalog)
    {path : String} {failure : Failure} (failed : (resolver.resolve path).result = .error failure) :
    (resolver.resolve path).resolver.cycleBreaks = [] := by
  obtain ⟨after, result, entered, gives, leaves⟩ := resolve_enters sound.grounded path
  rw [leaves]
  cases result with
  | error failure => exact entered.cycleBreaks
  | ok part => cases gives.symm.trans failed

/-- Whatever was called before, a resolver fails exactly if an unknown path can be reached. It then names
the first one that a depth-first walk in declaration order enters, lists the known paths and reports no cut.
The walk enters what can be reached, each path once. -/
theorem resolve_fails_at_first_unknown (catalog : Catalog) (calls : List Call) (path : String) :
    ((∃ failure, (((new catalog).after calls).resolve path).result = .error failure) ↔
      ∃ missing, catalog.Reaches path missing ∧ catalog.dependencies? missing = none) ∧
    (∀ failure, (((new catalog).after calls).resolve path).result = .error failure →
      ∃ missing, catalog.firstUnknown? path = some missing ∧
        failure = .unknownModule missing catalog.paths ∧
        (((new catalog).after calls).resolve path).resolver.cycleBreaks = []) ∧
    (catalog.entered [] [path]).Nodup ∧
    (∀ other, other ∈ catalog.entered [] [path] ↔ catalog.Reaches path other) := by
  have used := sound_after catalog calls
  have same := (used.resolve_agree (sound_new catalog) path).1
  have fresh := resolve_new_result catalog path
  refine ⟨?_, ?_, Catalog.nodup_entered catalog [] [path], fun _ => Catalog.mem_entered_iff⟩
  · rw [same, ← Catalog.firstUnknown_isSome_iff]
    cases found : catalog.firstUnknown? path with
    | some missing =>
      rw [found] at fresh
      exact ⟨fun _ => rfl, fun _ => ⟨_, fresh⟩⟩
    | none =>
      rw [found] at fresh
      obtain ⟨module, resolved⟩ := fresh
      simp [resolved]
  · intro failure failed
    have cuts := used.cycleBreaks_of_error failed
    rw [same] at failed
    cases found : catalog.firstUnknown? path with
    | some missing =>
      rw [found] at fresh
      exact ⟨missing, rfl, Except.error.inj (failed.symm.trans fresh), cuts⟩
    | none =>
      rw [found] at fresh
      obtain ⟨module, resolved⟩ := fresh
      cases failed.symm.trans resolved

end Resolver

/-- A cycle with an unknown module behind it, which is declared after a known one that needs another
unknown module. -/
def Catalog.haunted : Catalog :=
  .ofPairs [(":a", [":b", ":ghost"]), (":b", [":a", ":c", ":b"]), (":c", [":b", ":lost"])]

theorem Resolver.resolve_haunted :
    (((Resolver.new .haunted).after [.resolve ":c", .resolve ":a"]).resolve ":a").result =
      .error (.unknownModule ":lost" [":a", ":b", ":c"]) ∧
    Catalog.haunted.firstUnknown? ":a" = some ":lost" := by
  refine ⟨rfl, ?_⟩
  obtain ⟨missing, found, named, _⟩ :=
    (resolve_fails_at_first_unknown .haunted [.resolve ":c", .resolve ":a"] ":a").2.1 _ rfl
  rw [found]
  injection named with same
  rw [← same]

end DependencyDiagram
