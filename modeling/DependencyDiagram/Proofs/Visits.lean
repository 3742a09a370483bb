import DependencyDiagram.Proofs.ModuleGraph
import DependencyDiagram.Traversal

/-!
The walks over a module graph are one walk. The groups of edges are those of the modules met that
have dependencies, the collected paths those of their dependencies; a walk meets a path once and
misses none.
-/

namespace DependencyDiagram.Module

mutual

/-- A module on top of the stack is walked to the end before the rest of the stack. -/
theorem edgeGroupsFrom_cons : (module : Module) → ∀ visited stack, edgeGroupsFrom visited (module :: stack) =
    (firstVisitsFrom visited module).gathered.filter hasDependencies ++
      edgeGroupsFrom (firstVisitsFrom visited module).visited stack
  | ⟨path, dependencies⟩ => by
    intro visited stack
    rw [edgeGroupsFrom, firstVisitsFrom]
    split
    · simp
    · cases dependencies with
      | nil => simp [firstVisitsAmong, hasDependencies]
      | cons first rest =>
        have below := edgeGroupsFrom_append (first :: rest) (path :: visited) stack
        rw [List.cons_append] at below
        simp [below, hasDependencies]

theorem edgeGroupsFrom_append : (modules : List Module) → ∀ visited stack,
    edgeGroupsFrom visited (modules ++ stack) =
      (firstVisitsAmong visited modules).gathered.filter hasDependencies ++
        edgeGroupsFrom (firstVisitsAmong visited modules).visited stack
  | [] => by simp [firstVisitsAmong]
  | module :: rest => by
    intro visited stack
    have first := edgeGroupsFrom_cons module visited (rest ++ stack)
    have others := edgeGroupsFrom_append rest (firstVisitsFrom visited module).visited stack
    rw [List.cons_append, first, others, firstVisitsAmong]
    simp

end

theorem edgeGroups_eq (module : Module) : module.edgeGroups = module.firstVisits.filter hasDependencies := by
  rw [edgeGroups, edgeGroupsFrom_cons, edgeGroupsFrom, List.append_nil, firstVisits]

mutual

theorem pathsBelow_eq : (module : Module) → ∀ expanded, pathsBelow expanded module =
    ⟨(firstVisitsFrom expanded module).gathered.flatMap dependencyNames, (firstVisitsFrom expanded module).visited⟩
  | ⟨path, dependencies⟩ => by
    intro expanded
    rw [pathsBelow, firstVisitsFrom]
    split
    · simp
    · simp [pathsAmong_eq dependencies, dependencyNames]

theorem pathsAmong_eq : (modules : List Module) → ∀ expanded, pathsAmong expanded modules =
    ⟨(firstVisitsAmong expanded modules).gathered.flatMap dependencyNames,
      (firstVisitsAmong expanded modules).visited⟩
  | [] => by simp [pathsAmong, firstVisitsAmong]
  | module :: rest => by
    intro expanded
    simp [pathsAmong, firstVisitsAmong, pathsBelow_eq module, pathsAmong_eq rest]

end

theorem dependencyPaths_eq (module : Module) :
    module.dependencyPaths = module.path :: module.firstVisits.flatMap dependencyNames := by
  rw [dependencyPaths, pathsBelow_eq, firstVisits]

/-- What a walk over some modules adds to the paths it has been to. -/
structure Visits (visited : List String) (modules : List Module) (visit : Visit Module) : Prop where
  visited_iff : ∀ path, path ∈ visit.visited ↔ path ∈ visited ∨ path ∈ visit.gathered.map (·.path)
  reached : ∀ module ∈ modules, module.path ∈ visit.visited
  distinct : (visit.gathered.map (·.path)).Nodup
  fresh : ∀ module ∈ visit.gathered, module.path ∉ visited
  within : ∀ inner ∈ visit.gathered, ∃ module ∈ modules, inner.Within module
  closed : ∀ inner ∈ visit.gathered, ∀ dependency ∈ inner.dependencies, dependency.path ∈ visit.visited

theorem visits_nil (visited : List String) : Visits visited [] ⟨[], visited⟩ := by
  constructor <;> simp

/-- A module that has not been visited is visited before its dependencies. -/
theorem Visits.open {path : String} {dependencies : List Module} {visited : List String}
    {below : Visit Module} (unvisited : path ∉ visited)
    (visits : Visits (path :: visited) dependencies below) :
    Visits visited [⟨path, dependencies⟩] ⟨⟨path, dependencies⟩ :: below.gathered, below.visited⟩ := by
  have itself : path ∈ below.visited := (visits.visited_iff path).mpr (.inl List.mem_cons_self)
  constructor
  · intro other
    rw [visits.visited_iff, List.map_cons, List.mem_cons, List.mem_cons, or_left_comm, or_assoc]
  · simpa using itself
  · refine List.nodup_cons.mpr ⟨fun member => ?_, visits.distinct⟩
    obtain ⟨inner, gathered, named⟩ := List.mem_map.mp member
    exact visits.fresh inner gathered (by simp [named])
  · intro inner member
    rcases List.mem_cons.mp member with rfl | later
    · exact unvisited
    · exact fun earlier => visits.fresh inner later (List.mem_cons_of_mem _ earlier)
  · intro inner member
    refine ⟨_, List.mem_singleton_self _, ?_⟩
    rcases List.mem_cons.mp member with rfl | later
    · exact .itself
    · obtain ⟨dependency, listed, inside⟩ := visits.within inner later
      exact .deeper listed inside
  · intro inner member
    rcases List.mem_cons.mp member with rfl | later
    · exact visits.reached
    · exact visits.closed inner later

theorem Visits.append {visited : List String} {module : Module} {rest : List Module}
    {first others : Visit Module} (head : Visits visited [module] first)
    (tail : Visits first.visited rest others) :
    Visits visited (module :: rest) ⟨first.gathered ++ others.gathered, others.visited⟩ := by
  have grows (path : String) (member : path ∈ first.visited) : path ∈ others.visited :=
    (tail.visited_iff path).mpr (.inl member)
  constructor
  · intro path
    rw [tail.visited_iff, head.visited_iff, List.map_append, List.mem_append, or_assoc]
  · intro other member
    rcases List.mem_cons.mp member with rfl | later
    · exact grows _ (head.reached _ (List.mem_singleton_self _))
    · exact tail.reached other later
  · rw [List.map_append]
    refine List.nodup_append.mpr ⟨head.distinct, tail.distinct, ?_⟩
    intro path early other late same
    subst same
    obtain ⟨inner, gathered, named⟩ := List.mem_map.mp late
    exact tail.fresh inner gathered (named ▸ (head.visited_iff path).mpr (.inr early))
  · intro inner member
    rcases List.mem_append.mp member with early | late
    · exact head.fresh inner early
    · exact fun earlier => tail.fresh inner late ((head.visited_iff _).mpr (.inl earlier))
  · intro inner member
    rcases List.mem_append.mp member with early | late
    · obtain ⟨other, listed, inside⟩ := head.within inner early
      exact ⟨other, List.mem_cons.mpr (.inl (List.mem_singleton.mp listed)), inside⟩
    · obtain ⟨other, listed, inside⟩ := tail.within inner late
      exact ⟨other, List.mem_cons_of_mem _ listed, inside⟩
  · intro inner member dependency listed
    rcases List.mem_append.mp member with early | late
    · exact grows _ (head.closed inner early dependency listed)
    · exact tail.closed inner late dependency listed

mutual

theorem visits_from : (module : Module) → ∀ visited, Visits visited [module] (firstVisitsFrom visited module)
  | ⟨path, dependencies⟩ => by
    intro visited
    rw [firstVisitsFrom]
    split
    · next seen => constructor <;> simp [seen]
    · next unvisited => exact .open unvisited (visits_among dependencies (path :: visited))

theorem visits_among : (modules : List Module) → ∀ visited, Visits visited modules (firstVisitsAmong visited modules)
  | [] => visits_nil
  | module :: rest => fun visited =>
    (visits_from module visited).append (visits_among rest (firstVisitsFrom visited module).visited)

end

variable {module : Module}

theorem nodup_firstVisits (module : Module) : (module.firstVisits.map (·.path)).Nodup :=
  (visits_from module []).distinct

theorem within_of_firstVisits {inner : Module} (member : inner ∈ module.firstVisits) : inner.Within module := by
  obtain ⟨other, listed, inside⟩ := (visits_from module []).within inner member
  rw [List.mem_singleton.mp listed] at inside
  exact inside

theorem itself_mem_firstVisits : (module : Module) → module ∈ module.firstVisits
  | ⟨path, dependencies⟩ => by simp [firstVisits, firstVisitsFrom]

theorem firstVisits_closed {inner dependency : Module} (member : inner ∈ module.firstVisits)
    (listed : dependency ∈ inner.dependencies) : ∃ other ∈ module.firstVisits, other.path = dependency.path := by
  have visits := visits_from module []
  have seen := (visits.visited_iff _).mp (visits.closed inner member dependency listed)
  exact List.mem_map.mp (seen.resolve_left List.not_mem_nil)

mutual

/-- A walk meets the module it starts with and dependencies of modules it has met. -/
theorem parent_from : (module : Module) → ∀ visited, ∀ inner ∈ (firstVisitsFrom visited module).gathered,
    inner = module ∨ ∃ parent ∈ (firstVisitsFrom visited module).gathered, inner ∈ parent.dependencies
  | ⟨path, dependencies⟩ => by
    intro visited inner member
    rw [firstVisitsFrom] at member ⊢
    split at member
    · cases member
    · next unvisited =>
      rw [if_neg unvisited]
      rcases List.mem_cons.mp member with same | below
      · exact .inl same
      · rcases parent_among dependencies _ inner below with listed | ⟨parent, met, listed⟩
        · exact .inr ⟨_, List.mem_cons_self, listed⟩
        · exact .inr ⟨parent, List.mem_cons_of_mem _ met, listed⟩

theorem parent_among : (modules : List Module) → ∀ visited,
    ∀ inner ∈ (firstVisitsAmong visited modules).gathered, inner ∈ modules ∨
      ∃ parent ∈ (firstVisitsAmong visited modules).gathered, inner ∈ parent.dependencies
  | [] => by simp [firstVisitsAmong]
  | module :: rest => by
    intro visited inner member
    rw [firstVisitsAmong] at member ⊢
    rcases List.mem_append.mp member with early | late
    · rcases parent_from module visited inner early with same | ⟨parent, met, listed⟩
      · exact .inl (List.mem_cons.mpr (.inl same))
      · exact .inr ⟨parent, List.mem_append_left _ met, listed⟩
    · rcases parent_among rest _ inner late with among | ⟨parent, met, listed⟩
      · exact .inl (List.mem_cons_of_mem _ among)
      · exact .inr ⟨parent, List.mem_append_right _ met, listed⟩

end

/-- Every module met has its path among the collected ones, and so have its dependencies. -/
theorem mem_dependencyPaths_of_firstVisits {inner : Module} (met : inner ∈ module.firstVisits) :
    ∀ path ∈ inner.path :: inner.dependencyNames, path ∈ module.dependencyPaths := by
  have dependency {parent : Module} (met : parent ∈ module.firstVisits) {path : String}
      (listed : path ∈ parent.dependencyNames) : path ∈ module.dependencyPaths := by
    rw [dependencyPaths_eq]
    exact List.mem_cons_of_mem _ (List.mem_flatMap.mpr ⟨parent, met, listed⟩)
  intro path member
  rcases List.mem_cons.mp member with rfl | listed
  · rcases parent_from module [] inner met with rfl | ⟨parent, parentMet, listed⟩
    · exact List.mem_cons_self
    · exact dependency parentMet (List.mem_map_of_mem listed)
  · exact dependency met listed

/-- With one module for each path, the walk meets every module of the graph. -/
theorem OnePerPath.mem_firstVisits (one : module.OnePerPath) {inner : Module} :
    inner ∈ module.firstVisits ↔ inner.Within module := by
  -- The walk goes on from every module it meets, and only one module has the path it meets next.
  have below {middle : Module} (inside : inner.Within middle) (met : middle ∈ module.firstVisits) :
      inner ∈ module.firstVisits := by
    induction inside with
    | itself => exact met
    | deeper member _ ih =>
      obtain ⟨other, otherMet, named⟩ := firstVisits_closed met member
      have within := (within_of_firstVisits met).dependency member
      exact ih (one other _ (within_of_firstVisits otherMet) within named ▸ otherMet)
  exact ⟨within_of_firstVisits, fun within => below within (itself_mem_firstVisits module)⟩

theorem OnePerPath.mem_dependencyPaths (one : module.OnePerPath) {path : String} :
    path ∈ module.dependencyPaths ↔ ∃ inner : Module, inner.Within module ∧ inner.path = path := by
  rw [dependencyPaths_eq, List.mem_cons, List.mem_flatMap]
  constructor
  · intro collected
    rcases collected with rfl | ⟨inner, met, listed⟩
    · exact ⟨module, .itself, rfl⟩
    · obtain ⟨dependency, member, named⟩ := List.mem_map.mp listed
      exact ⟨dependency, (one.mem_firstVisits.mp met).dependency member, named⟩
  · intro occurs
    obtain ⟨inner, within, rfl⟩ := occurs
    rcases within.parent with rfl | ⟨parent, inside, listed⟩
    · exact .inl rfl
    · exact .inr ⟨parent, one.mem_firstVisits.mpr inside, List.mem_map_of_mem listed⟩

end DependencyDiagram.Module
