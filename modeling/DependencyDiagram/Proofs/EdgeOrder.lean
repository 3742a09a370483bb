import DependencyDiagram.Proofs.DrawnEdges

/-!
One order for nodes and edges. Paths are collected by a recursion that lists all dependencies of a module
before it enters the first of them, groups of edges by a loop over a stack. Both meet the same modules in the
same order, so behind the module's own path the collected ones are the targets of the edges drawn.
-/

namespace DependencyDiagram

/-- What gives nothing can be left out. -/
theorem flatMap_filter {α β : Type} {test : α → Bool} {items : α → List β}
    (silent : ∀ item, test item = false → items item = []) (list : List α) :
    (list.filter test).flatMap items = list.flatMap items := by
  induction list with
  | nil => rfl
  | cons first rest ih =>
    cases kept : test first with
    | true => rw [List.filter_cons_of_pos kept, List.flatMap_cons, List.flatMap_cons, ih]
    | false =>
      rw [List.filter_cons_of_neg (Bool.not_eq_true _ ▸ kept), List.flatMap_cons, silent first kept, ih,
        List.nil_append]

namespace Module

/-- Modules without dependencies, which have no group, add no path. -/
theorem flatMap_edgeGroups (module : Module) :
    module.edgeGroups.flatMap dependencyNames = module.firstVisits.flatMap dependencyNames := by
  rw [edgeGroups_eq]
  refine flatMap_filter (fun inner leaf => ?_) module.firstVisits
  simpa [hasDependencies, dependencyNames] using leaf

theorem map_snd_drawnEdges (module : Module) :
    module.drawnEdges.map Prod.snd = module.edgeGroups.flatMap dependencyNames := by
  rw [drawnEdges, List.map_flatMap]
  refine List.flatMap_congr fun group _ => ?_
  rw [List.map_map]
  exact List.map_id _

theorem dependencyPaths_eq_targets (module : Module) :
    module.dependencyPaths = module.path :: module.drawnEdges.map Prod.snd := by
  rw [map_snd_drawnEdges, flatMap_edgeGroups, dependencyPaths_eq]

theorem mem_dependencyPaths_of_drawnEdges {module : Module} {edge : String × String}
    (drawn : edge ∈ module.drawnEdges) : edge.1 ∈ module.dependencyPaths ∧ edge.2 ∈ module.dependencyPaths := by
  obtain ⟨group, member, source, listed⟩ := mem_drawnEdges.mp drawn
  rw [edgeGroups_eq] at member
  have collected := mem_dependencyPaths_of_firstVisits (List.mem_filter.mp member).1
  exact ⟨source ▸ collected _ List.mem_cons_self, collected _ (List.mem_cons_of_mem _ listed)⟩

/-- The lines of a diagram state the edges of its groups, whatever its language, tree and style. -/
theorem flatMap_edges_statements (module : Module) (format : Diagram.Format) (tree : NamespaceTree)
    (style : Option Style.Document) :
    ((format.statements module tree style).filterMap Diagram.Statement.edges?).flatMap
      (fun group => group.2.map (group.1, ·)) = module.drawnEdges := by
  rw [Diagram.Format.edges_statements, List.flatMap_map]
  rfl

/-- The collected paths are a module's own and, group by group in the order of the groups, those of the
dependencies; no two groups have the same path. So there is one collected path for each edge that a diagram
states and one more, and both ends of every edge are among them. -/
theorem walks_agree (module : Module) :
    module.dependencyPaths = module.path :: module.edgeGroups.flatMap dependencyNames ∧
      (module.edgeGroups.map (·.path)).Nodup ∧
      (∀ format tree style, ((Diagram.Format.statements format module tree style).filterMap
        Diagram.Statement.edges?).flatMap (fun group => group.2.map (group.1, ·)) = module.drawnEdges) ∧
      module.dependencyPaths = module.path :: module.drawnEdges.map Prod.snd ∧
      (∀ edge ∈ module.drawnEdges, edge.1 ∈ module.dependencyPaths ∧ edge.2 ∈ module.dependencyPaths) ∧
      module.dependencyPaths.length = 1 + module.drawnEdges.length := by
  have collected := dependencyPaths_eq_targets module
  refine ⟨?_, nodup_edgeGroups module, flatMap_edges_statements module, collected, ?_, ?_⟩
  · rw [collected, map_snd_drawnEdges]
  · exact fun edge drawn => mem_dependencyPaths_of_drawnEdges drawn
  · rw [collected, List.length_cons, List.length_map, Nat.add_comm]

/-- Modules of which some have the path of another one and other dependencies. -/
def conflicting : Module :=
  ⟨":app", [⟨":lib", [⟨":net", []⟩]⟩, ⟨":lib", [⟨":log", []⟩]⟩, ⟨":app", [⟨":lib", []⟩]⟩, ⟨":net", [⟨":log", []⟩]⟩]⟩

/-- The first module met with a path decides what is below that path. -/
theorem walks_conflicting :
    conflicting.dependencyPaths = [":app", ":lib", ":lib", ":app", ":net", ":net"] ∧
      conflicting.drawnEdges =
        [(":app", ":lib"), (":app", ":lib"), (":app", ":app"), (":app", ":net"), (":lib", ":net")] ∧
      conflicting.dependencyPaths.length = 1 + conflicting.drawnEdges.length := by
  obtain ⟨_, _, _, _, _, counted⟩ := walks_agree conflicting
  refine ⟨rfl, ?_, counted⟩
  rw [drawnEdges, edgeGroups_eq]
  rfl

end Module

end DependencyDiagram
