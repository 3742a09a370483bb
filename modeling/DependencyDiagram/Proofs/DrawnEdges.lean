import DependencyDiagram.Proofs.CallHistory
import DependencyDiagram.Proofs.ResolvedGraph
import DependencyDiagram.Proofs.Statements
import DependencyDiagram.Proofs.Visits
import Mathlib.Data.List.Nodup

/-!
The edges in a diagram. Those it draws and those it reports as cut are together the declared edges
between the modules that its target reaches, each of them once.
-/

namespace DependencyDiagram

def CycleBreak.ends (edge : CycleBreak) : String × String := (edge.source, edge.target)

theorem CycleBreak.ends_injective : Function.Injective CycleBreak.ends := by
  intro first second same
  obtain ⟨source, target⟩ := first
  obtain ⟨otherSource, otherTarget⟩ := second
  obtain ⟨rfl, rfl⟩ := Prod.mk.inj same
  rfl

theorem Resolver.generate_ok {resolver : Resolver} {target : String} {format : Diagram.Format}
    {style : Option Style.Document} {diagram : Diagram}
    (generated : (resolver.generate target format style).result = .ok diagram) :
    ∃ module, (resolver.resolveTarget target).result = .ok module ∧
      (resolver.resolve target).result = .ok module ∧
      diagram = ⟨target, format, format.render module (.build target module.dependencyPaths) style,
        (resolver.resolve target).resolver.cycleBreaks⟩ := by
  cases valid : ModulePath.isValid target with
  | false =>
    rw [generate_of_not_isValid resolver valid] at generated
    cases generated
  | true =>
    rw [generate_of_isValid resolver valid] at generated
    obtain ⟨module, resolved, rfl⟩ := Walk.ok_of_map generated
    refine ⟨module, ?_, resolved, rfl⟩
    rw [Resolver.resolveTarget, ModulePath.validate, if_pos valid]
    exact resolved

namespace Module

/-- The edges of all groups, one by one. -/
def drawnEdges (module : Module) : List (String × String) :=
  module.edgeGroups.flatMap fun group => group.dependencyNames.map (group.path, ·)

theorem mem_drawnEdges {module : Module} {source target : String} : (source, target) ∈ module.drawnEdges ↔
    ∃ group ∈ module.edgeGroups, group.path = source ∧ target ∈ group.dependencyNames := by
  simp [drawnEdges, and_comm]

theorem nodup_edgeGroups (module : Module) : (module.edgeGroups.map (·.path)).Nodup := by
  rw [edgeGroups_eq]
  exact (nodup_firstVisits module).sublist (List.filter_sublist.map _)

/-- What a diagram of a module shows of the edges that its target reaches. -/
structure DrawsDeclared (catalog : Catalog) (target : String) (cuts : List CycleBreak) (module : Module) :
    Prop where
  onePerPath : (module.edgeGroups.map (·.path)).Nodup
  /-- A reached module has a group unless all its edges were cut; the group lists what is left of its
  declaration without mentions of itself, repetitions and cut edges. -/
  groups : ∀ path names,
    (∃ group ∈ module.edgeGroups, group.path = path ∧ group.dependencyNames = names) ↔
      catalog.Reaches target path ∧ names ≠ [] ∧ ∃ declared, catalog.dependencies? path = some declared ∧
        names = (declared.filter (· != path)).eraseDups.filter (⟨path, ·⟩ ∉ cuts)
  reported : cuts.Nodup ∧ ∀ edge ∈ cuts, catalog.Reaches target edge.source ∧
    catalog.Reaches target edge.target ∧ catalog.Declares edge.source edge.target ∧ edge.source ≠ edge.target
  /-- Every edge is drawn or reported, and none both or twice. -/
  accounted : (module.drawnEdges ++ cuts.map CycleBreak.ends).Nodup ∧
    ∀ source next, (source, next) ∈ module.drawnEdges ++ cuts.map CycleBreak.ends ↔
      catalog.Reaches target source ∧ catalog.Declares source next ∧ source ≠ next

namespace Resolves

variable {catalog : Catalog} {target : String} {cuts : List CycleBreak} {module : Module}

theorem mem_edgeGroups (resolves : module.Resolves catalog target cuts) {group : Module} :
    group ∈ module.edgeGroups ↔ group.Within module ∧ group.dependencyNames ≠ [] := by
  rw [edgeGroups_eq, List.mem_filter, resolves.onePerPath.mem_firstVisits]
  simp [hasDependencies, dependencyNames]

theorem groups_iff (resolves : module.Resolves catalog target cuts) (path : String)
    (names : List String) : (∃ group ∈ module.edgeGroups, group.path = path ∧ group.dependencyNames = names) ↔
      catalog.Reaches target path ∧ names ≠ [] ∧ ∃ declared, catalog.dependencies? path = some declared ∧
        names = (declared.filter (· != path)).eraseDups.filter (⟨path, ·⟩ ∉ cuts) := by
  constructor
  · intro drawn
    obtain ⟨group, member, rfl, rfl⟩ := drawn
    obtain ⟨within, nonempty⟩ := resolves.mem_edgeGroups.mp member
    obtain ⟨targets, known, names⟩ := resolves.keeps group within
    obtain ⟨declared, found, rfl⟩ := Option.map_eq_some_iff.mp known
    exact ⟨(resolves.within_iff _).mp ⟨group, within, rfl⟩, nonempty, declared, found, names⟩
  · intro left
    obtain ⟨reached, nonempty, declared, found, rfl⟩ := left
    obtain ⟨group, within, rfl⟩ := (resolves.within_iff path).mpr reached
    obtain ⟨targets, known, names⟩ := resolves.keeps group within
    rw [Catalog.edges?, found] at known
    cases known
    have keepsSome : group.dependencyNames ≠ [] := fun none => nonempty (names.symm.trans none)
    exact ⟨group, resolves.mem_edgeGroups.mpr ⟨within, keepsSome⟩, rfl, names⟩

theorem mem_drawnEdges (resolves : module.Resolves catalog target cuts) {source next : String} :
    (source, next) ∈ module.drawnEdges ↔
      catalog.Reaches target source ∧ catalog.Depends source next ∧ ⟨source, next⟩ ∉ cuts := by
  rw [Module.mem_drawnEdges]
  constructor
  · intro drawn
    obtain ⟨group, member, rfl, listed⟩ := drawn
    have within := (resolves.mem_edgeGroups.mp member).1
    exact ⟨(resolves.within_iff _).mp ⟨group, within, rfl⟩, (resolves.keeps_iff within next).mp listed⟩
  · intro left
    obtain ⟨reached, kept⟩ := left
    obtain ⟨group, within, rfl⟩ := (resolves.within_iff source).mpr reached
    have listed := (resolves.keeps_iff within next).mpr kept
    exact ⟨group, resolves.mem_edgeGroups.mpr ⟨within, List.ne_nil_of_mem listed⟩, rfl, listed⟩

theorem nodup_dependencyNames (resolves : module.Resolves catalog target cuts) {inner : Module}
    (within : inner.Within module) : inner.dependencyNames.Nodup := by
  obtain ⟨targets, known, names⟩ := resolves.keeps inner within
  rw [names]
  exact (Catalog.nodup_edges known).filter _

theorem nodup_drawnEdges (resolves : module.Resolves catalog target cuts) : module.drawnEdges.Nodup := by
  refine List.nodup_flatMap.mpr ⟨fun group member => ?_, ?_⟩
  · have within := (resolves.mem_edgeGroups.mp member).1
    exact (resolves.nodup_dependencyNames within).map fun _ _ same => (Prod.mk.inj same).2
  · refine (List.pairwise_map.mp (nodup_edgeGroups module)).imp fun different edge left right => ?_
    obtain ⟨_, _, rfl⟩ := List.mem_map.mp left
    obtain ⟨_, _, same⟩ := List.mem_map.mp right
    exact different (Prod.mk.inj same).1.symm

theorem cut_reached (resolves : module.Resolves catalog target cuts) {edge : CycleBreak} (cut : edge ∈ cuts) :
    catalog.Reaches target edge.source ∧ catalog.Reaches target edge.target := by
  obtain ⟨inner, outer, inside, within, named, outerNamed⟩ := resolves.closes edge cut
  exact ⟨(resolves.within_iff _).mp ⟨inner, inside.trans within, named⟩,
    (resolves.within_iff _).mp ⟨outer, within, outerNamed⟩⟩

theorem drawsDeclared (resolves : module.Resolves catalog target cuts) :
    module.DrawsDeclared catalog target cuts := by
  have member (source next : String) : (source, next) ∈ cuts.map CycleBreak.ends ↔ ⟨source, next⟩ ∈ cuts :=
    List.mem_map_of_injective CycleBreak.ends_injective (a := ⟨source, next⟩)
  refine ⟨nodup_edgeGroups module, resolves.groups_iff, ⟨resolves.nodup, fun edge cut => ?_⟩, ?_, ?_⟩
  · obtain ⟨sourceReached, targetReached⟩ := resolves.cut_reached cut
    exact ⟨sourceReached, targetReached, Catalog.depends_iff.mp (resolves.declared edge cut)⟩
  · refine List.nodup_append.mpr ⟨resolves.nodup_drawnEdges, resolves.nodup.map CycleBreak.ends_injective, ?_⟩
    intro edge drawn other reported same
    subst same
    exact (resolves.mem_drawnEdges.mp drawn).2.2 ((member edge.1 edge.2).mp reported)
  · intro source next
    rw [List.mem_append, resolves.mem_drawnEdges, member, ← Catalog.depends_iff]
    constructor
    · intro shown
      rcases shown with ⟨reached, depends, _⟩ | cut
      · exact ⟨reached, depends⟩
      · exact ⟨(resolves.cut_reached cut).1, resolves.declared _ cut⟩
    · intro edge
      obtain ⟨reached, depends⟩ := edge
      by_cases cut : ⟨source, next⟩ ∈ cuts
      · exact .inr cut
      · exact .inl ⟨reached, depends, cut⟩

end Resolves

end Module

/-- Whatever was called before, a diagram is drawn from a module whose groups of edges are the declared
edges that its target reaches, without the cycle breaks that it reports; its lines state these groups
and no other edges. -/
theorem Resolver.generate_drawsDeclared (catalog : Catalog) (calls : List Resolver.Call) (target : String)
    (format : Diagram.Format) (style : Option Style.Document) (diagram : Diagram)
    (generated : (((Resolver.new catalog).after calls).generate target format style).result = .ok diagram) :
    ∃ module : Module, (((Resolver.new catalog).after calls).resolveTarget target).result = .ok module ∧
      diagram.content = format.render module (.build target module.dependencyPaths) style ∧
      (format.statements module (.build target module.dependencyPaths) style).filterMap
          Diagram.Statement.edges? =
        module.edgeGroups.map (fun group => (group.path, group.dependencyNames)) ∧
      module.DrawsDeclared catalog target diagram.cycleBreaks := by
  obtain ⟨module, found, resolved, rfl⟩ := generate_ok generated
  refine ⟨module, found, rfl, ?_, ((sound_after catalog calls).resolves resolved).drawsDeclared⟩
  exact Diagram.Format.edges_statements format module _ style

theorem Resolver.generate_entangled : ∃ diagram : Diagram,
    (((Resolver.new .entangled).after [.resolve ":b"]).generate ":a" .dot none).result = .ok diagram ∧
    diagram.cycleBreaks = [⟨":c", ":a"⟩, ⟨":c", ":b"⟩, ⟨":b", ":a"⟩] ∧
    ∃ module : Module, (((Resolver.new .entangled).after [.resolve ":b"]).resolveTarget ":a").result =
        .ok module ∧
      module.drawnEdges = [(":a", ":b"), (":a", ":c"), (":b", ":c")] ∧
      module.DrawsDeclared .entangled ":a" diagram.cycleBreaks := by
  refine ⟨_, rfl, rfl, ?_⟩
  obtain ⟨module, found, _, _, draws⟩ :=
    generate_drawsDeclared .entangled [.resolve ":b"] ":a" .dot none _ rfl
  refine ⟨module, found, ?_, draws⟩
  cases found.symm.trans (show _ = Except.ok (Module.mk ":a" [⟨":b", [⟨":c", []⟩]⟩, ⟨":c", []⟩]) from rfl)
  rw [Module.drawnEdges, Module.edgeGroups_eq]
  rfl

end DependencyDiagram
