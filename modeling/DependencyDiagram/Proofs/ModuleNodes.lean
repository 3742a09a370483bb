import DependencyDiagram.Proofs.DrawnEdges
import DependencyDiagram.Proofs.NamespaceTrie
import DependencyDiagram.Proofs.ValidPaths

/-!
The nodes in a diagram. Modules are told apart by their paths but placed by their segments, so two paths
that differ in empty segments only share a node, which then carries the one that was inserted last. A
diagram has a node for every module exactly if no two of its paths do.
-/

namespace DependencyDiagram

/-- Every module that the target reaches has one node of its own, and only the target's is marked. -/
structure NamespaceTree.OneNodeEach (catalog : Catalog) (target : String) (tree : NamespaceTree) : Prop where
  nodup : tree.carried.Nodup
  carried_iff : ∀ path, path ∈ tree.carried ↔ catalog.Reaches target path
  marked : tree.labels.filter (·.isTarget) = [⟨some target, true⟩]

/-- The ends of edges are stated as nodes, each of them once, and the target alone is given the style or
class of targets, if the language and the document have one. -/
structure Diagram.StatesEnds (target : String) (marks : Bool) (statements : List Statement) : Prop where
  ends : ∀ edge ∈ statements.filterMap Statement.edges?, ∀ path ∈ edge.1 :: edge.2,
    (statements.filterMap Statement.node?).count path = 1
  marked : statements.filterMap Statement.mark? = if marks then [target] else []

namespace Module.Resolves

variable {catalog : Catalog} {target : String} {cuts : List CycleBreak} {module : Module}

theorem mem_dependencyPaths (resolves : module.Resolves catalog target cuts) (path : String) :
    path ∈ module.dependencyPaths ↔ catalog.Reaches target path := by
  rw [resolves.onePerPath.mem_dependencyPaths, resolves.within_iff]

/-- Every module keeps its own node exactly if no two of them meet at one. -/
theorem oneNodeEach_iff (resolves : module.Resolves catalog target cuts)
    (proper : ∀ path, catalog.Reaches target path → ModulePath.segments path ≠ []) :
    (NamespaceTree.build target module.dependencyPaths).OneNodeEach catalog target ↔
      ∀ first second, catalog.Reaches target first → catalog.Reaches target second →
        ModulePath.segments first = ModulePath.segments second → first = second := by
  have carried_iff (path : String) (reached : catalog.Reaches target path) :
      path ∈ (NamespaceTree.build target module.dependencyPaths).carried ↔
        NamespaceTree.lastAt module.dependencyPaths (ModulePath.segments path) = some path :=
    NamespaceTree.mem_carried_build target _ (proper path reached)
  constructor
  · intro each first second firstReached secondReached same
    have firstLast := (carried_iff first firstReached).mp ((each.carried_iff first).mpr firstReached)
    have secondLast := (carried_iff second secondReached).mp ((each.carried_iff second).mpr secondReached)
    rw [same, secondLast] at firstLast
    exact (Option.some.inj firstLast).symm
  · intro apart
    -- The last module with some segments is the only one that has them.
    have last (path : String) (reached : catalog.Reaches target path) :
        NamespaceTree.lastAt module.dependencyPaths (ModulePath.segments path) = some path := by
      obtain ⟨other, found⟩ := NamespaceTree.exists_lastAt ((resolves.mem_dependencyPaths path).mpr reached)
      obtain ⟨listed, same⟩ := NamespaceTree.of_lastAt found
      have otherReached := (resolves.mem_dependencyPaths other).mp listed
      rw [found, apart other path otherReached reached same]
    refine ⟨NamespaceTree.nodup_carried_build target _, fun path => ⟨fun member => ?_, fun reached => ?_⟩, ?_⟩
    · exact (resolves.mem_dependencyPaths path).mp (NamespaceTree.proper_of_carried member).1
    · exact (carried_iff path reached).mpr (last path reached)
    · rw [NamespaceTree.filter_isTarget_build _ (proper target .refl), if_pos (last target .refl)]
      simp [NamespaceTree.labelOf]

theorem statesEnds (resolves : module.Resolves catalog target cuts) {tree : NamespaceTree}
    (each : tree.OneNodeEach catalog target) (format : Diagram.Format) (style : Option Style.Document) :
    Diagram.StatesEnds target (format.marks style) (format.statements module tree style) := by
  constructor
  · rw [Diagram.Format.edges_statements, Diagram.Format.nodes_statements]
    intro edge member path isEnd
    obtain ⟨group, drawn, rfl⟩ := List.mem_map.mp member
    have within := (resolves.mem_edgeGroups.mp drawn).1
    have occurs : ∃ inner : Module, inner.Within module ∧ inner.path = path := by
      rcases List.mem_cons.mp isEnd with rfl | listed
      · exact ⟨group, within, rfl⟩
      · obtain ⟨dependency, among, named⟩ := List.mem_map.mp listed
        exact ⟨dependency, within.dependency among, named⟩
    have carried := (each.carried_iff path).mpr ((resolves.within_iff path).mp occurs)
    exact List.count_eq_one_of_mem each.nodup carried
  · rw [Diagram.Format.marks_statements, each.marked]
    rfl

end Module.Resolves

/-- In a diagram of an accepted manifest's module, every module has its own node, every end of an edge is
stated as a node and the target is marked once, exactly if no two modules that the target reaches have the
same segments. -/
theorem Resolver.generate_oneNodeEach_iff (text name : String) (catalog : Catalog)
    (accepted : Manifest.parse text name = .ok catalog) (calls : List Resolver.Call) (target : String)
    (format : Diagram.Format) (style : Option Style.Document) (diagram : Diagram)
    (generated : (((Resolver.new catalog).after calls).generate target format style).result = .ok diagram) :
    ∃ module : Module, (((Resolver.new catalog).after calls).resolveTarget target).result = .ok module ∧
      diagram.content = format.render module (.build target module.dependencyPaths) style ∧
      ((NamespaceTree.build target module.dependencyPaths).OneNodeEach catalog target ∧
          Diagram.StatesEnds target (format.marks style)
            (format.statements module (.build target module.dependencyPaths) style) ↔
        ∀ first second, catalog.Reaches target first → catalog.Reaches target second →
          ModulePath.segments first = ModulePath.segments second → first = second) := by
  obtain ⟨module, found, resolved, rfl⟩ := generate_ok generated
  have resolves := (sound_after catalog calls).resolves resolved
  have start : ModulePath.isValid target = true := by
    unfold resolveTarget at found
    split at found
    · next valid => exact ModulePath.validate_ok_iff.mp valid
    · cases found
  have proper (path : String) (reached : catalog.Reaches target path) : ModulePath.segments path ≠ [] :=
    ModulePath.segments_ne_nil ((Manifest.parse_valid accepted).reaches start reached)
  have each_iff := resolves.oneNodeEach_iff proper
  refine ⟨module, found, rfl, fun each => each_iff.mp each.1, fun apart => ?_⟩
  have each := each_iff.mpr apart
  exact ⟨each, resolves.statesEnds each format style⟩

/-- Modules of which one is also the namespace of another. -/
def Catalog.nested : Catalog :=
  .ofPairs [(":app", [":core:data", ":core"]), (":core", []), (":core:data", [":core"])]

def Manifest.nested : String :=
  "[modules]\n\":app\" = [\":core:data\", \":core\"]\n\":core:data\" = [\":core\"]\n\":core\" = []\n"

theorem Resolver.generate_nested : Manifest.parse Manifest.nested "modules.toml" = .ok .nested ∧
    ∃ diagram, (((Resolver.new .nested).after []).generate ":app" .mermaid none).result = .ok diagram ∧
    ∃ module : Module, (((Resolver.new .nested).after []).resolveTarget ":app").result = .ok module ∧
      (NamespaceTree.build ":app" module.dependencyPaths).OneNodeEach .nested ":app" ∧
      Diagram.StatesEnds ":app" true
        (Diagram.Format.mermaid.statements module (.build ":app" module.dependencyPaths) none) := by
  have accepted : Manifest.parse Manifest.nested "modules.toml" = .ok .nested := by decide +kernel
  refine ⟨accepted, _, rfl, ?_⟩
  obtain ⟨module, found, _, each_iff⟩ :=
    generate_oneNodeEach_iff _ "modules.toml" .nested accepted [] ":app" .mermaid none _ rfl
  refine ⟨module, found, each_iff.mpr fun first second firstReached secondReached => ?_⟩
  have resolved : (((Resolver.new .nested).after []).resolve ":app").result =
      .ok ⟨":app", [⟨":core:data", [⟨":core", []⟩]⟩, ⟨":core", []⟩]⟩ := rfl
  have resolves := (sound_after .nested []).resolves resolved
  have apart : ∀ first ∈ [":app", ":core:data", ":core", ":core"],
      ∀ second ∈ [":app", ":core:data", ":core", ":core"],
        ModulePath.segments first = ModulePath.segments second → first = second := by decide +kernel
  exact apart first ((resolves.mem_dependencyPaths first).mpr firstReached) second
    ((resolves.mem_dependencyPaths second).mpr secondReached)

/-- Two modules whose paths differ in an empty segment only. -/
def Catalog.doubled : Catalog := .ofPairs [("::app", []), (":app", ["::app"])]

def Manifest.doubled : String := "[modules]\n\":app\" = [\"::app\"]\n\"::app\" = []\n"

theorem Resolver.generate_doubled : Manifest.parse Manifest.doubled "modules.toml" = .ok .doubled ∧
    ∃ diagram, ((Resolver.new .doubled).generate ":app" .dot none).result = .ok diagram ∧
    ∃ module : Module, ((Resolver.new .doubled).resolveTarget ":app").result = .ok module ∧
      (NamespaceTree.build ":app" module.dependencyPaths).carried = ["::app"] ∧
      (NamespaceTree.build ":app" module.dependencyPaths).labels.filter (·.isTarget) = [] ∧
      Diagram.Format.dot.statements module (.build ":app" module.dependencyPaths) none =
        [.node "::app", .edges ":app" ["::app"]] ∧
      ¬ (NamespaceTree.build ":app" module.dependencyPaths).OneNodeEach .doubled ":app" := by
  have accepted : Manifest.parse Manifest.doubled "modules.toml" = .ok .doubled := by decide +kernel
  refine ⟨accepted, _, rfl, ⟨":app", [⟨"::app", []⟩]⟩, rfl, by decide +kernel, by decide +kernel, ?_, ?_⟩
  · rw [Diagram.Format.statements_eq, Module.edgeGroups_eq]
    decide +kernel
  · intro each
    have carried := (each.carried_iff ":app").mpr .refl
    revert carried
    decide +kernel

end DependencyDiagram
