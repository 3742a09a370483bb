import DependencyDiagram.Generator
import DependencyDiagram.Proofs.DotSketches
import DependencyDiagram.Proofs.MermaidSketches

/-!
The texts of a diagram in both languages show the same. With conventional paths each of them is read as the
namespace tree and the groups of edges that it is made from.
-/

namespace DependencyDiagram.Diagram

open ModulePath (IsPathText)

/-- The texts of a diagram in both languages are read as the same sketch: the items of the namespace tree,
whose nodes are the collected paths, and the groups of edges of the module. -/
theorem sketches_agree (module : Module) (target : String)
    (conventional : ∀ path ∈ module.dependencyPaths, ModulePath.IsConventional path) :
    let tree := NamespaceTree.build target module.dependencyPaths
    ∃ sketch, Dot.sketch? (Format.dot.render module tree none) = some sketch ∧
      Mermaid.sketch? (Format.mermaid.render module tree none) = some sketch ∧
      sketch.items = tree.items ∧
      (sketch.edges = module.edgeGroups.map fun group => (group.path, group.dependencyNames)) ∧
      sketch.paths = tree.carried ∧ ∀ path, path ∈ sketch.paths ↔ path ∈ module.dependencyPaths := by
  intro tree
  have carried_iff (path : String) : path ∈ tree.carried ↔ path ∈ module.dependencyPaths :=
    NamespaceTree.mem_carried_conventional target conventional
  have treePlain : tree.IsPlain := NamespaceTree.isPlain_build target conventional
  have groupsPlain (group : String × List String) (member : group ∈ module.namedGroups) (path : String)
      (isEnd : path ∈ group.1 :: group.2) : IsPathText path :=
    (conventional path (Module.mem_dependencyPaths_of_namedGroups member path isEnd)).isPathText
  have ends (group : String × List String) (member : group ∈ module.namedGroups) (path : String)
      (isEnd : path ∈ group.1 :: group.2) : path ∈ tree.carried :=
    (carried_iff path).mpr (Module.mem_dependencyPaths_of_namedGroups member path isEnd)
  have known {path : String} (member : path ∈ tree.carried) : ModulePath.IsConventional path :=
    conventional path ((carried_iff path).mp member)
  refine ⟨⟨tree.items, module.namedGroups⟩, ?_, ?_, rfl, rfl, tree.paths_items, ?_⟩
  · exact (Dot.sketch?_render treePlain groupsPlain).trans (sketchOf?_signs (fun _ _ _ _ same => same) ends)
  · refine (Mermaid.sketch?_render treePlain groupsPlain).trans (sketchOf?_signs ?_ ends)
    exact fun first firstMember second secondMember =>
      Mermaid.eq_of_nodeIdentifier (known firstMember) (known secondMember)
  · intro path
    rw [Sketch.paths, tree.paths_items, carried_iff]

/-- A module that is also the namespace of another, which is reached twice. -/
def layered : Module := ⟨":app", [⟨":core-ui:data", [⟨":core-ui", []⟩]⟩, ⟨":core-ui", []⟩]⟩

theorem sketches_layered : (∀ path ∈ layered.dependencyPaths, ModulePath.IsConventional path) ∧
    ∃ sketch,
      Dot.sketch? (Format.dot.render layered (.build ":app" layered.dependencyPaths) none) = some sketch ∧
      Mermaid.sketch? (Format.mermaid.render layered (.build ":app" layered.dependencyPaths) none) = some sketch ∧
      sketch.items = [.node ":app", .container "core-ui" [.node ":core-ui", .node ":core-ui:data"]] ∧
      sketch.edges = [(":app", [":core-ui:data", ":core-ui"]), (":core-ui:data", [":core-ui"])] := by
  have conventional : ∀ path ∈ layered.dependencyPaths, ModulePath.IsConventional path := by decide +kernel
  obtain ⟨sketch, dot, mermaid, items, edges, _⟩ := sketches_agree layered ":app" conventional
  refine ⟨conventional, sketch, dot, mermaid, items.trans rfl, edges.trans ?_⟩
  rw [Module.edgeGroups_eq]
  rfl

end DependencyDiagram.Diagram
