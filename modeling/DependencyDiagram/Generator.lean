import DependencyDiagram.Diagram.Mermaid
import DependencyDiagram.Log.Recorded
import DependencyDiagram.Resolver

/-!
Diagrams of modules. A diagram shows a module, everything it depends on and the edges between them;
all targets of one generator share what its resolver has learned.
-/

namespace DependencyDiagram

open Log (Event)

structure Diagram where
  modulePath : String
  format : Diagram.Format
  content : String
  /-- Edges left out because they closed a cycle. -/
  cycleBreaks : List CycleBreak

namespace Diagram

/-- The file that holds a module's diagram, with a prefix common to all files of a run. -/
def fileName (diagram : Diagram) (fileStart : String) : String :=
  fileStart ++ ModulePath.identifier diagram.modulePath ++ "." ++ diagram.format.extension

/-- Mermaid goes into a fenced block, so that Markdown viewers draw it. -/
def fileContents (diagram : Diagram) : String :=
  match diagram.format with
  | .dot => diagram.content
  | .mermaid => "```mermaid\n" ++ diagram.content ++ "\n```\n"

/-- The text of a diagram in a format, styled by a document. -/
def Format.render (format : Format) (module : Module) (tree : NamespaceTree)
    (style : Option Style.Document) : String :=
  match format with
  | .dot => Dot.render module tree (Style.dotSheet style)
  | .mermaid => Mermaid.render module tree (Style.mermaidSheet style)

end Diagram

namespace Resolver

/-- Resolves a target; only a valid path can be one. -/
def resolveTarget (resolver : Resolver) (target : String) : Answer Module :=
  match ModulePath.validate target with
  | .ok () => resolver.resolve target
  | .error failure => ⟨resolver, [], .error failure⟩

/-- Draws the diagram of a target. -/
def generate (resolver : Resolver) (target : String) (format : Diagram.Format)
    (style : Option Style.Document) : Answer Diagram :=
  let answer := resolver.resolveTarget target
  match answer.result with
  | .error failure => ⟨answer.resolver, answer.events, .error failure⟩
  | .ok module =>
    let tree := NamespaceTree.build target module.dependencyPaths
    let content := format.render module tree style
    ⟨answer.resolver, answer.events ++ [.rendered target format content.utf8ByteSize],
      .ok ⟨target, format, content, answer.resolver.cycleBreaks⟩⟩

/-- Draws one diagram for each target in turn. A target that fails leaves the others untouched. -/
def generateAll (format : Diagram.Format) (style : Option Style.Document) :
    Resolver → List String → Resolver × List (String × Except Failure Diagram)
  | resolver, [] => (resolver, [])
  | resolver, target :: rest =>
    let answer := resolver.generate target format style
    let (resolver, others) := generateAll format style answer.resolver rest
    (resolver, (target, answer.result) :: others)

end Resolver

end DependencyDiagram
