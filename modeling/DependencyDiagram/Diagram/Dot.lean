import DependencyDiagram.NamespaceTree
import DependencyDiagram.Style.Sheet
import DependencyDiagram.Traversal

/-!
Diagrams in Graphviz DOT. A diagram is a list of lines: default attributes, the namespace tree with
a cluster for each node that has children, and one edge statement for each module with dependencies.
-/

namespace DependencyDiagram.Diagram

def indent (level : Nat) : String := String.ofList (List.replicate level '\t')

namespace Dot

open ModulePath (identifier)
open Style (Section Sheet quoteDot)

inductive Line where
  | opening
  | blank
  | defaults (keyword attributes : String)
  /-- Clusters are named after their own segment only. -/
  | cluster (level : Nat) (segment : String)
  | label (level : Nat) (segment : String)
  | tooltip (level : Nat) (segment : String)
  | node (level : Nat) (path : String) (attributes : Option String)
  | edges (source : String) (targets : List String) (attributes : Option String)
  | closing (level : Nat)
deriving DecidableEq, Repr

def suffix : Option String → String
  | none => ""
  | some attributes => " [" ++ attributes ++ "]"

def Line.text : Line → String
  | .opening => "digraph \x7b"
  | .blank => ""
  | .defaults keyword attributes => "\t" ++ keyword ++ " [" ++ attributes ++ "];"
  | .cluster level segment => indent level ++ "subgraph cluster_" ++ identifier segment ++ " \x7b"
  | .label level segment => indent level ++ "label = " ++ quoteDot segment ++ ";"
  | .tooltip level segment => indent level ++ "tooltip = " ++ quoteDot segment ++ ";"
  | .node level path attributes => indent level ++ quoteDot path ++ suffix attributes
  | .edges source targets attributes =>
    "\t" ++ quoteDot source ++ " -> \x7b" ++
      String.intercalate " " (targets.map quoteDot) ++ "\x7d" ++ suffix attributes
  | .closing level => indent level ++ "\x7d"

/-- The defaults for clusters, nodes and edges, for the sections that have attributes. -/
def defaultLines (sheet : Sheet) : List Line :=
  [Section.container, .module, .link].filterMap fun part => do
    pure (.defaults (← part.dotKeyword?) (← sheet.list? part))

/-- The statement of the module at a node. Only the target's has attributes of its own. -/
def nodeLines (targetStyle : Option String) (level : Nat) (label : NodeLabel) : List Line :=
  match label.path with
  | none => []
  | some path => [.node level path (if label.isTarget then targetStyle else none)]

def branchLines (targetStyle : Option String) (level : Nat) : Branches → List Line
  | .nil => []
  | .cons segment label children siblings =>
    let inner := branchLines targetStyle (level + 1) children
    let node :=
      if children.isEmpty then nodeLines targetStyle level label
      else
        [.blank, .cluster level segment, .label (level + 1) segment, .tooltip (level + 1) segment,
          .blank] ++ nodeLines targetStyle (level + 1) label ++ inner ++ [.closing level]
    node ++ branchLines targetStyle level siblings

/-- The root never opens a cluster. -/
def treeLines (targetStyle : Option String) (tree : NamespaceTree) : List Line :=
  nodeLines targetStyle (if tree.hasChildren then 1 else 0) tree.label ++
    branchLines targetStyle 1 tree.children

def edgeLine (attributes : Option String) (group : Module) : Line :=
  .edges group.path group.dependencyNames attributes

/-- The module's own edges come first, and only they are direct links. -/
def edgeLines (directStyle : Option String) (module : Module) : List Line :=
  match module.edgeGroups with
  | [] => []
  | first :: rest =>
    edgeLine (if first.path = module.path then directStyle else none) first ::
      rest.map (edgeLine none)

def lines (module : Module) (tree : NamespaceTree) (sheet : Sheet) : List Line :=
  [.opening] ++ defaultLines sheet ++ [.blank] ++ treeLines (sheet.list? .targetModule) tree ++
    [.blank] ++ edgeLines (sheet.list? .directLink) module ++ [.closing 0]

def render (module : Module) (tree : NamespaceTree) (sheet : Sheet) : String :=
  String.intercalate "\n" ((lines module tree sheet).map Line.text)

end Dot

end DependencyDiagram.Diagram
