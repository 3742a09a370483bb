import DependencyDiagram.Diagram.Dot

/-!
Diagrams as Mermaid flowcharts. A module's node is identified by its normalized path with a suffix
of its own, so it never shares an identifier with the subgraph of its namespace. A subgraph is
identified by its namespace segments run together, while its style line names the last segment only.
-/

namespace DependencyDiagram.Diagram.Mermaid

open ModulePath (identifier)
open Style (Section Sheet)

inductive Line where
  | settings
  | opening
  | blank
  | classDefinition (isTarget : Bool) (attributes : String)
  | subgraph (level : Nat) (namespaceName segment : String)
  | containerStyle (level : Nat) (segment attributes : String)
  | node (level : Nat) (path : String) (shape : Option String)
  | nodeClass (level : Nat) (path : String) (isTarget : Bool)
  | closing (level : Nat)
  | edges (source : String) (arrow : String) (targets : List String)
  | linkStyle (first past : Nat) (attributes : String)
deriving DecidableEq, Repr

def nodeIdentifier (path : String) : String := identifier path ++ "_id"

def className (isTarget : Bool) : String := if isTarget then "TargetModule" else "Module"

/-- The numbers from `first` up to but not including `past`. -/
def indices (first past : Nat) : List Nat :=
  (List.range (past - first)).map (first + ·)

def Line.text : Line → String
  | .settings => "%%\x7b init: \x7b 'flowchart': \x7b 'curve': 'basis' \x7d \x7d \x7d%%"
  | .opening => "graph TD"
  | .blank => ""
  | .classDefinition isTarget attributes => "\tclassDef " ++ className isTarget ++ " " ++ attributes
  | .subgraph level namespaceName segment =>
    indent level ++ "subgraph " ++ identifier namespaceName ++ "[\"" ++ segment ++ "\"]"
  | .containerStyle level segment attributes =>
    indent level ++ "style " ++ identifier segment ++ " " ++ attributes
  | .node level path shape =>
    let shapeText := match shape with
      | none => ""
      | some shape => "shape: " ++ shape ++ ", "
    indent level ++ nodeIdentifier path ++ "@\x7b" ++ shapeText ++ "label: \"" ++ path ++ "\"\x7d"
  | .nodeClass level path isTarget =>
    indent level ++ nodeIdentifier path ++ ":::" ++ className isTarget
  | .closing level => indent level ++ "end"
  | .edges source arrow targets =>
    nodeIdentifier source ++ " " ++ arrow ++ " " ++
      String.intercalate " & " (targets.map nodeIdentifier)
  | .linkStyle first past attributes =>
    "linkStyle " ++ String.intercalate "," ((indices first past).map toString) ++ " " ++ attributes

def classLines (sheet : Sheet) : List Line :=
  [Section.module, .targetModule].filterMap fun part =>
    (sheet.list? part).map (.classDefinition (part == .targetModule))

def nodeLines (sheet : Sheet) (level : Nat) (label : NodeLabel) : List Line :=
  match label.path with
  | none => []
  | some path =>
    let part : Section := if label.isTarget then .targetModule else .module
    [.node level path (sheet.special? part), .nodeClass level path label.isTarget]

/-- A style line stands by itself, with a blank line after it. -/
def containerLines (sheet : Sheet) (level : Nat) (segment : String) : List Line :=
  match sheet.list? .container with
  | none => []
  | some attributes => [.containerStyle level segment attributes, .blank]

def branchLines (sheet : Sheet) (namespaceName : String) (level : Nat) : Branches → List Line
  | .nil => []
  | .cons segment label children siblings =>
    let inner := branchLines sheet (namespaceName ++ segment) (level + 1) children
    let node :=
      if children.isEmpty then nodeLines sheet level label
      else
        [.blank, .subgraph level (namespaceName ++ segment) segment] ++
          containerLines sheet (level + 1) segment ++ nodeLines sheet (level + 1) label ++ inner ++
          [.closing level]
    node ++ branchLines sheet namespaceName level siblings

/-- The root never opens a subgraph. -/
def treeLines (sheet : Sheet) (tree : NamespaceTree) : List Line :=
  nodeLines sheet (if tree.hasChildren then 1 else 0) tree.label ++
    branchLines sheet "" 1 tree.children

def defaultArrow : String := "-->"

def edgeLine (sheet : Sheet) (module group : Module) : Line :=
  let part : Section := if group.path = module.path then .directLink else .link
  .edges group.path ((sheet.special? part).getD defaultArrow) group.dependencyNames

def edgeLines (sheet : Sheet) (module : Module) : List Line :=
  module.edgeGroups.map (edgeLine sheet module)

/-- The number of edges a diagram draws. -/
def edgeCount (module : Module) : Nat :=
  (module.edgeGroups.map (·.dependencies.length)).foldr (· + ·) 0

/-- The module's own edges have the first indices. They are told apart from the others only when
there are several of them; a diagram with edges ends the edge block with a newline either way. -/
def linkStyleLines (sheet : Sheet) (direct count : Nat) : List Line :=
  if count = 0 then []
  else if direct ≤ 1 then [.blank]
  else
    let own := (sheet.list? .directLink).map (.linkStyle 0 direct)
    let others := if direct < count then (sheet.list? .link).map (.linkStyle direct count) else none
    .blank :: own.toList ++ others.toList

def lines (module : Module) (tree : NamespaceTree) (sheet : Sheet) : List Line :=
  [.settings, .opening] ++ classLines sheet ++ [.blank] ++ treeLines sheet tree ++ [.blank] ++
    edgeLines sheet module ++
    linkStyleLines sheet module.dependencies.length (edgeCount module)

def render (module : Module) (tree : NamespaceTree) (sheet : Sheet) : String :=
  String.intercalate "\n" ((lines module tree sheet).map Line.text)

end DependencyDiagram.Diagram.Mermaid
