/-!
The sections of a style document. Each styles one sort of thing in a diagram; the order of the
constructors is the order in which sections are formatted.
-/

namespace DependencyDiagram.Style

inductive Section where
  | container
  | module
  | targetModule
  | link
  | directLink
deriving DecidableEq, Repr

namespace Section

def all : List Section := [.container, .module, .targetModule, .link, .directLink]

/-- The key of a section in a style document. -/
def name : Section → String
  | .container => "container"
  | .module => "module"
  | .targetModule => "targetModule"
  | .link => "link"
  | .directLink => "directLink"

def ofName? (key : String) : Option Section :=
  all.find? (·.name == key)

/-- The attribute that Mermaid takes out of a section and uses by itself. -/
def specialKey? : Section → Option String
  | .container => none
  | .module | .targetModule => some "shape"
  | .link | .directLink => some "arrow"

/-- The Graphviz statement that makes a section's attributes the default. -/
def dotKeyword? : Section → Option String
  | .container => some "graph"
  | .module => some "node"
  | .link => some "edge"
  | .targetModule | .directLink => none

/-- The name under which the special attribute of a section is kept. -/
def specialName? (part : Section) : Option String :=
  part.specialKey?.map fun key => part.name ++ "_" ++ key

end Section

end DependencyDiagram.Style
