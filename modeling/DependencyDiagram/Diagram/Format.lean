import DependencyDiagram.Failure
import DependencyDiagram.Text.Blank

/-! The two languages a diagram can be written in. -/

namespace DependencyDiagram.Diagram

inductive Format where
  | dot
  | mermaid
deriving DecidableEq, Repr

namespace Format

def name : Format → String
  | .dot => "dot"
  | .mermaid => "mermaid"

/-- The extension of the files that hold diagrams in a format. -/
def extension : Format → String
  | .dot => "dot"
  | .mermaid => "md"

/-- The format a name stands for; blanks around it and the case of ASCII letters do not matter. -/
def parse (text : String) : Except Failure Format :=
  match (Text.trimBlanks text).map Char.toLower with
  | "dot" | "graphviz" => .ok .dot
  | "mermaid" => .ok .mermaid
  | _ => .error (.unsupportedFormat text)

end Format

end DependencyDiagram.Diagram
