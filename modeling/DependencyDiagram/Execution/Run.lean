import DependencyDiagram.Execution.Report
import DependencyDiagram.Files.System

/-! What a run leaves behind, and the choice of modules that all runs share. -/

namespace DependencyDiagram.Execution

structure Run where
  system : Files.System
  stdout : String
  notices : List Notice
  result : Except Report Unit

/-- A run that ends before it has done anything. -/
def Run.refused (system : Files.System) (notices : List Notice) (report : Report) : Run :=
  ⟨system, "", notices, .error report⟩

def compileFilter : Option String → Except Failure (Option Glob.Pattern)
  | none => .ok none
  | some pattern =>
    match Glob.Pattern.compile pattern with
    | .ok compiled => .ok (some compiled)
    | .error fault => .error (.invalidFilter pattern fault)

def logged (events : List Log.Event) : List Notice := events.map .event

end DependencyDiagram.Execution
