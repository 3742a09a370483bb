import DependencyDiagram.Log.Event
import DependencyDiagram.Source

/-! What a run tells the person in front of it: status lines, and events for the log. -/

namespace DependencyDiagram.Execution

inductive Status where
  | reading (source : Source)
  | found (count : Nat)
  | nothingToRender
  | generating (count : Nat) (format : Diagram.Format)
  | notGenerated (target : String) (failure : Failure)
  | leftOut (target : String) (edge : CycleBreak)
  | notPrinted (target : String) (fault : Files.Fault)
  | notWritten (target path : String)
  /-- How many diagrams were written and how many were not; the directory if there is one. -/
  | generated (written failed : Nat) (output : Option String)
  | nothingToList
  | listed (count : Nat)
deriving DecidableEq, Repr

inductive Notice where
  | status (status : Status)
  | event (event : Log.Event)
deriving DecidableEq, Repr

/-- A number of things, whose name takes an `s` unless there is exactly one. -/
def counted (count : Nat) (name : String) : String :=
  toString count ++ " " ++ name ++ if count == 1 then "" else "s"

namespace Status

def destination : Option String → String
  | some directory => " to " ++ directory
  | none => ""

def line : Status → String
  | .reading source => "🔍 Reading modules from " ++ source.describe ++ "..."
  | .found count =>
    if count == 0 then "✗ No modules found" else "✓ Found " ++ counted count "module"
  | .nothingToRender => "ℹ No modules to render"
  | .generating count format =>
    "📊 Generating " ++ counted count (format.name ++ " diagram") ++ "..."
  | .notGenerated target failure =>
    "✗ Failed to generate " ++ target ++ ": " ++ failure.message
  | .leftOut target edge =>
    "⚠ Dependency cycle in " ++ target ++ ": edge " ++ edge.text ++ " left out"
  | .notPrinted target fault => "✗ " ++ target ++ ": " ++ fault.message
  | .notWritten target path => "✗ " ++ target ++ ": Failed to write diagram '" ++ path ++ "'"
  | .generated written failed output =>
    let summary := "Generated " ++ counted written "diagram" ++ destination output
    if failed == 0 then "✓ " ++ summary
    else "⚠ " ++ summary ++ ", " ++ toString failed ++ " failed"
  | .nothingToList => "ℹ No modules found"
  | .listed count => "✓ Listed " ++ counted count "module"

end Status

end DependencyDiagram.Execution
