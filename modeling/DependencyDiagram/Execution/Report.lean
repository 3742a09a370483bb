import DependencyDiagram.Execution.Notice

/-! Why a run ends without success. -/

namespace DependencyDiagram.Execution

inductive Report where
  | invalidFilter (failure : Failure)
  | styleNotLoaded (failure : Failure)
  | sourceNotRead (failure : Failure)
  | outputNotCreated (path : String) (fault : Files.Fault)
  /-- Targets without a diagram, if that was to be an error. -/
  | notGenerated (targets : List String)
deriving DecidableEq, Repr

namespace Report

/-- The messages from the outermost one to the cause. -/
def chain : Report → List String
  | .invalidFilter failure => failure.chain
  | .styleNotLoaded failure => "Failed to load style document" :: failure.chain
  | .sourceNotRead failure => "Failed to read module declarations" :: failure.chain
  | .outputNotCreated path fault =>
    ["Failed to create output directory '" ++ path ++ "'", fault.message]
  | .notGenerated targets =>
    ["Failed to generate " ++ counted targets.length "diagram" ++ ": " ++
      String.intercalate ", " targets]

def message (report : Report) : String := report.chain.headD ""

/-- The failure that a report passes on. -/
def failure? : Report → Option Failure
  | .invalidFilter failure | .styleNotLoaded failure | .sourceNotRead failure => some failure
  | .outputNotCreated _ _ | .notGenerated _ => none

def code? : Report → Option String
  | .notGenerated _ => some "modgraph::generation_failed"
  | report => report.failure?.map (·.category.code)

def help? : Report → Option String
  | .notGenerated _ => some "Run with MODGRAPH_LOG=debug for details on each module"
  | report => report.failure?.map (·.category.help)

end Report

end DependencyDiagram.Execution
