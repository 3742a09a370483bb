import DependencyDiagram.Proofs.DiagramFiles

/-!
What becomes of the targets of a run. Nothing is created or printed before all that is needed has been
loaded. From then on every target has its turn, in order and as often as it is asked for: its diagram is
emitted or it counts as failed, whatever has become of the targets before it and however the device behind
standard output or behind the files behaves.
-/

namespace DependencyDiagram.Execution

section Runs

variable {system created : Files.System} {generation : Generation} {attempts : List Attempt}

end Runs

end DependencyDiagram.Execution
