import DependencyDiagram.CommandLine.Help
import DependencyDiagram.CommandLine.Reading
import DependencyDiagram.Execution.Generate
import DependencyDiagram.Execution.Listing
import DependencyDiagram.Log.Filter

/-!
The whole program as a function: from a command line, an environment and a file system to what is
printed, what is reported, and the file system afterwards.
-/

namespace DependencyDiagram

def Command.execute (system : Files.System) : Command → Execution.Run
  | .generate generation => Execution.generate system generation
  | .modules listing => Execution.listModules system listing

namespace Program

abbrev Environment := List (String × String)

/-- Why the program ends without success. -/
inductive Failing where
  | misuse (misuse : CommandLine.Misuse)
  | report (report : Execution.Report)
deriving DecidableEq, Repr

structure Outcome where
  system : Files.System
  stdout : String
  /-- The status lines and those events that the log filter shows. -/
  notices : List Execution.Notice
  failing : Option Failing

/-- A wrong command line and a report have exit codes of their own. -/
def Outcome.exitCode (outcome : Outcome) : Nat :=
  match outcome.failing with
  | none => 0
  | some (.report _) => 1
  | some (.misuse misuse) => (CommandLine.Refusal.misuse misuse).exitCode

def logVariable : String := "MODGRAPH_LOG"

def isShown (filter : Log.Filter) : Execution.Notice → Bool
  | .status _ => true
  | .event event => filter.shows event

def refuse (environment : Environment) (system : Files.System) :
    CommandLine.Refusal → Outcome
  | .help topic detail => ⟨system, CommandLine.Help.text environment topic detail, [], none⟩
  | .version => ⟨system, CommandLine.Help.version, [], none⟩
  | .misuse misuse => ⟨system, "", [], some (.misuse misuse)⟩

def finish (environment : Environment) (run : Execution.Run) : Outcome where
  system := run.system
  stdout := run.stdout
  notices := run.notices.filter (isShown (.ofVariable (environment.lookup logVariable)))
  failing :=
    match run.result with
    | .ok () => none
    | .error report => some (.report report)

def run (environment : Environment) (system : Files.System) (arguments : List String) : Outcome :=
  let here := Files.Path.ofLocation system.workingDirectory
  match CommandLine.read environment here arguments with
  | .ok command => finish environment (command.execute system)
  | .error refusal => refuse environment system refusal

end Program

end DependencyDiagram
