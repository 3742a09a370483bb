import DependencyDiagram.CommandLine.Setting

/-! Why a command line gives no command to run: it asks for a text, or it is wrong. -/

namespace DependencyDiagram.CommandLine

inductive Misuse where
  | noCommand
  | unknownCommand (word : String)
  | unknownArgument (word : String)
  /-- A value is missing or cannot be one of the setting. -/
  | invalidValue (setting : Setting)
  /-- A setting that is given once is given again. -/
  | repeated (setting : Setting)
  /-- Two settings exclude each other. -/
  | conflict (first second : Setting)
  /-- A value is attached to an option that takes none. -/
  | unneededValue (option : String)
deriving DecidableEq, Repr

/-- What help can be asked for. -/
inductive Topic where
  | program
  | verb (verb : Verb)
  /-- The command that prints help. -/
  | help
deriving DecidableEq, Repr

inductive Detail where
  | summary
  | full
deriving DecidableEq, Repr

inductive Refusal where
  | help (topic : Topic) (detail : Detail)
  | version
  | misuse (misuse : Misuse)
deriving DecidableEq, Repr

/-- Asking for a text is no failure. -/
def Refusal.exitCode : Refusal → Nat
  | .help _ _ | .version => 0
  | .misuse _ => 2

def Misuse.message : Misuse → String
  | .noCommand => "a command is required"
  | .unknownCommand word => s!"unrecognized command '{word}'"
  | .unknownArgument word => s!"unexpected argument '{word}' found"
  | .invalidValue setting => s!"a valid value is required for '--{setting.long}'"
  | .repeated setting => s!"the argument '--{setting.long}' cannot be used multiple times"
  | .conflict first second =>
    s!"the argument '--{first.long}' cannot be used with '--{second.long}'"
  | .unneededValue option => s!"unexpected value for '{option}' found"

end DependencyDiagram.CommandLine
