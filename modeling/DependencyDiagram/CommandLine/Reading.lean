import DependencyDiagram.CommandLine.Scan
import DependencyDiagram.Configuration

/-!
From the words of a command line to the command they give. What is not on the command line comes
from the environment, and what is in neither has a default.
-/

namespace DependencyDiagram.CommandLine

def defaultFormat : Diagram.Format := .dot

def defaultOutput : String := "docs/graphs"

namespace Given

def filterOfPackages (given : Given) : Package.DependencyFilter :=
  ⟨given.isOn .excludeDev, given.isOn .excludeBuild, given.isOn .excludeTarget⟩

/-- The manifest, or else the packages below the root, which is the working directory by default. -/
def source (given : Given) (workingDirectory : String) : Source :=
  match given.value? .manifest with
  | some path => .manifest path
  | none =>
    .packages ((given.value? .root).getD workingDirectory) given.filterOfPackages

def command (given : Given) (workingDirectory : String) : Verb → Command
  | .generate => .generate {
      source := given.source workingDirectory
      modules := given.all .modules
      filter := given.value? .filter
      format := ((given.value? .format).bind Setting.format?).getD defaultFormat
      style := given.value? .style
      output := (given.value? .output).getD defaultOutput
      fileStart := (given.value? .fileStart).getD ""
      toStdout := given.isOn .stdout
      errorOnFailure := given.isOn .errorOnFailure }
  | .modules => .modules {
      source := given.source workingDirectory
      filter := given.value? .filter }

/-- A manifest and a root exclude each other, wherever they come from. -/
def checkSource (given : Given) : Except Misuse Unit :=
  if given.has .manifest && given.has .root then .error (.conflict .manifest .root)
  else .ok ()

end Given

/-- Reads what stands behind the name of a command. -/
def readVerb (environment : List (String × String)) (workingDirectory : String) (verb : Verb)
    (words : List String) : Except Refusal Command := do
  let given ← Scan.words verb words Scan.start
  let given ← Scan.liftMisuse (given.takeEnvironment environment verb.settings)
  Scan.liftMisuse given.checkSource
  pure (given.command workingDirectory verb)

/-- The word that stands for the command that prints help. -/
def helpName : String := "help"

/-- What help is asked for by the words behind the command that prints it. -/
def readTopic : List String → Refusal
  | [] => .help .program .full
  | [word] =>
    match Verb.ofName? word with
    | some verb => .help (.verb verb) .full
    | none => if word == helpName then .help .help .full else .misuse (.unknownCommand word)
  | word :: next :: _ =>
    if (Verb.ofName? word).isSome || word == helpName then .misuse (.unknownCommand next)
    else .misuse (.unknownCommand word)

/-- Why there is no command in words of which the first one is not the name of a command. -/
def refuseWord (word : String) (rest : List String) : Refusal :=
  match Word.ofString word with
  | .divider =>
    match rest with
    | [] => .misuse .noCommand
    | next :: _ =>
      if (Verb.ofName? next).isSome || next == helpName then .misuse (.unknownArgument next)
      else .misuse (.unknownCommand next)
  | .long name attached =>
    if name == "help" || name == "version" then
      if attached.isSome then .misuse (.unneededValue name)
      else if name == "help" then .help .program .full
      else .version
    else .misuse (.unknownArgument word)
  | .short letter _ =>
    if letter == 'h' then .help .program .summary
    else if letter == 'V' then .version
    else .misuse (.unknownArgument word)
  | .plain => .misuse (.unknownCommand word)

/-- Reads a whole command line. -/
def read (environment : List (String × String)) (workingDirectory : String) :
    List String → Except Refusal Command
  | [] => .error (.misuse .noCommand)
  | word :: rest =>
    match Verb.ofName? word with
    | some verb => readVerb environment workingDirectory verb rest
    | none =>
      if word == helpName then .error (readTopic rest) else .error (refuseWord word rest)

end DependencyDiagram.CommandLine
