import DependencyDiagram.CommandLine.Refusal

/-!
The help texts. A summary has one line for each option; full help describes each option below its
name. Both show the value that the environment gives to a setting.
-/

namespace DependencyDiagram.CommandLine

/-- One option in a help text. -/
structure Entry where
  /-- The option as it is written, with what its value is called. -/
  heading : String
  description : String
  /-- The values that can be given, each with its meaning. -/
  choices : List (String × String)
  /-- Where a value comes from if the option is not given. -/
  origins : List String

namespace Entry

def indentation : String := "          "

def padded (width : Nat) (text : String) : String :=
  text ++ String.ofList (List.replicate (width - text.length) ' ')

/-- The widest text. -/
def widest (texts : List String) : Nat := (texts.map String.length).foldl max 0

def possibleValues : List (String × String) → List String
  | [] => []
  | choices => ["[possible values: " ++ String.intercalate ", " (choices.map (·.1)) ++ "]"]

/-- An option on one line, described right of a column. -/
def line (width : Nat) (entry : Entry) : String :=
  padded (width + 2) entry.heading ++
    String.intercalate " " (entry.description :: entry.origins ++ possibleValues entry.choices)

def choiceLines : List (String × String) → List String
  | [] => []
  | choices =>
    let width := widest (choices.map (·.1)) + 1
    "" :: (indentation ++ "Possible values:") :: choices.map fun (value, meaning) =>
      indentation ++ "- " ++ padded width (value ++ ":") ++ " " ++ meaning

def originLines : List String → List String
  | [] => []
  | origins => indentation :: origins.map (indentation ++ ·)

/-- An option with its description below it. -/
def lines (entry : Entry) : List String :=
  entry.heading :: (indentation ++ entry.description) ::
    (choiceLines entry.choices ++ originLines entry.origins)

/-- All options of a command. -/
def list (detail : Detail) (entries : List Entry) : String :=
  match detail with
  | .summary =>
    let width := widest (entries.map (·.heading))
    String.intercalate "\n" (entries.map (·.line width))
  | .full => String.intercalate "\n\n" (entries.map fun entry =>
      String.intercalate "\n" entry.lines)

/-- The entry of an option, named by a letter, a name, or both. -/
def option (letter : Option Char) (name : String) (valueName : Option String) : String :=
  let start :=
    match letter with
    | some letter => "  -" ++ letter.toString ++ ", --"
    | none => "      --"
  match valueName with
  | some valueName => start ++ name ++ " <" ++ valueName ++ ">"
  | none => start ++ name

def help (detail : Detail) : Entry where
  heading := option (some 'h') "help" none
  description :=
    match detail with
    | .summary => "Print help (see more with '--help')"
    | .full => "Print help (see a summary with '-h')"
  choices := []
  origins := []

def version : Entry where
  heading := option (some 'V') "version" none
  description := "Print version"
  choices := []
  origins := []

end Entry

namespace Setting

def description (verb : Verb) : Setting → String
  | .manifest => "TOML manifest declaring modules and their dependencies"
  | .root => "Directory whose Cargo packages are the modules (defaults to current directory)"
  | .excludeDev => "Ignore dev-dependencies of Cargo packages"
  | .excludeBuild => "Ignore build-dependencies of Cargo packages"
  | .excludeTarget => "Ignore target-specific dependencies of Cargo packages"
  | .modules => "Module to render (repeatable, e.g. --module :app)"
  | .filter =>
    match verb with
    | .generate => "Only render modules whose path matches this glob (e.g. ':core:*')"
    | .modules => "Only list modules whose path matches this glob"
  | .format => "Diagram format"
  | .style => "JSON style document"
  | .output => "Directory diagrams are written to"
  | .fileStart => "Prefix for every generated file name"
  | .stdout => "Print diagrams to stdout instead of writing files"
  | .errorOnFailure => "Exit with an error if any module fails to render"

/-- The value of a setting that is given nowhere, as it is shown. -/
def default? : Setting → Option String
  | .format => some "dot"
  | .output => some "docs/graphs"
  | .fileStart => some "\"\""
  | _ => none

def choices : Setting → List (String × String)
  | .format => [("dot", "Graphviz DOT"), ("mermaid", "Mermaid flowchart")]
  | _ => []

/-- The value that the environment gives to a setting, and the default if there is one. -/
def origins (environment : List (String × String)) (setting : Setting) : List String :=
  let given := (environment.lookup setting.environmentName).getD ""
  ("[env: " ++ setting.environmentName ++ "=" ++ given ++ "]") ::
    (setting.default?.map fun value => "[default: " ++ value ++ "]").toList

def entry (environment : List (String × String)) (verb : Verb) (setting : Setting) : Entry where
  heading := Entry.option setting.short? setting.long setting.valueName?
  description := setting.description verb
  choices := setting.choices
  origins := setting.origins environment

end Setting

namespace Verb

def summary : Verb → String
  | .generate => "Generate one diagram per module"
  | .modules => "List the known modules and their direct dependencies"

def fullDescription : Verb → String
  | .generate =>
    "Generate a dependency diagram for each requested module. The diagram shows the module, " ++
      "everything it depends on transitively, and namespace clusters for shared path prefixes. " ++
      "The module's own edges are 'direct links' and can be styled separately through a JSON " ++
      "style document. A module that fails to render is reported and skipped; the remaining " ++
      "modules are still generated."
  | .modules =>
    "List every module the source declares, one per line, followed by its direct dependencies. " ++
      "Useful for checking what a manifest or a Cargo directory tree resolves to before " ++
      "generating diagrams."

def description (verb : Verb) : Detail → String
  | .summary => verb.summary
  | .full => verb.fullDescription

def help (environment : List (String × String)) (verb : Verb) (detail : Detail) : String :=
  verb.description detail ++ "\n\nUsage: modgraph " ++ verb.name ++ " [OPTIONS]\n\nOptions:\n" ++
    Entry.list detail (verb.settings.map (Setting.entry environment verb) ++ [Entry.help detail]) ++
    "\n"

end Verb

namespace Help

def helpSummary : String := "Print this message or the help of the given subcommand(s)"

def programDescription : Detail → String
  | .summary => "🗺️  Render module dependency graphs as Graphviz DOT or Mermaid diagrams"
  | .full =>
    "modgraph resolves a module and everything it depends on, clusters the modules by their " ++
      "':'-separated namespaces, and writes the result as Graphviz DOT or a Mermaid flowchart. " ++
      "Modules come from a TOML manifest or from the Cargo packages of a directory tree."

/-- The names of all commands with what they do. -/
def commandLines : List String :=
  let commands := Verb.all.map (fun verb => (verb.name, verb.summary)) ++ [("help", helpSummary)]
  let width := Entry.widest (commands.map (·.1))
  commands.map fun (name, summary) => "  " ++ Entry.padded (width + 2) name ++ summary

def program (detail : Detail) : String :=
  programDescription detail ++ "\n\nUsage: modgraph <COMMAND>\n\nCommands:\n" ++
    String.intercalate "\n" commandLines ++ "\n\nOptions:\n" ++
    Entry.list detail [Entry.help detail, Entry.version] ++ "\n"

/-- The help of the command that prints help. -/
def ofHelp : String :=
  helpSummary ++ "\n\nUsage: modgraph help [COMMAND]...\n\nArguments:\n" ++
    "  [COMMAND]...  Print help for the subcommand(s)\n"

def text (environment : List (String × String)) : Topic → Detail → String
  | .program, detail => program detail
  | .verb verb, detail => verb.help environment detail
  | .help, _ => ofHelp

def version : String := "modgraph 0.1.0\n"

end Help

end DependencyDiagram.CommandLine
