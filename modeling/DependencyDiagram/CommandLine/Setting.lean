import DependencyDiagram.Diagram.Format

/-!
The commands and the settings each of them knows. A setting is given by an option on the command
line or by a variable of the environment.
-/

namespace DependencyDiagram.CommandLine

inductive Setting where
  | manifest | root | excludeDev | excludeBuild | excludeTarget
  | modules | filter | format | style | output | fileStart | stdout | errorOnFailure
deriving DecidableEq, Repr

namespace Setting

/-- The name of its option, behind two hyphens. -/
def long : Setting → String
  | .manifest => "manifest"
  | .root => "root"
  | .excludeDev => "exclude-dev"
  | .excludeBuild => "exclude-build"
  | .excludeTarget => "exclude-target"
  | .modules => "module"
  | .filter => "filter"
  | .format => "format"
  | .style => "style"
  | .output => "output"
  | .fileStart => "prefix"
  | .stdout => "stdout"
  | .errorOnFailure => "error-on-failure"

/-- The letter of its option, behind one hyphen. Only settings that take a value have one. -/
def short? : Setting → Option Char
  | .modules => some 'm'
  | .format => some 'f'
  | .style => some 's'
  | .output => some 'o'
  | _ => none

/-- Its variable in the environment. -/
def environmentName : Setting → String
  | .manifest => "MODGRAPH_MANIFEST"
  | .root => "MODGRAPH_ROOT"
  | .excludeDev => "MODGRAPH_EXCLUDE_DEV"
  | .excludeBuild => "MODGRAPH_EXCLUDE_BUILD"
  | .excludeTarget => "MODGRAPH_EXCLUDE_TARGET"
  | .modules => "MODGRAPH_MODULES"
  | .filter => "MODGRAPH_FILTER"
  | .format => "MODGRAPH_FORMAT"
  | .style => "MODGRAPH_STYLE"
  | .output => "MODGRAPH_OUTPUT"
  | .fileStart => "MODGRAPH_PREFIX"
  | .stdout => "MODGRAPH_STDOUT"
  | .errorOnFailure => "MODGRAPH_ERROR_ON_FAILURE"

/-- What a value of the setting is called; a flag takes none. -/
def valueName? : Setting → Option String
  | .manifest | .style => some "FILE"
  | .root | .output => some "DIR"
  | .modules => some "MODULE_PATH"
  | .filter => some "GLOB"
  | .format => some "FORMAT"
  | .fileStart => some "PREFIX"
  | .excludeDev | .excludeBuild | .excludeTarget | .stdout | .errorOnFailure => none

def takesValue (setting : Setting) : Bool := setting.valueName?.isSome

/-- A list collects the values of all its options; every other setting is given once. -/
def isList (setting : Setting) : Bool := setting == .modules

/-- The format that a value of the format setting names, exactly as it is written. -/
def format? : String → Option Diagram.Format
  | "dot" | "graphviz" => some .dot
  | "mermaid" => some .mermaid
  | _ => none

/-- The value of a flag in the environment. -/
def flag? : String → Option Bool
  | "true" => some true
  | "false" => some false
  | _ => none

/-- The values a written value stands for: a list is divided at its commas. -/
def values (setting : Setting) (written : String) : List String :=
  if setting.isList then (written.toList.splitOn ',').map String.ofList else [written]

/-- Whether a value can be one of the setting. A path may not be empty. -/
def admits (setting : Setting) (value : String) : Bool :=
  match setting with
  | .manifest | .root | .style | .output => !value.isEmpty
  | .format => (format? value).isSome
  | .modules | .filter | .fileStart => true
  | .excludeDev | .excludeBuild | .excludeTarget | .stdout | .errorOnFailure =>
    (flag? value).isSome

end Setting

inductive Verb where
  | generate
  | modules
deriving DecidableEq, Repr

namespace Verb

def all : List Verb := [.generate, .modules]

def name : Verb → String
  | .generate => "generate"
  | .modules => "modules"

def ofName? (name : String) : Option Verb := all.find? (·.name == name)

/-- The settings of the source, which all commands share. -/
def sourceSettings : List Setting :=
  [.manifest, .root, .excludeDev, .excludeBuild, .excludeTarget]

def settings : Verb → List Setting
  | .generate =>
    sourceSettings ++
      [.modules, .filter, .format, .style, .output, .fileStart, .stdout, .errorOnFailure]
  | .modules => sourceSettings ++ [.filter]

def longSetting? (verb : Verb) (name : String) : Option Setting :=
  verb.settings.find? (·.long == name)

def shortSetting? (verb : Verb) (letter : Char) : Option Setting :=
  verb.settings.find? (·.short? == some letter)

end Verb

end DependencyDiagram.CommandLine
