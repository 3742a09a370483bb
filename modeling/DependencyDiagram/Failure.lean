import DependencyDiagram.Files.Fault
import DependencyDiagram.Glob
import DependencyDiagram.Json.Value
import DependencyDiagram.Style.Section

/-!
What can go wrong, one constructor for each cause. The wording of a failure, its code and the advice
that goes with it are functions of the cause.
-/

namespace DependencyDiagram

inductive Failure where
  /-- No module is declared under the path; the declared ones are listed. -/
  | unknownModule (path : String) (available : List String)
  | invalidPath (path : String)
  /-- A style document that is no JSON, with the byte offset of the first fault. -/
  | malformedStyle (name : String) (offset : Nat)
  | styleNotObject (name : String)
  | sectionNotObject (part : Style.Section) (found : Json.Kind)
  | unsupportedFormat (text : String)
  | unreadableFile (path : String) (fault : Files.Fault)
  | malformedManifest (file : String)
  | invalidFilter (pattern : String) (fault : Glob.Fault)
  | missingField (field : String)
  /-- A configuration was asked of the wrong command. -/
  | wrongCommand (configuration : String)
deriving DecidableEq, Repr

namespace Failure

/-- Failures of one category share a code and an advice. -/
inductive Category where
  | moduleNotFound
  | invalidModulePath
  | styleParse
  | invalidStyle
  | unsupportedFormat
  | fileRead
  | manifestParse
  | configuration
deriving DecidableEq, Repr

def category : Failure → Category
  | .unknownModule _ _ => .moduleNotFound
  | .invalidPath _ => .invalidModulePath
  | .malformedStyle _ _ => .styleParse
  | .styleNotObject _ | .sectionNotObject _ _ => .invalidStyle
  | .unsupportedFormat _ => .unsupportedFormat
  | .unreadableFile _ _ => .fileRead
  | .malformedManifest _ => .manifestParse
  | .invalidFilter _ _ | .missingField _ | .wrongCommand _ => .configuration

def message : Failure → String
  | .unknownModule path available =>
    s!"Could not find module '{path}'. Available modules:\n" ++ String.intercalate "\n" available
  | .invalidPath path =>
    s!"Invalid module path '{path}'. It must start with ':' (e.g. :app, :lib-core)"
  | .malformedStyle name _ => s!"Malformed style document '{name}'"
  | .styleNotObject name => s!"Invalid style document: '{name}' must contain a JSON object"
  | .sectionNotObject part found =>
    s!"Invalid style document: section '{part.name}' must be an object, found {found.description}"
  | .unsupportedFormat text => s!"Unsupported output format '{text}'"
  | .unreadableFile path _ => s!"Failed to read file '{path}'"
  | .malformedManifest file => s!"Invalid TOML syntax in module manifest '{file}'"
  | .invalidFilter pattern fault =>
    s!"Configuration error: Invalid module filter '{pattern}': {fault.message}"
  | .missingField field => s!"Configuration error: Missing required field: {field}"
  | .wrongCommand configuration =>
    s!"Configuration error: Invalid command type for {configuration}"

def Category.code : Category → String
  | .moduleNotFound => "modgraph::module_not_found"
  | .invalidModulePath => "modgraph::invalid_module_path"
  | .styleParse => "modgraph::style_parse_error"
  | .invalidStyle => "modgraph::invalid_style"
  | .unsupportedFormat => "modgraph::unsupported_format"
  | .fileRead => "modgraph::io_error"
  | .manifestParse => "modgraph::manifest_parse_error"
  | .configuration => "modgraph::config_error"

def Category.help : Category → String
  | .moduleNotFound => "Pick one of the listed module paths"
  | .invalidModulePath => "Module paths are ':'-separated and always start with ':'"
  | .styleParse =>
    "The style document must be a JSON object whose sections are JSON objects"
  | .invalidStyle =>
    "Use sections 'container', 'module', 'targetModule', 'link' and 'directLink', each " ++
      "holding an object of attributes"
  | .unsupportedFormat => "Supported formats are 'dot' (alias 'graphviz') and 'mermaid'"
  | .fileRead => "Check if the file exists and you have read permissions"
  | .manifestParse => "Check the TOML syntax near the highlighted position"
  | .configuration => "Check your command arguments and configuration"

/-- The messages of a failure and of what caused it, outermost first. -/
def chain (failure : Failure) : List String :=
  match failure with
  | .unreadableFile _ fault => [failure.message, fault.message]
  | _ => [failure.message]

end Failure

end DependencyDiagram
