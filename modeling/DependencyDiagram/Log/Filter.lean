import DependencyDiagram.Log.Event
import DependencyDiagram.Text.Blank

/-!
Which events are shown. A filter is a list of directives, each a level for the parts of the program
whose name starts with its target. Of the directives that apply to an event the one with the longest
target decides.
-/

namespace DependencyDiagram.Log

/-- A greater number shows more. -/
def Level.number : Level → Nat
  | .error => 1
  | .warn => 2
  | .info => 3
  | .debug => 4
  | .trace => 5

def Level.name : Level → String
  | .error => "ERROR"
  | .warn => "WARN"
  | .info => "INFO"
  | .debug => "DEBUG"
  | .trace => "TRACE"

structure Directive where
  /-- What the names of the parts start with; empty for all of them. -/
  target : String
  /-- The number of the last level that is shown, zero if none is. -/
  limit : Nat
deriving DecidableEq, Repr

namespace Directive

def namedLimits : List (String × Nat) :=
  ("off", 0) :: [Level.error, .warn, .info, .debug, .trace].map fun level =>
    (level.name.map Char.toLower, level.number)

/-- The number a text of digits stands for, with a plus sign in front of it or none. -/
def numeral? (text : String) : Option Nat :=
  let digits :=
    match text.toList with
    | '+' :: digits => digits
    | digits => digits
  if digits.isEmpty || !digits.all Char.isDigit then none
  else some (digits.foldl (fun value digit => 10 * value + (digit.toNat - '0'.toNat)) 0)

/-- A level by its number or by its name, in which the case of letters does not matter. -/
def limit? (text : String) : Option Nat :=
  match numeral? text with
  | some number => if number ≤ Level.trace.number then some number else none
  | none => namedLimits.lookup (text.map Char.toLower)

/-- Whether a directive can start with a character. Letters outside ASCII can. -/
def canStart (c : Char) : Bool := c.isAlphanum || c == '-' || c == ':' || c == '_' || 128 ≤ c.toNat

/-- Reads a directive: a level, a target, or both with an equals sign between them. A target alone
shows everything, as does one with an empty level. -/
def parse? (text : String) : Option Directive :=
  match (Text.trimBlanks text).toList with
  | [] => none
  | first :: _ =>
    if !canStart first || text.toList.any (· == '[') then none
    else
      match text.toList.dropWhile (· != '=') with
      | [] =>
        match limit? text with
        | some limit => some ⟨"", limit⟩
        | none => some ⟨text, Level.trace.number⟩
      | _ :: level =>
        let target := String.ofList (text.toList.takeWhile (· != '='))
        if text.toList.head? != some first then none
        else if level.isEmpty then some ⟨target, Level.trace.number⟩
        else (limit? (String.ofList level)).map (Directive.mk target ·)

def appliesTo (directive : Directive) (event : Event) : Bool :=
  directive.target.toList.isPrefixOf event.target.toList

end Directive

structure Filter where
  directives : List Directive
deriving DecidableEq, Repr

namespace Filter

/-- Shows warnings and errors. -/
def standard : Filter := ⟨[⟨"", Level.warn.number⟩]⟩

/-- Reads directives between commas; pieces without text are skipped. A text without any directive
shows errors only. -/
def parse? (text : String) : Option Filter :=
  let pieces := ((text.toList.splitOn ',').filter (!·.isEmpty)).map String.ofList
  if pieces.isEmpty then some ⟨[⟨"", Level.error.number⟩]⟩
  else (pieces.mapM Directive.parse?).map Filter.mk

/-- The filter that the environment asks for; what cannot be read counts as nothing. -/
def ofVariable (value : Option String) : Filter := ((value.bind parse?)).getD standard

/-- The directive with the longer target, the later one of two that are equally long. -/
def closer (best : Option Directive) (directive : Directive) : Option Directive :=
  match best with
  | none => some directive
  | some other =>
    if other.target.utf8ByteSize ≤ directive.target.utf8ByteSize then some directive else best

def shows (filter : Filter) (event : Event) : Bool :=
  match (filter.directives.filter (·.appliesTo event)).foldl closer none with
  | some directive => event.level.number ≤ directive.limit
  | none => false

end Filter

/-- The text of a log line behind its time. -/
def Event.line (event : Event) : String :=
  let level := event.level.name
  String.ofList (List.replicate (5 - level.length) ' ') ++ level ++ " " ++ event.message

end DependencyDiagram.Log
