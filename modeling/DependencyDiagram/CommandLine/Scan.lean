import DependencyDiagram.CommandLine.Given

/-!
Reading the words of a command line behind the name of a command. An option that takes a value waits
for it; what it was given is settled when the next known option comes or the words end, so a fault
that shows earlier is reported in its place.
-/

namespace DependencyDiagram.CommandLine

/-- A word of the command line. -/
inductive Word where
  /-- Two hyphens alone: only plain words follow. -/
  | divider
  /-- An option by name, with what stands behind an equals sign. -/
  | long (name : String) (attached : Option String)
  /-- Options by letter, with what stands behind the first one. -/
  | short (letter : Char) (rest : List Char)
  | plain
deriving DecidableEq, Repr

namespace Word

/-- Divides an option's text at the first equals sign. -/
def splitAttached (text : List Char) : Word :=
  let name := String.ofList (text.takeWhile (· != '='))
  match text.dropWhile (· != '=') with
  | [] => .long name none
  | _ :: attached => .long name (some (String.ofList attached))

def ofString (word : String) : Word :=
  match word.toList with
  | ['-', '-'] => .divider
  | '-' :: '-' :: text => splitAttached text
  | '-' :: letter :: rest => .short letter rest
  | _ => .plain

/-- The value that is attached to a letter, with or without an equals sign. -/
def attachedToLetter : List Char → Option String
  | [] => none
  | '=' :: value => some (String.ofList value)
  | value => some (String.ofList value)

end Word

/-- An option that takes a value and has not been settled. -/
structure Pending where
  setting : Setting
  value : Option String
deriving DecidableEq, Repr

structure Scan where
  given : Given
  pending : Option Pending
deriving DecidableEq, Repr

namespace Scan

def start : Scan := ⟨[], none⟩

/-- Takes what the pending option was given. -/
def settle (scan : Scan) : Except Misuse Given :=
  match scan.pending with
  | none => .ok scan.given
  | some pending => scan.given.takeOption pending.setting pending.value

def refuse {α : Type} (misuse : Misuse) : Except Refusal α := .error (.misuse misuse)

def liftMisuse {α : Type} : Except Misuse α → Except Refusal α
  | .ok value => .ok value
  | .error misuse => refuse misuse

/-- Settles what is pending and goes on to an option with an attached value or none. -/
def option (scan : Scan) (setting : Setting) (attached : Option String) : Except Misuse Scan := do
  let given ← scan.settle
  match attached with
  | none => .ok ⟨given, some ⟨setting, none⟩⟩
  | some value => .ok ⟨← given.takeOption setting (some value), none⟩

def flag (scan : Scan) (setting : Setting) : Except Misuse Scan := do
  let given ← scan.settle
  .ok ⟨← given.takeFlag setting, none⟩

/-- Settles what is pending and asks for help. -/
def help {α : Type} (scan : Scan) (verb : Verb) (detail : Detail) : Except Refusal α :=
  match scan.settle with
  | .ok _ => .error (.help (.verb verb) detail)
  | .error misuse => refuse misuse

/-- Reads an option by name. A flag takes no value. -/
def long (scan : Scan) (verb : Verb) (name : String) (attached : Option String) :
    Except Refusal Scan :=
  match verb.longSetting? name with
  | some setting =>
    if setting.takesValue then liftMisuse (scan.option setting attached)
    else if attached.isSome then refuse (.unneededValue name)
    else liftMisuse (scan.flag setting)
  | none =>
    if name == "help" then
      if attached.isSome then refuse (.unneededValue name) else scan.help verb .full
    else refuse (.unknownArgument ("--" ++ name))

/-- Reads an option by letter. All of them take a value, which may be attached; the letter of help
ends the reading. -/
def short (scan : Scan) (verb : Verb) (letter : Char) (rest : List Char) :
    Except Refusal Scan :=
  match verb.shortSetting? letter with
  | some setting => liftMisuse (scan.option setting (Word.attachedToLetter rest))
  | none =>
    if letter == 'h' then scan.help verb .summary
    else refuse (.unknownArgument ("-" ++ letter.toString))

/-- Reads a plain word, which is the value of an option that waits for one. -/
def plain (scan : Scan) (word : String) : Except Refusal Scan :=
  match scan.pending with
  | some ⟨setting, none⟩ => .ok { scan with pending := some ⟨setting, some word⟩ }
  | _ => refuse (.unknownArgument word)

/-- Reads all words. Behind a divider every word is a stray one. -/
def words (verb : Verb) : List String → Scan → Except Refusal Given
  | [], scan => liftMisuse scan.settle
  | word :: rest, scan =>
    match Word.ofString word with
    | .divider =>
      match rest with
      | [] => liftMisuse scan.settle
      | stray :: _ => refuse (.unknownArgument stray)
    | .long name attached => do words verb rest (← scan.long verb name attached)
    | .short letter others => do words verb rest (← scan.short verb letter others)
    | .plain => do words verb rest (← scan.plain word)

end Scan

end DependencyDiagram.CommandLine
