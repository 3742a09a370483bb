import DependencyDiagram.CommandLine.Refusal

/-!
The settings that have been given, each with its values. All values in it are ones that their
setting admits, and only a list has more than one.
-/

namespace DependencyDiagram.CommandLine

abbrev Given := List (Setting × List String)

namespace Given

def has (given : Given) (setting : Setting) : Bool := (given.lookup setting).isSome

def all (given : Given) (setting : Setting) : List String := (given.lookup setting).getD []

def value? (given : Given) (setting : Setting) : Option String := (given.all setting).getLast?

def isOn (given : Given) (setting : Setting) : Bool :=
  ((given.value? setting).bind Setting.flag?).getD false

/-- Adds values to those of a setting. -/
def add (given : Given) (setting : Setting) (values : List String) : Given :=
  (setting, given.all setting ++ values) :: given

/-- Checks values and adds them. -/
def addChecked (given : Given) (setting : Setting) (values : List String) :
    Except Misuse Given :=
  if values.all setting.admits then .ok (given.add setting values)
  else .error (.invalidValue setting)

/-- Takes an option of the command line, whose value is still missing if there is none. -/
def takeOption (given : Given) (setting : Setting) (written : Option String) :
    Except Misuse Given :=
  match written with
  | none => .error (.invalidValue setting)
  | some written =>
    if given.has setting && !setting.isList then .error (.repeated setting)
    else given.addChecked setting (setting.values written)

/-- Takes a flag of the command line, which stands for its being on. -/
def takeFlag (given : Given) (setting : Setting) : Except Misuse Given :=
  given.takeOption setting (some "true")

/-- Takes settings that are not given from the environment. -/
def takeEnvironment (environment : List (String × String)) :
    List Setting → Given → Except Misuse Given
  | [], given => .ok given
  | setting :: rest, given => do
    let given ←
      match environment.lookup setting.environmentName with
      | some written =>
        if given.has setting then .ok given
        else given.addChecked setting (setting.values written)
      | none => .ok given
    takeEnvironment environment rest given

end Given

end DependencyDiagram.CommandLine
