import DependencyDiagram.Toml.Value

/-!
Reading program data out of TOML values. A record is written as a table of its fields or as an array
of them in their order; a date or time counts as a record without any known field. Values that are
not used still have to be within range.
-/

namespace DependencyDiagram.Toml

mutual

/-- Whether the integers in a value lie between two bounds and its floats are finite. -/
def Value.inRange (least greatest : Int) : Value → Bool
  | .integer value => least ≤ value && value ≤ greatest
  | .float inRange => inRange
  | .array items => itemsInRange least greatest items
  | .table entries => entriesInRange least greatest entries
  | .string _ | .boolean _ | .moment => true

def itemsInRange (least greatest : Int) : List Value → Bool
  | [] => true
  | item :: rest => item.inRange least greatest && itemsInRange least greatest rest

def entriesInRange (least greatest : Int) : List (String × Value) → Bool
  | [] => true
  | (_, value) :: rest => value.inRange least greatest && entriesInRange least greatest rest

end

/-- What is read and passed over may use up to 128 bits. -/
def Value.isIgnorable (value : Value) : Bool :=
  value.inRange (-Int.pow 2 127) (Int.pow 2 128 - 1)

/-- What is kept aside until its form is known may use up to 64 bits. -/
def Value.isKeepable (value : Value) : Bool :=
  value.inRange (-Int.pow 2 63) (Int.pow 2 64 - 1)

def Value.string? : Value → Option String
  | .string text => some text
  | _ => none

def Value.boolean? : Value → Option Bool
  | .boolean flag => some flag
  | _ => none

/-- The field of a table under a key, which may be missing but not malformed. -/
def optionalField {α : Type} (decode : Value → Option α) (entries : Entries) (key : String) :
    Option (Option α) :=
  match entries.lookup key with
  | none => some none
  | some value => (decode value).map some

/-- Whether the fields of a table that are not among the known ones can be passed over. -/
def othersIgnorable (known : List String) (entries : Entries) : Bool :=
  entries.all fun (key, value) => known.contains key || value.isIgnorable

end DependencyDiagram.Toml
