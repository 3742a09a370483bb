import DependencyDiagram.Generator
import DependencyDiagram.Manifest
import DependencyDiagram.Proofs.QuotedLiterals

/-!
Values of styles in DOT. All values but numbers and booleans are quoted, lists and objects as JSON text. This
text has backslashes of its own only in its strings, always before another character, so they are paired
unless that character is a quote.
-/

namespace DependencyDiagram

open Text (PairsBackslashes)

namespace Json

mutual

/-- The strings in a value, keys included. -/
def Value.strings : Value → List String
  | .null | .bool _ | .number _ => []
  | .string text => [text]
  | .array items => itemStrings items
  | .object members => memberStrings members

def itemStrings : List Value → List String
  | [] => []
  | item :: rest => item.strings ++ itemStrings rest

def memberStrings : List (String × Value) → List String
  | [] => []
  | (key, value) :: rest => key :: (value.strings ++ memberStrings rest)

end

theorem itemStrings_eq (items : List Value) : itemStrings items = items.flatMap Value.strings := by
  induction items with
  | nil => rfl
  | cons item rest ih => rw [itemStrings, ih, List.flatMap_cons]

theorem memberStrings_eq (members : List (String × Value)) :
    memberStrings members = members.flatMap fun member => member.1 :: member.2.strings := by
  induction members with
  | nil => rfl
  | cons member rest ih => rw [memberStrings, ih, List.flatMap_cons, List.cons_append]

theorem itemTexts_eq (items : List Value) : itemTexts items = items.map Value.text := by
  induction items with
  | nil => rfl
  | cons item rest ih => rw [itemTexts, ih, List.map_cons]

def memberText (member : String × Value) : String := quoted member.1 ++ ":" ++ member.2.text

theorem memberTexts_eq (members : List (String × Value)) : memberTexts members = members.map memberText := by
  induction members with
  | nil => rfl
  | cons member rest ih => rw [memberTexts, ih, List.map_cons, memberText]

def IsQuoteless (strings : List String) : Prop := ∀ text ∈ strings, '"' ∉ text.toList

theorem isQuoteless_cons {text : String} {others : List String} :
    IsQuoteless (text :: others) ↔ '"' ∉ text.toList ∧ IsQuoteless others :=
  List.forall_mem_cons

theorem isQuoteless_flatMap {Item : Type} {items : List Item} {strings : Item → List String} :
    IsQuoteless (items.flatMap strings) ↔ ∀ item ∈ items, IsQuoteless (strings item) :=
  List.forall_mem_flatMap

/-- The characters that numbers are written with. -/
def IsNumberChar (c : Char) : Prop := c.isDigit = true ∨ c ∈ ['-', '+', '.', 'e']

instance (c : Char) : Decidable (IsNumberChar c) :=
  inferInstanceAs (Decidable (_ ∨ _))

def IsNumberText (text : String) : Prop := ∀ c ∈ text.toList, IsNumberChar c

instance (text : String) : Decidable (IsNumberText text) :=
  List.decidableBAll IsNumberChar text.toList

theorem isNumberText_append {first second : String} :
    IsNumberText (first ++ second) ↔ IsNumberText first ∧ IsNumberText second := by
  rw [IsNumberText, String.toList_append, List.forall_mem_append]
  rfl

theorem isNumberText_ofList {digits : List Char} (each : ∀ c ∈ digits, c.isDigit = true) :
    IsNumberText (String.ofList digits) := by
  intro c member
  rw [String.toList_ofList] at member
  exact .inl (each c member)

theorem isDigit_toDigits (n : Nat) : ∀ c ∈ Nat.toDigits 10 n, c.isDigit = true := fun _ member =>
  Nat.isDigit_of_mem_toDigits (by decide) (by decide) member

theorem isNumberText_natural (n : Nat) : IsNumberText (toString n) := by
  rw [Nat.toString_eq_ofList_toDigits]
  exact isNumberText_ofList (isDigit_toDigits n)

theorem isNumberText_zeros (count : Nat) : IsNumberText (String.ofList (List.replicate count '0')) :=
  isNumberText_ofList fun c member => by rw [List.eq_of_mem_replicate member]; rfl

theorem isNumberText_positional {digits : List Char} (each : ∀ c ∈ digits, c.isDigit = true) (exponent : Int) :
    IsNumberText (positional digits exponent) := by
  have point : IsNumberText "." := by decide
  unfold positional
  split
  · exact isNumberText_append.mpr ⟨isNumberText_append.mpr ⟨isNumberText_ofList each, isNumberText_zeros _⟩,
      by decide⟩
  · dsimp only
    split
    · refine isNumberText_append.mpr ⟨isNumberText_append.mpr ⟨?_, point⟩, ?_⟩
      · exact isNumberText_ofList fun c member => each c (List.mem_of_mem_take member)
      · exact isNumberText_ofList fun c member => each c (List.mem_of_mem_drop member)
    · exact isNumberText_append.mpr ⟨isNumberText_append.mpr ⟨by decide, isNumberText_zeros _⟩,
        isNumberText_ofList each⟩

theorem isNumberText_exponential {digits : List Char} (each : ∀ c ∈ digits, c.isDigit = true) (leading : Int) :
    IsNumberText (exponential digits leading) := by
  have exponent : IsNumberText
      (if leading < 0 then "e-" ++ toString (-leading).toNat else "e+" ++ toString leading.toNat) := by
    split
    · exact isNumberText_append.mpr ⟨by decide, isNumberText_natural _⟩
    · exact isNumberText_append.mpr ⟨by decide, isNumberText_natural _⟩
  have single {digit : Char} (isDigit : digit.isDigit = true) : IsNumberText digit.toString := by
    rw [Char.toString, String.singleton_eq_ofList]
    exact isNumberText_ofList (List.forall_mem_singleton.mpr isDigit)
  rcases digits with _ | ⟨first, _ | ⟨second, rest⟩⟩
  · exact (by decide : IsNumberText "0")
  · exact isNumberText_append.mpr ⟨single (each _ List.mem_cons_self), exponent⟩
  · rw [List.forall_mem_cons] at each
    have start := isNumberText_append.mpr ⟨single each.1, (by decide : IsNumberText ".")⟩
    exact isNumberText_append.mpr ⟨isNumberText_append.mpr ⟨start, isNumberText_ofList each.2⟩, exponent⟩

theorem isNumberText_magnitude (magnitude : Decimal.Binary64) : IsNumberText (magnitudeText magnitude) := by
  unfold magnitudeText
  split
  · decide
  · dsimp only
    split
    · exact isNumberText_positional (isDigit_toDigits _) _
    · exact isNumberText_exponential (isDigit_toDigits _) _

theorem isNumberText_text (number : Number) : IsNumberText number.text := by
  cases number with
  | natural value => exact isNumberText_natural value
  | negative magnitude => exact isNumberText_append.mpr ⟨by decide, isNumberText_natural magnitude⟩
  | real below magnitude =>
    refine isNumberText_append.mpr ⟨?_, isNumberText_magnitude magnitude⟩
    cases below <;> decide

theorem notMem_number {c : Char} (other : ¬ IsNumberChar c) (number : Number) : c ∉ number.text.toList :=
  fun member => other (isNumberText_text number c member)

theorem hexDigit_ne_backslash {n : Nat} (small : n < 16) : '\\' ≠ hexDigit n := by
  revert n
  decide

/-- Escaping keeps a character or puts a backslash before another one, which is a quote only if it was one. -/
theorem escape_cases {c : Char} (other : c ≠ '"') : (escape c = [c] ∧ c ≠ '\\') ∨
    ∃ second rest, escape c = '\\' :: second :: rest ∧ second ≠ '"' ∧ '\\' ∉ rest := by
  by_cases isBackslash : c = '\\'
  · exact .inr ⟨'\\', [], by simp [escape, isBackslash], by decide, List.not_mem_nil⟩
  · unfold escape
    rw [if_neg other, if_neg isBackslash]
    split_ifs with backspace formFeed newline carriageReturn tab control
    · exact .inr ⟨'b', [], rfl, by decide, List.not_mem_nil⟩
    · exact .inr ⟨'f', [], rfl, by decide, List.not_mem_nil⟩
    · exact .inr ⟨'n', [], rfl, by decide, List.not_mem_nil⟩
    · exact .inr ⟨'r', [], rfl, by decide, List.not_mem_nil⟩
    · exact .inr ⟨'t', [], rfl, by decide, List.not_mem_nil⟩
    · have high := hexDigit_ne_backslash (show c.toNat / 16 < 16 by omega)
      have low := hexDigit_ne_backslash (show c.toNat % 16 < 16 by omega)
      exact .inr ⟨'u', _, rfl, by decide, by simp [high, low]⟩
    · exact .inl ⟨rfl, isBackslash⟩

theorem pairsBackslashes_escape {c : Char} (other : c ≠ '"') (rest : List Char) :
    PairsBackslashes (escape c ++ rest) ↔ PairsBackslashes rest := by
  rcases escape_cases other with ⟨kept, noBackslash⟩ | ⟨second, tail, escaped, noQuote, free⟩
  · rw [kept, List.singleton_append, Text.pairsBackslashes_cons_of_ne noBackslash]
  · rw [escaped, List.cons_append, List.cons_append, Text.pairsBackslashes_pair_iff, and_iff_right noQuote,
      Text.pairsBackslashes_append_of_notMem free]

theorem pairsBackslashes_quoted (text : String) (rest : List Char) :
    PairsBackslashes ((quoted text).toList ++ rest) ↔ '"' ∉ text.toList ∧ PairsBackslashes rest := by
  have inside (characters : List Char) :
      PairsBackslashes (characters.flatMap escape ++ '"' :: rest) ↔ '"' ∉ characters ∧ PairsBackslashes rest := by
    induction characters with
    | nil => simp [Text.pairsBackslashes_cons_of_ne]
    | cons c others ih =>
      rw [List.flatMap_cons, List.append_assoc]
      by_cases isQuote : c = '"'
      · -- The backslash of the escape comes right before a quote.
        subst isQuote
        have broken := Text.pairsBackslashes_pair_iff '"' (others.flatMap escape ++ '"' :: rest)
        simpa [escape] using broken
      · rw [pairsBackslashes_escape isQuote, ih, List.mem_cons, not_or, and_assoc]
        exact (and_iff_right (Ne.symm isQuote)).symm
  have written : (quoted text).toList ++ rest = '"' :: (text.toList.flatMap escape ++ '"' :: rest) := by
    simp [quoted]
  rw [written, Text.pairsBackslashes_cons_of_ne (by decide), inside]

/-- Whether parts leave the backslashes behind them in pairs is not changed by commas between them. -/
theorem pairsBackslashes_intercalate {Item : Type} {text : Item → String} {IsPaired : Item → Prop}
    {items : List Item} (each : ∀ item ∈ items, ∀ rest,
      PairsBackslashes ((text item).toList ++ rest) ↔ IsPaired item ∧ PairsBackslashes rest) (rest : List Char) :
    PairsBackslashes ((String.intercalate "," (items.map text)).toList ++ rest) ↔
      (∀ item ∈ items, IsPaired item) ∧ PairsBackslashes rest := by
  induction items with
  | nil => simp
  | cons first others ih =>
    rw [List.forall_mem_cons] at each
    cases others with
    | nil => simpa using each.1 rest
    | cons second further =>
      have written : (String.intercalate "," ((first :: second :: further).map text)).toList ++ rest =
          (text first).toList ++
            ',' :: ((String.intercalate "," ((second :: further).map text)).toList ++ rest) := by
        simp only [List.map_cons, String.intercalate_cons_cons, String.toList_append, List.append_assoc]
        rfl
      rw [written, each.1, Text.pairsBackslashes_cons_of_ne (by decide), ih each.2, ← and_assoc]
      exact and_congr_left' List.forall_mem_cons.symm

/-- In the text of a value the backslashes are paired if no string in it has a quote. -/
theorem pairsBackslashes_text (value : Value) (rest : List Char) :
    PairsBackslashes (value.text.toList ++ rest) ↔ IsQuoteless value.strings ∧ PairsBackslashes rest := by
  have free {text : String} (backslashless : '\\' ∉ text.toList) (rest : List Char) :
      PairsBackslashes (text.toList ++ rest) ↔ IsQuoteless [] ∧ PairsBackslashes rest := by
    rw [Text.pairsBackslashes_append_of_notMem backslashless]
    exact (and_iff_right (List.forall_mem_nil _)).symm
  cases value with
  | null => exact free (by decide) rest
  | bool flag => exact free (by cases flag <;> decide) rest
  | number number => exact free (notMem_number (by decide) number) rest
  | string text => simpa [Value.text, Value.strings, IsQuoteless] using pairsBackslashes_quoted text rest
  | array items =>
    have each (item : Value) (member : item ∈ items) := pairsBackslashes_text item
    have written : (Value.array items).text.toList ++ rest =
        '[' :: ((String.intercalate "," (items.map Value.text)).toList ++ ']' :: rest) := by
      simp [Value.text, itemTexts_eq]
    rw [written, Text.pairsBackslashes_cons_of_ne (by decide), pairsBackslashes_intercalate each,
      Text.pairsBackslashes_cons_of_ne (by decide), Value.strings, itemStrings_eq, isQuoteless_flatMap]
  | object members =>
    have each (member : String × Value) (listed : member ∈ members) (rest : List Char) :
        PairsBackslashes ((memberText member).toList ++ rest) ↔
          IsQuoteless (member.1 :: member.2.strings) ∧ PairsBackslashes rest := by
      have written : (memberText member).toList ++ rest =
          (quoted member.1).toList ++ ':' :: (member.2.text.toList ++ rest) := by
        simp [memberText]
      rw [written, pairsBackslashes_quoted, Text.pairsBackslashes_cons_of_ne (by decide),
        pairsBackslashes_text member.2, isQuoteless_cons, and_assoc]
    have written : (Value.object members).text.toList ++ rest =
        '\x7b' :: ((String.intercalate "," (members.map memberText)).toList ++ '\x7d' :: rest) := by
      simp [Value.text, memberTexts_eq]
    rw [written, Text.pairsBackslashes_cons_of_ne (by decide), pairsBackslashes_intercalate each,
      Text.pairsBackslashes_cons_of_ne (by decide), Value.strings, memberStrings_eq, isQuoteless_flatMap]
termination_by sizeOf value
decreasing_by
  · have smaller := List.sizeOf_lt_of_mem member
    simp only [Value.array.sizeOf_spec]
    omega
  · have smaller := List.sizeOf_lt_of_mem listed
    have inside : sizeOf member.2 < sizeOf member := by
      cases member
      simp only [Prod.mk.sizeOf_spec]
      omega
    simp only [Value.object.sizeOf_spec]
    omega

/-- Values that one literal of DOT stands for. -/
def Value.StaysQuoted : Value → Prop
  | .number _ | .bool _ => False
  | .string text => PairsBackslashes text.toList
  | other => IsQuoteless other.strings

end Json

namespace Diagram.Dot

open Style (quoteDot dotValue)

theorem not_closesBefore_of_notMem {text : String} (quoteless : '"' ∉ text.toList) (behind : List Char) :
    ¬ ClosesBefore text behind := by
  intro closed
  obtain ⟨inner, written, -⟩ := closed
  rw [written] at quoteless
  exact quoteless List.mem_cons_self

theorem closesBefore_quoteDot_text_iff (value : Json.Value) (behind : List Char) :
    ClosesBefore (quoteDot value.text) behind ↔ Json.IsQuoteless value.strings := by
  have paired := Json.pairsBackslashes_text value []
  rw [List.append_nil] at paired
  rw [closesBefore_quoteDot_iff, paired]
  exact and_iff_left Text.pairsBackslashes_nil

theorem closesBefore_dotValue_iff (value : Json.Value) (behind : List Char) :
    ClosesBefore (dotValue value) behind ↔ value.StaysQuoted := by
  cases value with
  | number number => exact iff_false_intro (not_closesBefore_of_notMem (Json.notMem_number (by decide) number) behind)
  | bool flag => exact iff_false_intro (not_closesBefore_of_notMem (by cases flag <;> decide) behind)
  | string text => exact closesBefore_quoteDot_iff text behind
  | null => exact closesBefore_quoteDot_text_iff .null behind
  | array items => exact closesBefore_quoteDot_text_iff (.array items) behind
  | object members => exact closesBefore_quoteDot_text_iff (.object members) behind

/-- A literal ends at its own ending quote, whatever follows it, exactly if the backslashes of a quoted text are
paired wherever a quote or the end follows, and the strings in quoted JSON text have no quotes. -/
theorem literals_close_iff (behind : List Char) :
    (∀ text, ClosesBefore (quoteDot text) behind ↔ PairsBackslashes text.toList) ∧
    ∀ value, ClosesBefore (dotValue value) behind ↔ value.StaysQuoted :=
  ⟨fun text => closesBefore_quoteDot_iff text behind, fun value => closesBefore_dotValue_iff value behind⟩

end Diagram.Dot

def Manifest.unclosed : String := "[modules]\n':a\\' = []\n"

/-- A backslash at the end of a path takes the ending quote with it. -/
theorem Resolver.generate_unclosed :
    Manifest.parse Manifest.unclosed "modules.toml" = .ok (.ofPairs [(":a\\", [])]) ∧
    ModulePath.isValid ":a\\" = true ∧
    ∃ diagram, ((Resolver.new (.ofPairs [(":a\\", [])])).generate ":a\\" .dot none).result = .ok diagram ∧
      diagram.content = "digraph \x7b\n\n\t" ++ Style.quoteDot ":a\\" ++ "\n\n\x7d" ∧
      Style.quoteDot ":a\\" = "\":a\\\"" ∧
      Diagram.Dot.afterLiteral? (":a\\\"\n\n\x7d").toList = none ∧
      ¬ Diagram.Dot.ClosesBefore (Style.quoteDot ":a\\") "\n\n\x7d".toList := by
  have unended : Diagram.Dot.afterLiteral? (":a\\\"\n\n\x7d").toList = none := by decide +kernel
  have written : Style.quoteDot ":a\\" = "\":a\\\"" := by decide +kernel
  refine ⟨by decide +kernel, by decide +kernel, _, rfl, by decide +kernel, written, unended, ?_⟩
  intro closed
  obtain ⟨inner, literal, read⟩ := closed
  rw [written] at literal
  obtain ⟨-, rfl⟩ := List.cons.inj literal
  exact absurd read (by decide +kernel)

end DependencyDiagram
