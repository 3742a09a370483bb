import DependencyDiagram.Style.Document
import Mathlib.Data.List.Basic

/-!
Lines of a text and the offsets at which they start. The lines before a start take up exactly the bytes before
it, so a line and a column lead back to the offset they were counted at, and a line that exists to a place that
is not before its start. This holds as long as a machine word can hold the sum, and so for every column that
can be counted in a text.
-/

namespace DependencyDiagram.Text

variable {text before rest : List UInt8} {offset start : Nat}

/-- No line is left open at the end. -/
def Closed (text : List UInt8) : Prop := ∀ byte ∈ text.getLast?, byte = newline

/-- Where the line of an offset starts: behind the last newline before it, or else with the text. -/
structure LineStart (text : List UInt8) (offset start : Nat) : Prop where
  le : start ≤ offset
  opens : start = 0 ∨ text[start - 1]? = some newline
  unbroken : ∀ position, start ≤ position → position < offset → text[position]? ≠ some newline

/-- Where a line starts: behind all lines before it, as far as there are any. -/
def startOf (text : List UInt8) (line : Nat) : Nat := ((lines text).take (line - 1)).flatten.length

theorem flatten_lines (text : List UInt8) : (lines text).flatten = text := by
  induction text with
  | nil => rfl
  | cons byte rest ih =>
    rw [lines]
    split
    · rw [List.flatten_cons, ih, List.singleton_append]
    · split
      · next none =>
        rw [none] at ih
        rw [← ih]
        rfl
      · next line others more =>
        rw [more] at ih
        rw [← ih]
        rfl

theorem Closed.tail {byte : UInt8} (closed : Closed (byte :: rest)) : Closed rest := by
  intro last final
  cases rest with
  | nil => cases final
  | cons next rest => exact closed last (by rwa [List.getLast?_cons_cons])

/-- A byte that ends no line has one to stand on. -/
theorem exists_lines_eq_cons {byte : UInt8} (closed : Closed (byte :: rest)) (inside : byte ≠ newline) :
    ∃ line others, lines rest = line :: others := by
  refine List.exists_cons_of_ne_nil fun none => inside ?_
  have empty : rest = [] := by rw [← flatten_lines rest, none, List.flatten_nil]
  subst empty
  exact closed byte rfl

theorem lines_append (closed : Closed before) (rest : List UInt8) :
    lines (before ++ rest) = lines before ++ lines rest := by
  induction before with
  | nil => rfl
  | cons byte before ih =>
    have later := ih closed.tail
    rw [List.cons_append, lines, lines]
    split
    · rw [later, List.cons_append]
    · next inside =>
      -- The byte goes to the first line behind it, which is one of `before` and not of the rest.
      obtain ⟨line, others, more⟩ := exists_lines_eq_cons closed inside
      rw [later, more]
      rfl

theorem length_lines (closed : Closed text) : (lines text).length = text.count newline := by
  induction text with
  | nil => rfl
  | cons byte rest ih =>
    have later := ih closed.tail
    rw [lines]
    split
    · next final => rw [List.length_cons, later, final, List.count_cons_self]
    · next inside =>
      obtain ⟨line, others, more⟩ := exists_lines_eq_cons closed inside
      rw [more, List.length_cons] at later
      rw [more, List.count_cons_of_ne inside, ← later]
      rfl

namespace LineStart

/-- What opens a line is the start of that line. -/
theorem of_opens (opens : start = 0 ∨ text[start - 1]? = some newline) : LineStart text start start :=
  ⟨Nat.le_refl start, opens, fun _ behind ahead => absurd behind (Nat.not_le.mpr ahead)⟩

theorem closed_take (starts : LineStart text offset start) : Closed (text.take start) := by
  intro byte final
  rw [List.getLast?_take] at final
  rcases starts.opens with first | behind
  · rw [if_pos first] at final
    cases final
  · split at final
    · cases final
    · rw [behind, Option.some_or] at final
      exact (Option.mem_some_iff.mp final).symm

theorem notMem_between (starts : LineStart text offset start) :
    newline ∉ (text.take offset).drop start := by
  intro among
  obtain ⟨index, found⟩ := List.mem_iff_getElem?.mp among
  rw [List.getElem?_drop, List.getElem?_take] at found
  split at found
  · next ahead => exact starts.unbroken _ (Nat.le_add_right start index) ahead found
  · cases found

theorem take_eq (starts : LineStart text offset start) :
    text.take offset = text.take start ++ (text.take offset).drop start := by
  conv_lhs => rw [← List.take_append_drop start (text.take offset)]
  rw [List.take_take, Nat.min_eq_left starts.le]

theorem lineAfter_eq (starts : LineStart text offset start) : lineAfter text offset = lineAfter text start := by
  rw [lineAfter, lineAfter, starts.take_eq, List.count_append,
    List.count_eq_zero_of_not_mem starts.notMem_between, Nat.add_zero]

theorem columnAfter_eq (starts : LineStart text offset start) (within : offset ≤ text.length) :
    columnAfter text offset = offset - start := by
  have plain : ∀ byte ∈ ((text.take offset).drop start).reverse, (byte != newline) = true := by
    intro byte among
    refine bne_iff_ne.mpr fun same => starts.notMem_between ?_
    rw [← same]
    exact List.mem_reverse.mp among
  have stops : (text.take start).reverse.takeWhile (· != newline) = [] := by
    cases reversed : (text.take start).reverse with
    | nil => rfl
    | cons byte others =>
      have final : byte ∈ (text.take start).getLast? := by
        rw [← List.head?_reverse, reversed]
        rfl
      rw [starts.closed_take byte final]
      rfl
  rw [columnAfter, starts.take_eq, List.reverse_append, List.takeWhile_append_of_pos plain, stops, List.append_nil,
    List.length_reverse, List.length_drop, List.length_take, Nat.min_eq_left within]

/-- The lines that end before the start are the lines of what is before it. -/
theorem take_lines (starts : LineStart text offset start) :
    (lines text).take (lineAfter text start - 1) = lines (text.take start) := by
  rw [lineAfter, Nat.add_sub_cancel_left, ← length_lines starts.closed_take]
  have divided : lines text = lines (text.take start) ++ lines (text.drop start) := by
    rw [← lines_append starts.closed_take, List.take_append_drop]
  rw [divided]
  exact List.take_left' rfl

/-- The lines before a start take up what is before it. -/
theorem startOf_eq (starts : LineStart text offset start) (within : start ≤ text.length) :
    startOf text (lineAfter text start) = start := by
  calc ((lines text).take (lineAfter text start - 1)).flatten.length
    _ = (lines (text.take start)).flatten.length := by rw [starts.take_lines]
    _ = (text.take start).length := by rw [flatten_lines]
    _ = start := List.length_take_of_le within

end LineStart

theorem exists_lineStart (text : List UInt8) (offset : Nat) : ∃ start, LineStart text offset start := by
  induction offset with
  | zero => exact ⟨0, .of_opens (.inl rfl)⟩
  | succ offset ih =>
    obtain ⟨start, starts⟩ := ih
    by_cases breaks : text[offset]? = some newline
    · exact ⟨offset + 1, .of_opens (.inr breaks)⟩
    · refine ⟨start, Nat.le_succ_of_le starts.le, starts.opens, fun position behind ahead => ?_⟩
      rcases Nat.lt_succ_iff_lt_or_eq.mp ahead with earlier | rfl
      · exact starts.unbroken position behind earlier
      · exact breaks

theorem startOf_le (text : List UInt8) (line : Nat) : startOf text line ≤ text.length := by
  have divided : text.length = startOf text line + ((lines text).drop (line - 1)).flatten.length := by
    conv_lhs => rw [← flatten_lines text, ← List.take_append_drop (line - 1) (lines text), List.flatten_append,
      List.length_append]
    rfl
  omega

theorem size_eq : UInt64.size = 18446744073709551616 := rfl

theorem toNat_ofNat {number : Nat} (fits : number < UInt64.size) : (UInt64.ofNat number).toNat = number :=
  UInt64.toNat_ofNat_of_lt' fits

namespace Build

variable {build : Build} {first second : Nat}

theorem add_ofNat (fits : first + second < UInt64.size) :
    build.add (.ofNat first) (.ofNat second) = .ok (.ofNat (first + second)) := by
  rw [UInt64.ofNat_add]
  cases build with
  | wrapping => rfl
  | checked =>
    refine if_pos ?_
    rwa [toNat_ofNat (by omega), toNat_ofNat (by omega)]

/-- As long as they fit, the lengths of some lines add up to that of all of them. -/
theorem foldlM_add (build : Build) (lines : List (List UInt8)) {sum : Nat}
    (fits : sum + lines.flatten.length < UInt64.size) :
    (lines.map (.ofNat ·.length)).foldlM build.add (.ofNat sum) = .ok (.ofNat (sum + lines.flatten.length)) := by
  induction lines generalizing sum with
  | nil => rfl
  | cons line rest ih =>
    rw [List.flatten_cons, List.length_append, ← Nat.add_assoc] at fits ⊢
    rw [List.map_cons, List.foldlM_cons, add_ofNat (by omega)]
    exact ih fits

end Build

section Lookup

variable {line column : UInt64} (inMemory : 2 * text.length < UInt64.size) (counted : line ≠ 0)

include inMemory counted

/-- A line starts somewhere in the text, so only the column can make the sum too large. -/
theorem offsetOf?_eq (build : Build) : offsetOf? build text line column =
    (build.add (.ofNat (startOf text line.toNat)) (.ofNat (column.toNat - 1))).map fun offset =>
      some (min offset (.ofNat text.length)) := by
  have le := startOf_le text line.toNat
  have summed : build.sum (((lines text).take (line.toNat - 1)).map (.ofNat ·.length)) =
      .ok (.ofNat (startOf text line.toNat)) := by
    have fits : 0 + startOf text line.toNat < UInt64.size := by omega
    have added := build.foldlM_add ((lines text).take (line.toNat - 1)) fits
    rwa [← startOf, Nat.zero_add] at added
  rw [offsetOf?, if_neg counted, summed]
  simp only [bind, Except.bind]
  cases build.add (.ofNat (startOf text line.toNat)) (.ofNat (column.toNat - 1)) <;> rfl

theorem offsetOf?_of_fits (build : Build) (fits : startOf text line.toNat + (column.toNat - 1) < UInt64.size) :
    offsetOf? build text line column =
      .ok (some (.ofNat (min (startOf text line.toNat + (column.toNat - 1)) text.length))) := by
  rw [offsetOf?_eq inMemory counted, Build.add_ofNat fits]
  refine congrArg (fun offset => Except.ok (some offset)) (UInt64.toNat_inj.mp ?_)
  rw [UInt64.toNat_min, toNat_ofNat fits, toNat_ofNat (by omega), toNat_ofNat (by omega)]

end Lookup

theorem lineAfter_le (text : List UInt8) (count : Nat) : lineAfter text count ≤ 1 + count := by
  have counted := List.count_le_length (a := newline) (l := text.take count)
  rw [List.length_take] at counted
  rw [lineAfter]
  omega

/-- A column that is not too large is counted from where its line starts, up to the end of the text. -/
theorem LineStart.offsetOf?_eq (starts : LineStart text offset start) (inMemory : 2 * text.length < UInt64.size)
    (within : start ≤ text.length) (build : Build) {column : Nat} (small : 2 * column ≤ UInt64.size) :
    offsetOf? build text (.ofNat (lineAfter text start)) (.ofNat column) =
      .ok (some (.ofNat (min (start + (column - 1)) text.length))) := by
  have lineSmall := lineAfter_le text start
  have size := size_eq
  have line : (UInt64.ofNat (lineAfter text start)).toNat = lineAfter text start := toNat_ofNat (by omega)
  have counted : UInt64.ofNat (lineAfter text start) ≠ 0 := by
    intro none
    rw [none, lineAfter, UInt64.toNat_zero] at line
    omega
  rw [offsetOf?_of_fits inMemory counted, line, starts.startOf_eq within, toNat_ofNat (by omega)]
  rw [line, starts.startOf_eq within, toNat_ofNat (by omega)]
  omega

end DependencyDiagram.Text

namespace DependencyDiagram.Style.Document

open Text (bytes newline exists_lineStart)

/-- Diagnostics point at the last byte that was read, or behind it where it ends a line. -/
theorem faultOffset_eq (text : String) (count : Nat) (inMemory : 2 * (bytes text).length < UInt64.size)
    (within : count ≤ (bytes text).length) : faultOffset text count =
      if count = 0 ∨ (bytes text)[count - 1]? = some newline then count else count - 1 := by
  obtain ⟨start, starts⟩ := exists_lineStart (bytes text) count
  have opens : (count = 0 ∨ (bytes text)[count - 1]? = some newline) ↔ start = count := by
    constructor
    · intro ended
      by_contra different
      have before : start < count := Nat.lt_of_le_of_ne starts.le different
      rcases ended with none | breaks
      · omega
      · exact starts.unbroken (count - 1) (by omega) (by omega) breaks
    · rintro rfl
      exact starts.opens
  have le := starts.le
  rw [faultOffset, starts.lineAfter_eq, starts.columnAfter_eq within,
    starts.offsetOf?_eq inMemory (by omega) .wrapping (by omega)]
  simp only [opens]
  rw [Text.toNat_ofNat (by omega)]
  split <;> omega

end DependencyDiagram.Style.Document
