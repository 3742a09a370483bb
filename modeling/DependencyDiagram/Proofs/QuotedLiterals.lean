import DependencyDiagram.Style.Sheet
import Mathlib.Algebra.Group.Nat.Even

/-!
Quoted texts in DOT. A reader takes a backslash and the character behind it as a pair, and the first quote in
no pair ends the text. Quoting puts a backslash before each quote but leaves the backslashes that are there,
so a text is read as one literal exactly if these stand in pairs wherever a quote or the end follows them.
-/

namespace DependencyDiagram

namespace Diagram.Dot

/-- What is left of a text behind the literal whose opening quote stands before it. -/
def afterLiteral? : List Char → Option (List Char)
  | [] => none
  | ['\\'] => none
  | '\\' :: _ :: rest => afterLiteral? rest
  | '"' :: rest => some rest
  | _ :: rest => afterLiteral? rest

theorem afterLiteral?_of_ne {c : Char} {rest : List Char} (noBackslash : c ≠ '\\') (noQuote : c ≠ '"') :
    afterLiteral? (c :: rest) = afterLiteral? rest := by
  rw [afterLiteral?] <;> simp [noBackslash, noQuote]

/-- The ending quote is no part of what is left. -/
theorem length_afterLiteral? {text rest : List Char} (closed : afterLiteral? text = some rest) :
    rest.length < text.length := by
  fun_induction afterLiteral? text with
  | case1 => cases closed
  | case2 => cases closed
  | case3 c others ih =>
    have shorter := ih closed
    simp only [List.length_cons]
    omega
  | case4 others =>
    cases closed
    simp
  | case5 c others _ _ _ ih =>
    have shorter := ih closed
    simp only [List.length_cons]
    omega

/-- A literal that is read up to its own last character, and not beyond it, when something follows. -/
def ClosesBefore (literal : String) (behind : List Char) : Prop :=
  ∃ inner, literal.toList = '"' :: inner ∧ afterLiteral? (inner ++ behind) = some behind

end Diagram.Dot

namespace Text

/-- The number of backslashes at the end of a text. -/
def trailingBackslashes (text : List Char) : Nat := (text.reverse.takeWhile (· == '\\')).length

/-- Wherever a quote or the end follows, the backslashes before it are paired. -/
def PairsBackslashes (text : List Char) : Prop :=
  ∀ before behind, text = before ++ behind → (behind.head? = none ∨ behind.head? = some '"') →
    Even (trailingBackslashes before)

theorem trailingBackslashes_le (text : List Char) : trailingBackslashes text ≤ text.length := by
  have shorter := (List.takeWhile_sublist (· == '\\') (l := text.reverse)).length_le
  rwa [List.length_reverse] at shorter

/-- A character in front counts if it is a backslash and all others are. -/
theorem trailingBackslashes_cons (c : Char) (text : List Char) : trailingBackslashes (c :: text) =
    if trailingBackslashes text = text.length ∧ c = '\\' then trailingBackslashes text + 1
    else trailingBackslashes text := by
  rw [trailingBackslashes, List.reverse_cons, List.takeWhile_append, List.length_reverse, ← trailingBackslashes]
  by_cases all : trailingBackslashes text = text.length
  · by_cases isBackslash : c = '\\'
    · simp [all, isBackslash]
    · simp [all, isBackslash]
  · simp only [all, if_false, false_and]
    rfl

theorem trailingBackslashes_cons_of_ne {c : Char} (other : c ≠ '\\') (text : List Char) :
    trailingBackslashes (c :: text) = trailingBackslashes text := by
  rw [trailingBackslashes_cons, if_neg fun both => other both.2]

theorem even_trailingBackslashes_pair (c : Char) (text : List Char) :
    Even (trailingBackslashes ('\\' :: c :: text)) ↔ Even (trailingBackslashes text) := by
  have inner := trailingBackslashes_le text
  rw [trailingBackslashes_cons, trailingBackslashes_cons, List.length_cons]
  by_cases both : trailingBackslashes text = text.length ∧ c = '\\'
  · simp [both, Nat.even_add_one]
  · rw [if_neg both, if_neg (by omega)]

theorem pairsBackslashes_nil : PairsBackslashes [] := by
  intro before behind split _
  rw [(List.append_eq_nil_iff.mp split.symm).1]
  exact Even.zero

theorem pairsBackslashes_cons_of_ne {c : Char} (other : c ≠ '\\') (text : List Char) :
    PairsBackslashes (c :: text) ↔ PairsBackslashes text := by
  constructor
  · intro pairs before behind split ending
    rw [← trailingBackslashes_cons_of_ne other before]
    exact pairs (c :: before) behind (by rw [split, List.cons_append]) ending
  · intro pairs before behind split ending
    cases before with
    | nil => exact Even.zero
    | cons first front =>
      obtain ⟨rfl, tail⟩ := List.cons.inj split
      rw [trailingBackslashes_cons_of_ne other]
      exact pairs front behind tail ending

theorem pairsBackslashes_pair_iff (c : Char) (text : List Char) :
    PairsBackslashes ('\\' :: c :: text) ↔ c ≠ '"' ∧ PairsBackslashes text := by
  constructor
  · intro pairs
    constructor
    · rintro rfl
      have odd := pairs ['\\'] ('"' :: text) rfl (.inr rfl)
      exact absurd odd (by decide)
    · intro before behind split ending
      rw [← even_trailingBackslashes_pair c before]
      exact pairs ('\\' :: c :: before) behind (by rw [split]; rfl) ending
  · intro paired before behind split ending
    obtain ⟨quoteless, pairs⟩ := paired
    rcases before with _ | ⟨first, _ | ⟨second, front⟩⟩
    · exact Even.zero
    · -- What follows the first backslash is neither a quote nor the end.
      obtain ⟨-, rfl⟩ := List.cons.inj split
      simp [quoteless] at ending
    · obtain ⟨firstSame, tail⟩ := List.cons.inj split
      obtain ⟨rfl, further⟩ := List.cons.inj tail
      rw [← firstSame, even_trailingBackslashes_pair]
      exact pairs front behind further ending

theorem not_pairsBackslashes_single : ¬ PairsBackslashes ['\\'] := by
  intro pairs
  have odd := pairs ['\\'] [] rfl (.inl rfl)
  exact absurd odd (by decide)

theorem pairsBackslashes_append_of_notMem {front : List Char} (free : '\\' ∉ front) (rest : List Char) :
    PairsBackslashes (front ++ rest) ↔ PairsBackslashes rest := by
  induction front with
  | nil => rfl
  | cons c others ih =>
    rw [List.mem_cons, not_or] at free
    rw [List.cons_append, pairsBackslashes_cons_of_ne (Ne.symm free.1), ih free.2]

end Text

open Text (PairsBackslashes)

namespace Diagram.Dot

open Style (quoteDot)

def escapeQuote (c : Char) : List Char := if c = '"' then ['\\', '"'] else [c]

theorem escapeQuote_of_ne {c : Char} (other : c ≠ '"') : escapeQuote c = [c] := if_neg other

theorem toList_quoteDot_flatMap (text : String) :
    (quoteDot text).toList = '"' :: (text.toList.flatMap escapeQuote ++ ['"']) := by
  rw [quoteDot, String.toList_ofList, List.cons_append]
  rfl

theorem afterLiteral?_ne_self (text : List Char) : afterLiteral? text ≠ some text := fun closed =>
  Nat.lt_irrefl _ (length_afterLiteral? closed)

/-- A quoted text is read up to its ending quote exactly if its own backslashes are paired. -/
theorem afterLiteral?_escaped (behind : List Char) : (text : List Char) →
    (afterLiteral? (text.flatMap escapeQuote ++ '"' :: behind) = some behind ↔ PairsBackslashes text)
  | [] => by simp [afterLiteral?, Text.pairsBackslashes_nil]
  | c :: rest => by
    rw [List.flatMap_cons, List.append_assoc]
    by_cases isBackslash : c = '\\'
    · subst isBackslash
      cases rest with
      | nil =>
        -- The backslash takes the ending quote with it.
        simp [escapeQuote, afterLiteral?, afterLiteral?_ne_self, Text.not_pairsBackslashes_single]
      | cons next others =>
        rw [Text.pairsBackslashes_pair_iff]
        by_cases isQuote : next = '"'
        · -- The backslash takes the one added before the quote with it.
          subst isQuote
          have early : others.flatMap escapeQuote ++ '"' :: behind ≠ behind := fun same => by
            have lengths := congrArg List.length same
            simp only [List.length_append, List.length_cons] at lengths
            omega
          simp [escapeQuote, afterLiteral?, early]
        · have later := afterLiteral?_escaped behind others
          simpa [escapeQuote, isQuote, afterLiteral?] using later
    · have later := afterLiteral?_escaped behind rest
      rw [Text.pairsBackslashes_cons_of_ne isBackslash]
      by_cases isQuote : c = '"'
      · simpa [escapeQuote, isQuote, afterLiteral?] using later
      · simpa [escapeQuote, isQuote, afterLiteral?_of_ne isBackslash isQuote] using later

theorem closesBefore_quoteDot_iff (text : String) (behind : List Char) :
    ClosesBefore (quoteDot text) behind ↔ PairsBackslashes text.toList := by
  rw [← afterLiteral?_escaped behind]
  constructor
  · intro closed
    obtain ⟨inner, written, read⟩ := closed
    rw [toList_quoteDot_flatMap] at written
    obtain ⟨-, rfl⟩ := List.cons.inj written
    simpa using read
  · intro read
    exact ⟨_, toList_quoteDot_flatMap text, by simpa using read⟩

end Diagram.Dot

end DependencyDiagram
