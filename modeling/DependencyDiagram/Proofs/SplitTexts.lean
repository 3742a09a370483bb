import Mathlib.Data.List.Basic
import Mathlib.Logic.Basic

/-!
Texts split at a character. A text without the character is one part, and whatever stands before its first
occurrence is the first part.
-/

namespace DependencyDiagram.Text

variable {c : Char} {text part : List Char}

theorem head?_ne_of_notMem (absent : c ∉ text) : text.head? ≠ some c := fun starts =>
  absent (List.mem_of_mem_head? starts)

theorem splitOn_of_notMem (absent : c ∉ text) : text.splitOn c = [text] :=
  List.splitOnP_eq_singleton fun _ member => beq_false_of_ne fun same => absent (same ▸ member)

theorem splitOn_append_cons (absent : c ∉ part) (rest : List Char) :
    (part ++ c :: rest).splitOn c = part :: rest.splitOn c := by
  have parts : (part ++ c :: rest).splitOn c = part.splitOn c ++ rest.splitOn c :=
    List.splitOnP_append_cons _ _ (beq_self_eq_true c)
  rw [parts, splitOn_of_notMem absent, List.singleton_append]

theorem splitOn_cons_self (c : Char) (rest : List Char) : (c :: rest).splitOn c = [] :: rest.splitOn c :=
  splitOn_append_cons List.not_mem_nil rest

theorem splitOn_cons_of_ne {d : Char} (different : d ≠ c) (rest : List Char) :
    (d :: rest).splitOn c = (rest.splitOn c).modifyHead (List.cons d) := by
  rw [List.splitOn, List.splitOnP_cons_eq_if_modifyHead, if_neg (by simpa using different), List.splitOn]

/-- A part without the character only makes the first part longer. -/
theorem splitOn_append_first (absent : c ∉ part) {first : List Char} {others : List (List Char)}
    (parts : text.splitOn c = first :: others) : (part ++ text).splitOn c = (part ++ first) :: others := by
  induction part with
  | nil => exact parts
  | cons d part ih =>
    rw [List.mem_cons, not_or] at absent
    rw [List.cons_append, splitOn_cons_of_ne (Ne.symm absent.1), ih absent.2, List.modifyHead_cons,
      List.cons_append]

/-- A part without the character only makes the last part longer. -/
theorem splitOn_append_last (absent : c ∉ part) {above : List (List Char)} {last : List Char}
    (parts : text.splitOn c = above ++ [last]) : (text ++ part).splitOn c = above ++ [last ++ part] := by
  induction text generalizing above last with
  | nil =>
    obtain ⟨rfl, rfl⟩ : above = [] ∧ last = [] := by
      cases above with
      | nil => exact ⟨rfl, (List.cons.inj parts).1.symm⟩
      | cons first above => simp at parts
    exact splitOn_of_notMem absent
  | cons d rest ih =>
    by_cases same : d = c
    · subst same
      rw [splitOn_cons_self] at parts
      rw [List.cons_append, splitOn_cons_self]
      cases above with
      | nil => exact absurd (List.cons.inj parts).2 (List.splitOn_ne_nil _ _)
      | cons first above =>
        obtain ⟨rfl, restParts⟩ := List.cons.inj parts
        rw [ih restParts, List.cons_append]
    · obtain ⟨first, others, restParts⟩ := List.exists_cons_of_ne_nil (List.splitOn_ne_nil c rest)
      rw [splitOn_cons_of_ne same, restParts, List.modifyHead_cons] at parts
      rw [List.cons_append, splitOn_cons_of_ne same]
      cases above with
      | nil =>
        obtain ⟨rfl, rfl⟩ := List.cons.inj parts
        have alone : rest.splitOn c = [] ++ [first] := restParts
        rw [ih alone]
        rfl
      | cons head above =>
        obtain ⟨rfl, rfl⟩ := List.cons.inj parts
        have longer : rest.splitOn c = (first :: above) ++ [last] := restParts
        rw [ih longer]
        rfl

/-- What holds of the character holds of all characters exactly if it holds of those in the parts. -/
theorem forall_mem_splitOn {P : Char → Prop} (here : P c) (text : List Char) :
    (∀ part ∈ text.splitOn c, ∀ d ∈ part, P d) ↔ ∀ d ∈ text, P d := by
  induction text with
  | nil => simp
  | cons e rest ih =>
    rw [List.forall_mem_cons, ← ih]
    by_cases same : e = c
    · subst same
      rw [splitOn_cons_self]
      simp [here]
    · obtain ⟨first, others, parts⟩ := List.exists_cons_of_ne_nil (List.splitOn_ne_nil c rest)
      rw [splitOn_cons_of_ne same, parts, List.modifyHead_cons]
      simp [and_assoc]

theorem notMem_of_mem_splitOn (member : part ∈ text.splitOn c) : c ∉ part := by
  induction text generalizing part with
  | nil =>
    rw [splitOn_of_notMem List.not_mem_nil] at member
    rw [List.mem_singleton.mp member]
    exact List.not_mem_nil
  | cons e rest ih =>
    by_cases same : e = c
    · subst same
      rw [splitOn_cons_self] at member
      rcases List.mem_cons.mp member with rfl | later
      · exact List.not_mem_nil
      · exact ih later
    · obtain ⟨first, others, parts⟩ := List.exists_cons_of_ne_nil (List.splitOn_ne_nil c rest)
      rw [splitOn_cons_of_ne same, parts, List.modifyHead_cons] at member
      rw [parts] at ih
      rcases List.mem_cons.mp member with rfl | later
      · exact List.not_mem_cons_of_ne_of_not_mem (Ne.symm same) (ih List.mem_cons_self)
      · exact ih (List.mem_cons_of_mem _ later)

theorem notMem_intercalate {parts : List (List Char)} (absent : c ∉ text) (partsAbsent : ∀ part ∈ parts, c ∉ part) :
    c ∉ text.intercalate parts := by
  induction parts with
  | nil => simp
  | cons first rest ih =>
    rw [List.forall_mem_cons] at partsAbsent
    cases rest with
    | nil => simpa using partsAbsent.1
    | cons second rest =>
      rw [List.intercalate_cons_cons, List.mem_append, List.mem_append]
      rintro ((inFirst | inText) | inRest)
      · exact partsAbsent.1 inFirst
      · exact absent inText
      · exact ih partsAbsent.2 inRest

end DependencyDiagram.Text
