import DependencyDiagram.Text.Position
import Mathlib.Data.List.Basic

/-!
The order of texts. Texts are compared character by character. Comparing their bytes comes to the same, since a
greater character has a greater encoding and neither of the two encodings begins with the other.
-/

namespace DependencyDiagram.Text

theorem bytes_eq (text : String) : bytes text = text.toList.flatMap String.utf8EncodeChar := by
  rw [bytes, String.toUTF8_eq_toByteArray, ← String.utf8Encode_toList, List.utf8Encode]
  simp

theorem ofNat_lt_ofNat {a b : Nat} (aByte : a < 256) (bByte : b < 256) : UInt8.ofNat a < UInt8.ofNat b ↔ a < b := by
  rw [UInt8.lt_iff_toNat_lt, UInt8.toNat_ofNat_of_lt' aByte, UInt8.toNat_ofNat_of_lt' bByte]

theorem ofNat_eq_ofNat {a b : Nat} (aByte : a < 256) (bByte : b < 256) : UInt8.ofNat a = UInt8.ofNat b ↔ a = b := by
  rw [← UInt8.toNat_inj, UInt8.toNat_ofNat_of_lt' aByte, UInt8.toNat_ofNat_of_lt' bByte]

/-- What follows the encodings of two characters does not matter for their order. -/
theorem encodeChar_append_lt {c d : Char} (smaller : c < d) (rest others : List UInt8) :
    String.utf8EncodeChar c ++ rest < String.utf8EncodeChar d ++ others := by
  have below : c.val.toNat < d.val.toNat := smaller
  have bound : d.val.toNat < 0x110000 := by
    rcases d.valid with low | high <;> omega
  unfold String.utf8EncodeChar
  generalize c.val.toNat = first at below ⊢
  generalize d.val.toNat = second at below bound ⊢
  -- The first of four bytes has room for all that stands above the other three.
  have firstLead : first / 262144 % 8 = first / 262144 := by omega
  have secondLead : second / 262144 % 8 = second / 262144 := by omega
  dsimp only
  -- One case for each two lengths; a longer encoding also starts with a greater byte.
  split_ifs <;>
    simp (disch := omega) only [List.cons_append, List.nil_append, List.cons_lt_cons_iff, ofNat_lt_ofNat,
      ofNat_eq_ofNat, firstLead, secondLead] <;> omega

theorem flatMap_encodeChar_lt {chars others : List Char} (smaller : chars < others) :
    chars.flatMap String.utf8EncodeChar < others.flatMap String.utf8EncodeChar := by
  induction chars generalizing others with
  | nil =>
    cases others with
    | nil => exact absurd smaller (List.not_lt_nil _)
    | cons d others =>
      obtain ⟨lead, trail, encoded⟩ := List.exists_cons_of_ne_nil (String.utf8EncodeChar_ne_nil (c := d))
      rw [List.flatMap_cons, encoded]
      exact List.nil_lt_cons _ _
  | cons c chars ih =>
    cases others with
    | nil => exact absurd smaller (List.not_lt_nil _)
    | cons d others =>
      rw [List.flatMap_cons, List.flatMap_cons]
      rcases List.cons_lt_cons_iff.mp smaller with here | ⟨rfl, later⟩
      · exact encodeChar_append_lt here _ _
      · exact List.append_left_lt (ih later)

/-- The order of texts is the order of their bytes. -/
theorem bytes_lt_bytes_iff {text other : String} : bytes text < bytes other ↔ text < other := by
  have forth {text other : String} (smaller : text < other) : bytes text < bytes other := by
    rw [bytes_eq, bytes_eq]
    exact flatMap_encodeChar_lt smaller
  refine ⟨fun smaller => ?_, forth⟩
  by_contra notSmaller
  rcases eq_or_ne text other with rfl | different
  · exact List.lt_irrefl _ smaller
  · have greater : other < text := Std.lt_of_le_of_ne (String.not_lt.mp notSmaller) different.symm
    exact List.lt_asymm smaller (forth greater)

end DependencyDiagram.Text
