import Highlighter.Proofs.Dictionary
import Mathlib.Data.String.Basic
import Mathlib.Tactic.SplitIfs

/-! The order of texts by their characters is the order by their bytes. -/

namespace Highlighter.Text

def bytes (text : String) : List UInt8 := text.toUTF8.data.toList

theorem bytes_eq_flatMap (text : String) : bytes text = text.toList.flatMap String.utf8EncodeChar := by
  unfold bytes
  rw [String.toUTF8_eq_toByteArray, ← String.utf8Encode_toList, List.utf8Encode.eq_1, List.data_toByteArray]

/-- The encoding of a character comes in front of that of a greater one, whatever follows them. -/
theorem utf8EncodeChar_append_lt {first second : Char} (below : first < second) (left right : List UInt8) :
    String.utf8EncodeChar first ++ left < String.utf8EncodeChar second ++ right := by
  have ordered : first.val.toNat < second.val.toNat := below
  have bounded : second.val.toNat < 0x110000 := by
    have valid := second.valid
    unfold UInt32.isValidChar Nat.isValidChar at valid
    omega
  unfold String.utf8EncodeChar
  generalize first.val.toNat = low at ordered ⊢
  generalize second.val.toNat = high at ordered bounded ⊢
  -- For two codes of four bytes the first digit to base 64 that differs decides.
  have digits : low / 262144 < high / 262144 ∨ low / 262144 = high / 262144 ∧
      (low / 4096 % 64 < high / 4096 % 64 ∨ low / 4096 % 64 = high / 4096 % 64 ∧
        (low / 64 % 64 < high / 64 % 64 ∨ low / 64 % 64 = high / 64 % 64 ∧ low % 64 < high % 64)) := by
    omega
  dsimp only
  split_ifs <;>
    simp (disch := omega) only [List.cons_append, List.nil_append, List.cons_lt_cons_iff, UInt8.lt_iff_toNat_lt,
      ← UInt8.toNat_inj, UInt8.toNat_ofNat', Nat.mod_eq_of_lt] <;>
    omega

theorem utf8EncodeChar_ne_nil (char : Char) : String.utf8EncodeChar char ≠ [] := by
  unfold String.utf8EncodeChar
  dsimp only
  split_ifs <;> exact List.cons_ne_nil _ _

theorem flatMap_utf8EncodeChar_lt {left right : List Char} (below : left < right) :
    left.flatMap String.utf8EncodeChar < right.flatMap String.utf8EncodeChar := by
  induction left generalizing right with
  | nil =>
    cases right with
    | nil => exact absurd below (List.lt_irrefl [])
    | cons char right =>
      obtain ⟨byte, bytes, encoded⟩ := List.exists_cons_of_ne_nil (utf8EncodeChar_ne_nil char)
      rw [List.flatMap_nil, List.flatMap_cons, encoded]
      exact List.nil_lt_cons ..
  | cons char left ih =>
    cases right with
    | nil => exact absurd below (List.not_lt_nil _)
    | cons other right =>
      rw [List.flatMap_cons, List.flatMap_cons]
      rcases List.cons_lt_cons_iff.mp below with smaller | ⟨rfl, later⟩
      · exact utf8EncodeChar_append_lt smaller _ _
      · exact List.append_left_lt (ih later)

theorem bytes_lt_bytes_iff (left right : String) : bytes left < bytes right ↔ left < right := by
  have keeps {left right : String} (below : left < right) : bytes left < bytes right := by
    rw [bytes_eq_flatMap, bytes_eq_flatMap]
    exact flatMap_utf8EncodeChar_lt (String.lt_iff_toList_lt.mp below)
  refine ⟨fun below => ?_, keeps⟩
  rcases lt_trichotomy left right with ascending | same | descending
  · exact ascending
  · exact absurd (same ▸ below) (List.lt_irrefl _)
  · exact absurd (keeps descending) (List.lt_asymm below)

end Highlighter.Text

namespace Highlighter.Dictionary

theorem Ascending.bytes {α : Type} {entries : Dictionary α} (ascending : entries.Ascending) :
    (entries.names.map Text.bytes).Pairwise (· < ·) := by
  unfold names
  rw [List.map_map, List.pairwise_map]
  apply ascending.imp
  intro first second below
  exact (Text.bytes_lt_bytes_iff _ _).mpr below

end Highlighter.Dictionary
