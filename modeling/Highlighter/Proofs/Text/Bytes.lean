import Highlighter.Interval
import Mathlib.Algebra.GroupWithZero.Nat
import Mathlib.Order.Basic

/-! Bytes of a text. Places in a text can be counted in characters or in bytes; both counts keep the order. -/

namespace Highlighter

@[simp]
theorem utf8Length_nil : utf8Length [] = 0 := rfl

@[simp]
theorem utf8Length_cons (char : Char) (text : List Char) :
    utf8Length (char :: text) = char.utf8Size + utf8Length text := rfl

@[simp]
theorem utf8Length_append (front back : List Char) :
    utf8Length (front ++ back) = utf8Length front + utf8Length back := by
  induction front with
  | nil => simp
  | cons char front ih => simp only [List.cons_append, utf8Length_cons, ih]; omega

theorem utf8Length_pos {text : List Char} (nonempty : text ≠ []) : 0 < utf8Length text := by
  cases text with
  | nil => exact absurd rfl nonempty
  | cons char text =>
    have positive := char.utf8Size_pos
    simp only [utf8Length_cons]
    omega

theorem utf8Length_of_single {text : List Char} (single : ∀ char ∈ text, char.toNat < 128) :
    utf8Length text = text.length := by
  induction text with
  | nil => rfl
  | cons char text ih =>
    rw [List.forall_mem_cons] at single
    have size : char.utf8Size = 1 := by
      rw [Char.utf8Size_eq_one_iff, UInt32.le_iff_toNat_le]
      exact Nat.le_of_lt_succ single.1
    rw [utf8Length_cons, size, ih single.2, List.length_cons, Nat.add_comm]

theorem utf8Length_toList (text : String) : utf8Length text.toList = text.utf8ByteSize := by
  obtain ⟨chars, rfl⟩ : ∃ chars, text = String.ofList chars := ⟨text.toList, by simp⟩
  simp only [String.toList_ofList]
  induction chars with
  | nil => rfl
  | cons char chars ih =>
    rw [utf8Length_cons, ih, String.ofList_cons, String.utf8ByteSize_append, String.utf8ByteSize_singleton]

theorem utf8Length_flatMap {α : Type} (items : List α) (text : α → String) :
    utf8Length (items.flatMap fun item => (text item).toList) =
      (items.map fun item => (text item).utf8ByteSize).sum := by
  induction items with
  | nil => rfl
  | cons item items ih =>
    rw [List.flatMap_cons, utf8Length_append, ih, utf8Length_toList, List.map_cons, List.sum_cons]

theorem utf8Length_take_add (text : List Char) {first last : Nat} (ordered : first ≤ last) :
    utf8Length (text.take last) =
      utf8Length (text.take first) + utf8Length ((text.take last).drop first) := by
  have parts := List.take_append_drop first (text.take last)
  rw [List.take_take, Nat.min_eq_left ordered] at parts
  rw [← utf8Length_append, parts]

theorem utf8Length_take_le (text : List Char) {first last : Nat} (ordered : first ≤ last) :
    utf8Length (text.take first) ≤ utf8Length (text.take last) := by
  rw [utf8Length_take_add text ordered]
  omega

theorem utf8Length_take_lt (text : List Char) {first last : Nat} (ordered : first < last)
    (inside : last ≤ text.length) : utf8Length (text.take first) < utf8Length (text.take last) := by
  rw [utf8Length_take_add text (Nat.le_of_lt ordered)]
  have between : (text.take last).drop first ≠ [] := by
    intro none
    have count := congrArg List.length none
    simp only [List.length_drop, List.length_take, List.length_nil] at count
    omega
  have positive := utf8Length_pos between
  omega

theorem utf8Length_take_le_iff (text : List Char) (first last : Nat) (inside : first ≤ text.length) :
    utf8Length (text.take first) ≤ utf8Length (text.take last) ↔ first ≤ last := by
  constructor
  · intro ordered
    by_contra reversed
    have less := utf8Length_take_lt text (by omega : last < first) inside
    omega
  · exact utf8Length_take_le text

theorem utf8Length_take_lt_iff (text : List Char) (first last : Nat) (inside : last ≤ text.length) :
    utf8Length (text.take first) < utf8Length (text.take last) ↔ first < last := by
  have reversed := utf8Length_take_le_iff text last first inside
  omega

theorem eq_of_utf8Length_take_eq (text : List Char) {first last : Nat} (firstInside : first ≤ text.length)
    (lastInside : last ≤ text.length) (same : utf8Length (text.take first) = utf8Length (text.take last)) :
    first = last :=
  Nat.le_antisymm ((utf8Length_take_le_iff text first last firstInside).mp (Nat.le_of_eq same))
    ((utf8Length_take_le_iff text last first lastInside).mp (Nat.le_of_eq same.symm))

end Highlighter
