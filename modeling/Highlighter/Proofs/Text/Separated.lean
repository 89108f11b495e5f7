import Mathlib.Data.List.Basic

/-! Texts whose parts a character separates or ends. -/

namespace Highlighter.Text

variable {separator : Char}

theorem mem_intercalate {parts : List (List Char)} {char : Char} (member : char ∈ [separator].intercalate parts) :
    char = separator ∨ ∃ part ∈ parts, char ∈ part := by
  induction parts with
  | nil => cases member
  | cons part rest ih =>
    cases rest with
    | nil =>
      rw [List.intercalate_singleton] at member
      exact .inr ⟨part, List.mem_cons_self, member⟩
    | cons next rest =>
      rw [List.intercalate_cons_of_ne_nil (List.cons_ne_nil next rest)] at member
      rcases List.mem_append.mp member with front | later
      · rcases List.mem_append.mp front with inside | same
        · exact .inr ⟨part, List.mem_cons_self, inside⟩
        · exact .inl (List.mem_singleton.mp same)
      · rcases ih later with same | ⟨other, found, inside⟩
        · exact .inl same
        · exact .inr ⟨other, List.mem_cons_of_mem _ found, inside⟩

theorem flatMap_ended (parts : List (List Char)) :
    parts.flatMap (· ++ [separator]) = [separator].intercalate (parts ++ [[]]) := by
  induction parts with
  | nil => simp
  | cons part rest ih =>
    rw [List.flatMap_cons, ih, List.cons_append, List.intercalate_cons_of_ne_nil (by simp)]

/-- Parts that a character ends are told by dividing at it; behind the last one nothing is left. -/
theorem splitOn_ended {parts : List (List Char)} (free : ∀ part ∈ parts, separator ∉ part) :
    (parts.flatMap (· ++ [separator])).splitOn separator = parts ++ [[]] := by
  rw [flatMap_ended]
  refine List.splitOn_intercalate separator ?_ (by simp)
  intro part member
  rcases List.mem_append.mp member with old | last
  · exact free part old
  · simp [List.mem_singleton.mp last]

end Highlighter.Text
