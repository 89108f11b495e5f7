import Highlighter.Interval
import Mathlib.Data.List.Basic
import Mathlib.Data.List.TakeWhile

/-!
Parts of a text, and runs of characters of one sort that are as long as can be. Each character of the sort lies in just
one of these runs.
-/

namespace Highlighter

/-- The interval of a part of a text, with what stands before and after the part. -/
structure Interval.Splits (interval : Interval) (text before part after : List Char) : Prop where
  split : text = before ++ part ++ after
  start_eq : interval.start = before.length
  stop_eq : interval.stop = before.length + part.length

namespace Interval.Splits

variable {interval : Interval} {text before part after : List Char} (splits : interval.Splits text before part after)
include splits

theorem take_start : text.take interval.start = before := by
  rw [splits.start_eq, splits.split, List.append_assoc, List.take_left]

theorem take_stop : text.take interval.stop = before ++ part := by
  rw [splits.stop_eq, splits.split, ← List.length_append, List.take_left]

theorem drop_stop : text.drop interval.stop = after := by
  rw [splits.stop_eq, splits.split, ← List.length_append, List.drop_left]

theorem stop_le : interval.stop ≤ text.length := by
  have lengths := congrArg List.length splits.split
  have stop := splits.stop_eq
  simp only [List.length_append] at lengths
  omega

theorem exists_getElem? {place : Nat} (above : interval.start ≤ place) (below : place < interval.stop) :
    ∃ char ∈ part, text[place]? = some char := by
  rw [splits.start_eq] at above
  rw [splits.stop_eq] at below
  rw [splits.split, List.append_assoc, List.getElem?_append_right above, List.getElem?_append_left (by omega)]
  exact ⟨_, List.getElem_mem (by omega), List.getElem?_eq_getElem (by omega)⟩

theorem bytes_eq : interval.bytes text = (utf8Length before, utf8Length (before ++ part)) := by
  rw [bytes, splits.take_start, splits.take_stop]

theorem unique {otherBefore otherPart otherAfter : List Char}
    (other : interval.Splits text otherBefore otherPart otherAfter) :
    before = otherBefore ∧ part = otherPart ∧ after = otherAfter := by
  have fronts : before = otherBefore := splits.take_start.symm.trans other.take_start
  have both : before ++ part = otherBefore ++ otherPart := splits.take_stop.symm.trans other.take_stop
  rw [fronts] at both
  exact ⟨fronts, List.append_cancel_left both, splits.drop_stop.symm.trans other.drop_stop⟩

end Interval.Splits

namespace Text

theorem getLast?_take_succ {text : List Char} {place : Nat} (inside : place < text.length) :
    (text.take (place + 1)).getLast? = text[place]? := by
  rw [List.getLast?_take, if_neg (Nat.succ_ne_zero place), Nat.add_sub_cancel, List.getElem?_eq_getElem inside]
  rfl

/-- A run of characters of a sort, as long as can be, with what stands before and after it in a text. -/
structure IsRun (sort : Char → Prop) (text before run after : List Char) : Prop where
  split : text = before ++ run ++ after
  nonempty : run ≠ []
  inside : ∀ char ∈ run, sort char
  begins : ∀ char ∈ before.getLast?, ¬sort char
  ends : ∀ char ∈ after.head?, ¬sort char

namespace IsRun

variable {sort : Char → Prop} {text before run after : List Char}

def interval (isRun : IsRun sort text before run after) : Interval :=
  ⟨before.length, before.length + run.length, by
    have positive := List.length_pos_iff.mpr isRun.nonempty
    omega⟩

section

variable (isRun : IsRun sort text before run after)
include isRun

theorem splits : isRun.interval.Splits text before run after := ⟨isRun.split, rfl, rfl⟩

theorem exists_getElem? {place : Nat} (above : before.length ≤ place) (below : place < before.length + run.length) :
    ∃ char, text[place]? = some char ∧ sort char := by
  obtain ⟨char, member, known⟩ := isRun.splits.exists_getElem? above below
  exact ⟨char, known, isRun.inside char member⟩

theorem not_of_getElem?_before {place : Nat} (next : place + 1 = before.length) {char : Char}
    (known : text[place]? = some char) : ¬sort char := by
  refine isRun.begins char ?_
  rw [isRun.split, List.append_assoc, List.getElem?_append_left (by omega)] at known
  rwa [List.getLast?_eq_getElem?, ← next, Nat.add_sub_cancel]

theorem not_of_getElem?_after {char : Char} (known : text[before.length + run.length]? = some char) : ¬sort char := by
  refine isRun.ends char ?_
  rwa [← isRun.splits.drop_stop, List.head?_drop]

end

section

variable {otherBefore otherRun otherAfter : List Char} (isRun : IsRun sort text before run after)
  (other : IsRun sort text otherBefore otherRun otherAfter)
include isRun other

theorem not_start_lt (overlap : otherBefore.length < before.length + run.length) :
    ¬before.length < otherBefore.length := by
  intro behind
  obtain ⟨last, next⟩ : ∃ last, last + 1 = otherBefore.length := ⟨otherBefore.length - 1, by omega⟩
  have above : before.length ≤ last := by omega
  obtain ⟨char, known, inside⟩ := isRun.exists_getElem? above (by omega)
  exact other.not_of_getElem?_before next known inside

theorem not_stop_lt (overlap : otherBefore.length < before.length + run.length) :
    ¬before.length + run.length < otherBefore.length + otherRun.length := by
  intro further
  obtain ⟨char, known, inside⟩ := other.exists_getElem? (Nat.le_of_lt overlap) further
  exact isRun.not_of_getElem?_after known inside

theorem eq_of_overlaps (overlap : isRun.interval.overlaps other.interval = true) :
    before = otherBefore ∧ run = otherRun ∧ after = otherAfter := by
  obtain ⟨left, right⟩ : before.length < otherBefore.length + otherRun.length ∧
      otherBefore.length < before.length + run.length :=
    (Bool.and_eq_true _ _ |>.mp overlap).imp of_decide_eq_true of_decide_eq_true
  have starts : before.length = otherBefore.length :=
    Nat.le_antisymm (Nat.not_lt.mp (other.not_start_lt isRun left)) (Nat.not_lt.mp (isRun.not_start_lt other right))
  have stops : before.length + run.length = otherBefore.length + otherRun.length :=
    Nat.le_antisymm (Nat.not_lt.mp (other.not_stop_lt isRun left)) (Nat.not_lt.mp (isRun.not_stop_lt other right))
  exact isRun.splits.unique ⟨other.split, starts, stops⟩

end

section

variable [DecidablePred sort] {place : Nat} {char : Char}

theorem of_begins (known : text[place]? = some char) (inside : sort char)
    (begins : ∀ last ∈ (text.take place).getLast?, ¬sort last) :
    IsRun sort text (text.take place) ((text.drop place).takeWhile (sort ·))
      ((text.drop place).dropWhile (sort ·)) where
  split := by rw [List.append_assoc, List.takeWhile_append_dropWhile, List.take_append_drop]
  nonempty := by
    obtain ⟨rest, split⟩ : ∃ rest, text.drop place = char :: rest := by
      rw [← List.head?_eq_some_iff, List.head?_drop, known]
    simp [split, inside]
  inside := fun other member => by simpa using List.mem_takeWhile_imp member
  begins := begins
  ends := by
    intro other next
    have stopped := List.head?_dropWhile_not (sort ·) (text.drop place)
    rw [next] at stopped
    exact of_decide_eq_false stopped

theorem exists_of_getElem? (known : text[place]? = some char) (inside : sort char) :
    ∃ before run after, ∃ isRun : IsRun sort text before run after,
      isRun.interval.start ≤ place ∧ place < isRun.interval.stop := by
  -- A run that begins at the place, unless the character in front of it is in a run that goes on.
  have here {place : Nat} {char : Char} (known : text[place]? = some char) (inside : sort char)
      (begins : ∀ last ∈ (text.take place).getLast?, ¬sort last) :
      ∃ before run after, ∃ isRun : IsRun sort text before run after,
        isRun.interval.start ≤ place ∧ place < isRun.interval.stop := by
    have isRun := of_begins known inside begins
    have positive := List.length_pos_iff.mpr isRun.nonempty
    have bound := (List.getElem?_eq_some_iff.mp known).1
    have front : (text.take place).length = place := List.length_take_of_le (Nat.le_of_lt bound)
    refine ⟨_, _, _, isRun, ?_⟩
    simp only [interval]
    omega
  induction place generalizing char with
  | zero => exact here known inside (by simp)
  | succ place ih =>
    have bound := (List.getElem?_eq_some_iff.mp known).1
    have last : (text.take (place + 1)).getLast? = text[place]? := getLast?_take_succ (by omega)
    cases previous : text[place]? with
    | none => exact here known inside (by simp [last, previous])
    | some other =>
      by_cases otherInside : sort other
      · obtain ⟨before, run, after, isRun, start, stop⟩ := ih previous otherInside
        refine ⟨before, run, after, isRun, Nat.le_succ_of_le start, Nat.lt_of_le_of_ne stop ?_⟩
        intro ends
        refine isRun.not_of_getElem?_after ?_ inside
        rwa [ends] at known
      · exact here known inside (by simpa [last, previous] using otherInside)

end

end IsRun

end Text

end Highlighter
