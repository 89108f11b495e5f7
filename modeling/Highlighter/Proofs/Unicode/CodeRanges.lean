import Highlighter.Unicode.CodeRanges
import Mathlib.Data.List.Basic

/-!
Sets of code points. Ranges that ascend hold the code points of each of them, and a range that is inserted keeps them
ascending and adds its own code points and no others.
-/

namespace Highlighter.Unicode.CodeRanges

theorem exists_of_contains {ranges : CodeRanges} {code : Nat} (inside : ranges.contains code = true) :
    ∃ range ∈ ranges, range.1 ≤ code ∧ code ≤ range.2 := by
  induction ranges with
  | nil => cases inside
  | cons range rest ih =>
    obtain ⟨first, last⟩ := range
    simp only [contains] at inside
    split at inside
    · cases inside
    · split at inside
      · exact ⟨(first, last), List.mem_cons_self .., by omega⟩
      · obtain ⟨other, member, bounds⟩ := ih inside
        exact ⟨other, List.mem_cons_of_mem _ member, bounds⟩

structure Ascending (ranges : CodeRanges) : Prop where
  apart : ranges.Pairwise fun left right => left.2 + 1 < right.1
  ordered : ∀ range ∈ ranges, range.1 ≤ range.2

theorem Ascending.tail {range : Nat × Nat} {rest : CodeRanges} (ascending : Ascending (range :: rest)) :
    Ascending rest :=
  ⟨ascending.apart.tail, fun other member => ascending.ordered other (List.mem_cons_of_mem _ member)⟩

theorem contains_iff {ranges : CodeRanges} (ascending : Ascending ranges) {code : Nat} :
    ranges.contains code = true ↔ ∃ range ∈ ranges, range.1 ≤ code ∧ code ≤ range.2 := by
  refine ⟨exists_of_contains, ?_⟩
  rintro ⟨range, member, bounds⟩
  induction ranges with
  | nil => cases member
  | cons first rest ih =>
    obtain ⟨low, high⟩ := first
    rcases List.mem_cons.mp member with rfl | behind
    · rw [contains, if_neg (Nat.not_lt.mpr bounds.1), if_pos bounds.2]
    · have gap := List.rel_of_pairwise_cons ascending.apart behind
      have nonempty := ascending.ordered (low, high) (List.mem_cons_self ..)
      simp only at gap nonempty
      rw [contains, if_neg (by omega), if_neg (by omega)]
      exact ih ascending.tail behind

section Insert

variable {first last : Nat} {ranges : CodeRanges}

theorem lt_of_mem_insert {bound : Nat} (below : bound < first) (above : ∀ range ∈ ranges, bound < range.1) :
    ∀ range ∈ insert first last ranges, bound < range.1 := by
  fun_induction insert first last ranges with
  | case1 first last => simpa using below
  | case2 first last low high rest before => simpa [below] using above
  | case3 first last low high rest _ behind ih =>
    obtain ⟨lowAbove, restAbove⟩ := List.forall_mem_cons.mp above
    exact List.forall_mem_cons.mpr ⟨lowAbove, ih below restAbove⟩
  | case4 first last low high rest _ _ ih =>
    obtain ⟨lowAbove, restAbove⟩ := List.forall_mem_cons.mp above
    exact ih (by simp only at lowAbove; omega) restAbove

theorem ascending_insert (ordered : first ≤ last) (ascending : Ascending ranges) :
    Ascending (insert first last ranges) := by
  fun_induction insert first last ranges with
  | case1 first last => exact ⟨List.pairwise_singleton _ _, by simpa using ordered⟩
  | case2 first last low high rest before =>
    have lowest : ∀ range ∈ (low, high) :: rest, low ≤ range.1 := by
      refine List.forall_mem_cons.mpr ⟨Nat.le_refl _, fun range member => ?_⟩
      have gap := List.rel_of_pairwise_cons ascending.apart member
      have nonempty := ascending.ordered (low, high) (List.mem_cons_self ..)
      simp only at gap nonempty
      omega
    exact ⟨.cons (fun range member => Nat.lt_of_lt_of_le before (lowest range member)) ascending.apart,
      List.forall_mem_cons.mpr ⟨ordered, ascending.ordered⟩⟩
  | case3 first last low high rest _ behind ih =>
    have inserted := ih ordered ascending.tail
    have apart : ∀ range ∈ insert first last rest, high + 1 < range.1 :=
      lt_of_mem_insert behind fun range member => List.rel_of_pairwise_cons ascending.apart member
    exact ⟨.cons apart inserted.apart, List.forall_mem_cons.mpr
      ⟨ascending.ordered (low, high) (List.mem_cons_self ..), inserted.ordered⟩⟩
  | case4 first last low high rest _ _ ih => exact ih (by omega) ascending.tail

theorem exists_mem_insert_iff (ordered : first ≤ last) (ascending : Ascending ranges) {code : Nat} :
    (∃ range ∈ insert first last ranges, range.1 ≤ code ∧ code ≤ range.2) ↔
      (first ≤ code ∧ code ≤ last) ∨ ∃ range ∈ ranges, range.1 ≤ code ∧ code ≤ range.2 := by
  fun_induction insert first last ranges with
  | case1 first last => simp
  | case2 first last low high rest before => simp only [List.exists_mem_cons_iff]
  | case3 first last low high rest _ _ ih =>
    rw [List.exists_mem_cons_iff, List.exists_mem_cons_iff, ih ordered ascending.tail]
    exact or_left_comm
  | case4 first last low high rest before behind ih =>
    -- Ranges that touch cover together what the range from the lower first to the higher last one covers.
    have nonempty : low ≤ high := ascending.ordered (low, high) (List.mem_cons_self ..)
    rw [ih (by omega) ascending.tail, List.exists_mem_cons_iff, ← or_assoc]
    refine or_congr_left ?_
    simp only
    omega

theorem contains_insert (ordered : first ≤ last) (ascending : Ascending ranges) {code : Nat} :
    (insert first last ranges).contains code = true ↔
      (first ≤ code ∧ code ≤ last) ∨ ranges.contains code = true := by
  rw [contains_iff (ascending_insert ordered ascending), contains_iff ascending,
    exists_mem_insert_iff ordered ascending]

end Insert

theorem contains_foldl_insert {added ranges : CodeRanges} (ordered : ∀ range ∈ added, range.1 ≤ range.2)
    (ascending : Ascending ranges) {code : Nat} :
    (added.foldl (fun set range => set.insert range.1 range.2) ranges).contains code = true ↔
      (∃ range ∈ added, range.1 ≤ code ∧ code ≤ range.2) ∨ ranges.contains code = true := by
  induction added generalizing ranges with
  | nil => simp
  | cons range rest ih =>
    obtain ⟨rangeOrdered, restOrdered⟩ := List.forall_mem_cons.mp ordered
    rw [List.foldl_cons, ih restOrdered (ascending_insert rangeOrdered ascending),
      contains_insert rangeOrdered ascending, List.exists_mem_cons_iff, or_left_comm, or_assoc]

end Highlighter.Unicode.CodeRanges
