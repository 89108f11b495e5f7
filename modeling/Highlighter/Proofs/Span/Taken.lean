import Highlighter.Span
import Highlighter.Proofs.Pattern.Extent

/-!
What rules take of a line. A rule takes those of its intervals that meet nothing taken by the rules before it, so
what is taken never overlaps, and sorting it by its starts puts it in order from left to right.
-/

namespace Highlighter

namespace Interval

theorem overlaps_iff {left right : Interval} :
    left.overlaps right = true ↔ left.start < right.stop ∧ right.start < left.stop := by
  simp [overlaps]

theorem overlaps_eq_false_iff {left right : Interval} :
    left.overlaps right = false ↔ left.stop ≤ right.start ∨ right.stop ≤ left.start := by
  rw [← Bool.not_eq_true, overlaps_iff]
  omega

theorem overlaps_comm (left right : Interval) : left.overlaps right = right.overlaps left := by
  simp only [overlaps, Bool.and_comm]

end Interval

namespace Taken

def free (taken : List Taken) (interval : Interval) : Bool :=
  !taken.any (·.interval.overlaps interval)

theorem free_iff {taken : List Taken} {interval : Interval} :
    free taken interval = true ↔ ∀ other ∈ taken, other.interval.overlaps interval = false := by
  simp [free]

theorem free_cons {first : Taken} {taken : List Taken} {interval : Interval}
    (apart : first.interval.stop ≤ interval.start) : free (first :: taken) interval = free taken interval := by
  have missed : first.interval.overlaps interval = false := Interval.overlaps_eq_false_iff.mpr (.inl apart)
  simp [free, missed]

/-- Intervals that do not meet one another are each tested against what was taken before all of them alone. -/
theorem foldl_add (kind : TokenKind) (taken : List Taken) (intervals : List Interval)
    (ordered : intervals.Pairwise fun left right => left.stop ≤ right.start) :
    intervals.foldl (add kind) taken =
      ((intervals.filter (free taken)).map (Taken.mk · kind)).reverse ++ taken := by
  induction intervals generalizing taken with
  | nil => rfl
  | cons interval rest ih =>
    obtain ⟨behind, restOrdered⟩ := List.pairwise_cons.mp ordered
    rw [List.foldl_cons, ih _ restOrdered]
    cases available : free taken interval with
    | false =>
      have met : taken.any (·.interval.overlaps interval) = true := by simpa [free] using available
      simp [add, met, available]
    | true =>
      have unmet : taken.any (·.interval.overlaps interval) = false := by simpa [free] using available
      have same : rest.filter (free (⟨interval, kind⟩ :: taken)) = rest.filter (free taken) :=
        List.filter_congr fun other member => free_cons (behind other member)
      simp [add, unmet, available, same]

theorem addRule_eq (line : List Char) (taken : List Taken) (rule : Rule) :
    addRule line taken rule =
      (((rule.intervals line).filter (free taken)).map (Taken.mk · rule.kind)).reverse ++ taken :=
  foldl_add rule.kind taken _ (Pattern.intervals_ordered rule.pattern line)

theorem mem_addRule {line : List Char} {taken : List Taken} {rule : Rule} {item : Taken} :
    item ∈ addRule line taken rule ↔
      item ∈ taken ∨
        item.kind = rule.kind ∧ item.interval ∈ rule.intervals line ∧ free taken item.interval = true := by
  rw [addRule_eq, List.mem_append, List.mem_reverse, List.mem_map, or_comm]
  apply or_congr_right
  constructor
  · rintro ⟨interval, member, rfl⟩
    exact ⟨rfl, List.mem_filter.mp member⟩
  · rintro ⟨kind, member, available⟩
    exact ⟨item.interval, List.mem_filter.mpr ⟨member, available⟩, by rw [← kind]⟩

/-- The rule with a number takes an interval: it finds it, and none of the rules before it has taken a stretch that
meets it. -/
structure TakenBy (rules : List Rule) (line : List Char) (index : Nat) (item : Taken) : Prop where
  rule : ∃ rule, rules[index]? = some rule ∧ item.kind = rule.kind ∧ item.interval ∈ rule.intervals line
  free : free (ofRules (rules.take index) line) item.interval = true

private theorem mem_foldl_addRule {line : List Char} {rules : List Rule} {taken : List Taken} {item : Taken} :
    item ∈ rules.foldl (addRule line) taken ↔
      item ∈ taken ∨ ∃ index,
        (∃ rule, rules[index]? = some rule ∧ item.kind = rule.kind ∧ item.interval ∈ rule.intervals line) ∧
          free ((rules.take index).foldl (addRule line) taken) item.interval = true := by
  induction rules generalizing taken with
  | nil => simp
  | cons first rest ih =>
    rw [List.foldl_cons, ih, mem_addRule, or_assoc]
    apply or_congr_right
    constructor
    · rintro (⟨kind, member, available⟩ | ⟨index, found, available⟩)
      · exact ⟨0, ⟨first, rfl, kind, member⟩, available⟩
      · exact ⟨index + 1, found, available⟩
    · rintro ⟨index, found, available⟩
      cases index with
      | zero =>
        obtain ⟨rule, same, kind, member⟩ := found
        cases same
        exact .inl ⟨kind, member, available⟩
      | succ index => exact .inr ⟨index, found, available⟩

theorem mem_ofRules {rules : List Rule} {line : List Char} {item : Taken} :
    item ∈ ofRules rules line ↔ ∃ index, TakenBy rules line index item := by
  unfold ofRules
  rw [mem_foldl_addRule]
  constructor
  · rintro (none | ⟨index, found, available⟩)
    · cases none
    · exact ⟨index, found, available⟩
  · rintro ⟨index, found, available⟩
    exact .inr ⟨index, found, available⟩

theorem ofRules_concat (rules : List Rule) (rule : Rule) (line : List Char) :
    ofRules (rules ++ [rule]) line = addRule line (ofRules rules line) rule := by
  simp [ofRules]

/-- Stretches of a line that do not overlap, none of them plain text. -/
structure Valid (length : Nat) (taken : List Taken) : Prop where
  disjoint : taken.Pairwise fun left right => left.interval.overlaps right.interval = false
  inside : ∀ item ∈ taken, item.interval.stop ≤ length
  kind_ne_plain : ∀ item ∈ taken, item.kind ≠ .plain

theorem Valid.eq_of_overlaps {length : Nat} {taken : List Taken} (valid : Valid length taken) {left right : Taken}
    (leftMember : left ∈ taken) (rightMember : right ∈ taken)
    (overlap : left.interval.overlaps right.interval = true) : left = right := by
  have apart := valid.disjoint.imp fun {left right} disjoint =>
    show left.interval.overlaps right.interval = true → left = right from
      fun overlap => absurd overlap (by simp [disjoint])
  have flipped : taken.Pairwise (flip fun left right =>
      left.interval.overlaps right.interval = true → left = right) :=
    apart.imp fun same overlap => (same (by rw [Interval.overlaps_comm]; exact overlap)).symm
  exact apart.forall_of_forall_of_flip (fun _ _ _ => rfl) flipped leftMember rightMember overlap

theorem valid_addRule {line : List Char} {taken : List Taken} (valid : Valid line.length taken) (rule : Rule) :
    Valid line.length (addRule line taken rule) where
  disjoint := by
    rw [addRule_eq, List.pairwise_append, List.pairwise_reverse, List.pairwise_map]
    refine ⟨?_, valid.disjoint, ?_⟩
    · refine ((Pattern.intervals_ordered rule.pattern line).filter _).imp ?_
      intro left right apart
      exact Interval.overlaps_eq_false_iff.mpr (.inr apart)
    · intro item added other earlier
      rw [List.mem_reverse, List.mem_map] at added
      obtain ⟨interval, member, rfl⟩ := added
      rw [Interval.overlaps_comm]
      exact free_iff.mp (List.mem_filter.mp member).2 other earlier
  inside := by
    intro item member
    rcases mem_addRule.mp member with earlier | ⟨_, found, _⟩
    · exact valid.inside item earlier
    · exact Pattern.stop_le_of_mem_intervals found
  kind_ne_plain := by
    intro item member
    rcases mem_addRule.mp member with earlier | ⟨kind, _, _⟩
    · exact valid.kind_ne_plain item earlier
    · rw [kind]
      exact rule.kind_ne_plain

theorem valid_ofRules (rules : List Rule) (line : List Char) : Valid line.length (ofRules rules line) := by
  unfold ofRules
  suffices run : ∀ taken, Valid line.length taken → Valid line.length (rules.foldl (addRule line) taken) from
    run [] ⟨.nil, by simp, by simp⟩
  intro taken valid
  induction rules generalizing taken with
  | nil => exact valid
  | cons rule rest ih => exact ih _ (valid_addRule valid rule)

def LeftToRight (taken : List Taken) : Prop :=
  taken.Pairwise fun left right => left.interval.stop ≤ right.interval.start

theorem leftToRight_of_starts {length : Nat} {taken : List Taken} (valid : Valid length taken)
    (starts : taken.Pairwise fun left right => left.interval.start ≤ right.interval.start) :
    LeftToRight taken := by
  refine (valid.disjoint.and starts).imp ?_
  rintro left right ⟨apart, ordered⟩
  have leftNonempty := left.interval.start_lt_stop
  have rightNonempty := right.interval.start_lt_stop
  rcases Interval.overlaps_eq_false_iff.mp apart with before | after
  · exact before
  · omega

theorem valid_perm {length : Nat} {taken other : List Taken} (same : other.Perm taken)
    (valid : Valid length taken) : Valid length other where
  disjoint := (same.pairwise_iff fun apart => by rw [Interval.overlaps_comm]; exact apart).mpr valid.disjoint
  inside := fun item member => valid.inside item (same.mem_iff.mp member)
  kind_ne_plain := fun item member => valid.kind_ne_plain item (same.mem_iff.mp member)

theorem sorted_perm (taken : List Taken) : (sorted taken).Perm taken := List.mergeSort_perm _ _

theorem leftToRight_sorted {length : Nat} {taken : List Taken} (valid : Valid length taken) :
    LeftToRight (sorted taken) := by
  refine leftToRight_of_starts (valid_perm (sorted_perm taken) valid) ?_
  refine (List.pairwise_mergeSort ?_ ?_ taken).imp fun ordered => of_decide_eq_true ordered
  · intro first second third before after
    simp only [decide_eq_true_eq] at before after ⊢
    omega
  · intro first second
    simp only [Bool.or_eq_true, decide_eq_true_eq]
    omega

end Taken

end Highlighter
