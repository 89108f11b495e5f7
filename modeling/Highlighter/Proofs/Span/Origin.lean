import Highlighter.Proofs.Span.Precedence
import Mathlib.Data.List.Sort

/-!
Where spans come from. What the first rule finds is never dropped, and every end of a span is an end of the line or of
a stretch that some rule has taken.
-/

namespace Highlighter

theorem Rule.byteRanges_of_pattern {rule other : Rule} (same : rule.pattern = other.pattern) (line : String) :
    rule.byteRanges line = other.byteRanges line := by
  rw [byteRanges, byteRanges, intervals, intervals, same]

namespace Span

theorem ends_of_mem_divideFrom {chars : List Char} {index : Nat} {taken : List Taken}
    (within : Taken.Between index chars.length taken) {span : Span} (member : span ∈ divideFrom chars index taken) :
    ∃ first last, first < last ∧ last ≤ chars.length ∧ span = between chars first last span.kind ∧
      (first = index ∨ ∃ item ∈ taken, first = item.interval.start ∨ first = item.interval.stop) ∧
      (last = chars.length ∨ ∃ item ∈ taken, last = item.interval.start ∨ last = item.interval.stop) := by
  induction taken generalizing index with
  | nil =>
    rw [divideFrom_nil] at member
    obtain ⟨ordered, rfl⟩ := mem_gap member
    exact ⟨index, chars.length, ordered, Nat.le_refl _, rfl, .inl rfl, .inl rfl⟩
  | cons item rest ih =>
    have inside := within.2.le
    have nonempty := item.interval.start_lt_stop
    have here : item ∈ item :: rest := List.mem_cons_self ..
    rw [divideFrom_cons within] at member
    rcases List.mem_append.mp member with before | behind
    · obtain ⟨ordered, rfl⟩ := mem_gap before
      exact ⟨index, item.interval.start, ordered, by omega, rfl, .inl rfl, .inr ⟨item, here, .inl rfl⟩⟩
    · rcases List.mem_cons.mp behind with rfl | later
      · exact ⟨item.interval.start, item.interval.stop, nonempty, inside, rfl, .inr ⟨item, here, .inl rfl⟩,
          .inr ⟨item, here, .inr rfl⟩⟩
      · obtain ⟨first, last, ordered, bound, same, firstEnd, lastEnd⟩ := ih within.2 later
        refine ⟨first, last, ordered, bound, same, .inr ?_, lastEnd.imp_right ?_⟩
        · rcases firstEnd with rfl | ⟨other, known, ends⟩
          · exact ⟨item, here, .inr rfl⟩
          · exact ⟨other, List.mem_cons_of_mem _ known, ends⟩
        · exact fun ⟨other, known, ends⟩ => ⟨other, List.mem_cons_of_mem _ known, ends⟩

/-- The place is an end of a line, or of a stretch of it that a rule has taken. -/
def IsCut (rules : List Rule) (chars : List Char) (place : Nat) : Prop :=
  place = 0 ∨ place = chars.length ∨
    ∃ index item, Taken.TakenBy rules chars index item ∧ (place = item.interval.start ∨ place = item.interval.stop)

theorem exists_cut_of_end {rules : List Rule} {line : String} {span : Span} (member : span ∈ ofLine rules line)
    {byte : Nat} (ends : byte = span.start ∨ byte = span.stop) :
    ∃ place ≤ line.toList.length, IsCut rules line.toList place ∧ byte = utf8Length (line.toList.take place) := by
  rw [ofLine_eq] at member
  obtain ⟨first, last, ordered, bound, same, firstEnd, lastEnd⟩ :=
    ends_of_mem_divideFrom (Taken.between_sorted rules line.toList) member
  have cut {place : Nat} (atItem : ∃ item ∈ Taken.sorted (Taken.ofRules rules line.toList),
      place = item.interval.start ∨ place = item.interval.stop) : IsCut rules line.toList place := by
    obtain ⟨item, known, atEnd⟩ := atItem
    obtain ⟨index, taken⟩ := Taken.mem_ofRules.mp ((Taken.sorted_perm _).mem_iff.mp known)
    exact .inr (.inr ⟨index, item, taken, atEnd⟩)
  rcases ends with rfl | rfl
  · refine ⟨first, by omega, firstEnd.elim .inl cut, ?_⟩
    rw [same]
    rfl
  · refine ⟨last, bound, lastEnd.elim (fun lineEnd => .inr (.inl lineEnd)) cut, ?_⟩
    rw [same, stop_between line.toList span.kind (Nat.le_of_lt ordered)]

theorem start_lt_stop {rules : List Rule} {line : String} {span : Span} (member : span ∈ ofLine rules line) :
    span.start < span.stop := by
  have nonempty : span.text.toList ≠ [] := fun empty =>
    text_ne_of_mem_ofLine member (String.toList_eq_nil_iff.mp empty)
  have positive := utf8Length_pos nonempty
  have stop : span.stop = span.start + utf8Length span.text.toList := rfl
  omega

theorem pairwise_start_lt (rules : List Rule) (line : String) :
    (ofLine rules line).Pairwise fun left right => left.start < right.start := by
  refine (contiguous_ofLine rules line).pairwise.imp_of_mem ?_
  intro left right leftMember _ ordered
  exact Nat.lt_of_lt_of_le (start_lt_stop leftMember) ordered

theorem start_le_of_stop_eq {rules : List Rule} {line : String} {last : Span} (member : last ∈ ofLine rules line)
    (ends : last.stop = line.utf8ByteSize) {span : Span} (other : span ∈ ofLine rules line) :
    span.start ≤ last.start := by
  have joined := contiguous_ofLine rules line
  by_contra behind
  have nonempty := start_lt_stop other
  have bounds := joined.mem_bounds span other
  have covered : last.start ≤ span.start ∧ span.start < last.stop := by omega
  obtain rfl := joined.eq_of_covering member other covered ⟨Nat.le_refl _, nonempty⟩
  omega

theorem free_take_iff {rules : List Rule} {chars : List Char} {index : Nat} {interval : Interval} :
    Taken.free (Taken.ofRules (rules.take index) chars) interval = true ↔
      ∀ earlier < index, ∀ item, Taken.TakenBy rules chars earlier item → item.interval.overlaps interval = false := by
  rw [Taken.free_iff]
  constructor
  · intro free earlier below item taken
    exact free item (Taken.mem_ofRules.mpr ⟨earlier, Taken.takenBy_take.mpr ⟨below, taken⟩⟩)
  · intro free item member
    obtain ⟨earlier, taken⟩ := Taken.mem_ofRules.mp member
    obtain ⟨below, taken⟩ := Taken.takenBy_take.mp taken
    exact free earlier below item taken

theorem ofTaken_mem {rules : List Rule} {line : String} {index : Nat} {item : Taken}
    (taken : Taken.TakenBy rules line.toList index item) : ofTaken line.toList item ∈ ofLine rules line := by
  obtain ⟨rule, _, kind, _⟩ := taken.rule
  have notPlain : item.kind ≠ .plain := kind ▸ rule.kind_ne_plain
  exact (mem_ofLine notPlain).mpr ⟨index, item, taken, rfl⟩

section Kinds

variable {rules : List Rule} (distinct : (rules.map (·.kind)).Nodup)
include distinct

theorem index_of_kind {left right : Nat} {leftRule rightRule : Rule} (leftFound : rules[left]? = some leftRule)
    (rightFound : rules[right]? = some rightRule) (same : leftRule.kind = rightRule.kind) :
    left = right ∧ leftRule = rightRule := by
  have inside : left < (rules.map (·.kind)).length := by
    simpa using (List.getElem?_eq_some_iff.mp leftFound).1
  have kinds : (rules.map (·.kind))[left]? = (rules.map (·.kind))[right]? := by
    rw [List.getElem?_map, List.getElem?_map, leftFound, rightFound, Option.map_some, Option.map_some, same]
  obtain rfl := (List.getElem?_inj inside distinct).mp kinds
  exact ⟨rfl, Option.some.inj (leftFound.symm.trans rightFound)⟩

/-- Where rules have different kinds, the spans of a kind are what its rule finds and no earlier rule has met. -/
theorem mem_ofLine_of_kind {index : Nat} {rule : Rule} (found : rules[index]? = some rule) {line : String}
    {span : Span} :
    span ∈ ofLine rules line ∧ span.kind = rule.kind ↔
      ∃ interval, Taken.TakenBy rules line.toList index ⟨interval, rule.kind⟩ ∧
        span = ofTaken line.toList ⟨interval, rule.kind⟩ := by
  constructor
  · rintro ⟨member, kind⟩
    obtain ⟨place, item, taken, rfl⟩ := (mem_ofLine (kind ▸ rule.kind_ne_plain)).mp member
    obtain ⟨other, otherFound, same, _⟩ := taken.rule
    obtain ⟨rfl, rfl⟩ := index_of_kind distinct otherFound found (same.symm.trans kind)
    obtain ⟨interval, kind'⟩ := item
    cases same
    exact ⟨interval, taken, rfl⟩
  · rintro ⟨interval, taken, rfl⟩
    exact ⟨ofTaken_mem taken, rfl⟩

end Kinds

theorem takenBy_zero {rule : Rule} {rest : List Rule} {chars : List Char} {interval : Interval} :
    Taken.TakenBy (rule :: rest) chars 0 ⟨interval, rule.kind⟩ ↔ interval ∈ rule.intervals chars := by
  constructor
  · intro taken
    obtain ⟨other, found, _, finds⟩ := taken.rule
    cases found
    exact finds
  · intro finds
    exact ⟨⟨rule, rfl, rfl, finds⟩, rfl⟩

theorem filter_ofLine_first {rule : Rule} {rest : List Rule} (distinct : ((rule :: rest).map (·.kind)).Nodup)
    (line : String) :
    (ofLine (rule :: rest) line).filter (·.kind = rule.kind) =
      (rule.intervals line.toList).map fun interval => ofTaken line.toList ⟨interval, rule.kind⟩ := by
  have asymm : Std.Antisymm fun left right : Span => left.start < right.start :=
    ⟨fun left right before after => absurd before (Nat.lt_asymm after)⟩
  have irrefl : Std.Irrefl fun left right : Span => left.start < right.start := ⟨fun span => Nat.lt_irrefl span.start⟩
  refine ((pairwise_start_lt (rule :: rest) line).filter _).eq_of_mem_iff ?_ ?_
  · refine List.pairwise_map.mpr ((Pattern.intervals_ordered rule.pattern line.toList).imp_of_mem ?_)
    intro left right _ rightMember ordered
    have nonempty := left.start_lt_stop
    have inside := Pattern.stop_le_of_mem_intervals rightMember
    have rightNonempty := right.start_lt_stop
    have starts : left.start < right.start := by omega
    have within : right.start ≤ line.toList.length := by omega
    exact utf8Length_take_lt line.toList starts within
  · intro span
    rw [List.mem_filter, List.mem_map, decide_eq_true_eq, mem_ofLine_of_kind distinct List.getElem?_cons_zero]
    refine exists_congr fun interval => ?_
    rw [takenBy_zero, eq_comm]

end Span

end Highlighter
