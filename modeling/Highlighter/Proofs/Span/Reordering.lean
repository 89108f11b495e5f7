import Highlighter.Proofs.Span.Origin

/-!
Rules in another order. Whether a rule takes what it finds depends on what rules in front of it take of the same bytes,
so the order of two rules matters in a line only if they find ranges there that share a byte.
-/

namespace Highlighter

instance (left right : Nat × Nat) : Decidable (SharesByte left right) :=
  decidable_of_iff (max left.1 right.1 < min left.2 right.2)
    ⟨fun shared => ⟨max left.1 right.1, by omega⟩, fun ⟨byte, shared⟩ => by omega⟩

/-- The same rules in two orders: where each rule of the one list stands in the other. -/
structure Reordering (left right : List Rule) where
  place : Fin left.length ≃ Fin right.length
  rule_eq : ∀ index, right[place index] = left[index]

/-- Rules of which the one goes before the other in the first order and behind it in the second find no ranges of the
line that share a byte. -/
def Reordering.ExchangesApart {left right : List Rule} (reordering : Reordering left right) (line : String) : Prop :=
  ∀ first second, first < second → reordering.place second < reordering.place first →
    ∀ range ∈ left[first].byteRanges line, ∀ other ∈ left[second].byteRanges line, ¬SharesByte range other

namespace Taken

theorem sorted_eq_of_mem_iff {length : Nat} {left right : List Taken} (leftValid : Valid length left)
    (rightValid : Valid length right) (same : ∀ item, item ∈ left ↔ item ∈ right) : sorted left = sorted right := by
  have irrefl : Std.Irrefl fun left right : Taken => left.interval.stop ≤ right.interval.start :=
    ⟨fun item behind => absurd item.interval.start_lt_stop (Nat.not_lt.mpr behind)⟩
  have asymm : Std.Antisymm fun left right : Taken => left.interval.stop ≤ right.interval.start := by
    refine ⟨fun left right before behind => ?_⟩
    have leftNonempty := left.interval.start_lt_stop
    have rightNonempty := right.interval.start_lt_stop
    omega
  refine (leftToRight_sorted leftValid).eq_of_mem_iff (leftToRight_sorted rightValid) fun item => ?_
  rw [(sorted_perm left).mem_iff, (sorted_perm right).mem_iff, same]

theorem TakenBy.index_lt {rules : List Rule} {chars : List Char} {index : Nat} {item : Taken}
    (taken : TakenBy rules chars index item) : index < rules.length := by
  obtain ⟨rule, found, _⟩ := taken.rule
  exact (List.getElem?_eq_some_iff.mp found).1

/-- The rule with a number takes an interval if it finds it and no rule before it takes one that meets it. -/
theorem takenBy_iff {rules : List Rule} {chars : List Char} {index : Fin rules.length} {item : Taken} :
    TakenBy rules chars index item ↔
      (item.kind = rules[index].kind ∧ item.interval ∈ rules[index].intervals chars) ∧
        ∀ earlier < index, ∀ other, TakenBy rules chars earlier other →
          other.interval.overlaps item.interval = false := by
  have found : rules[index.val]? = some rules[index] := List.getElem?_eq_getElem index.isLt
  constructor
  · rintro ⟨⟨rule, same, finds⟩, free⟩
    cases found.symm.trans same
    exact ⟨finds, fun earlier below => Span.free_take_iff.mp free earlier below⟩
  · rintro ⟨finds, unmet⟩
    refine ⟨⟨rules[index], found, finds⟩, Span.free_take_iff.mpr fun earlier below other taken => ?_⟩
    exact unmet ⟨earlier, taken.index_lt⟩ below other taken

end Taken

namespace Reordering

variable {left right : List Rule} {reordering : Reordering left right} {line : String}
  (apart : reordering.ExchangesApart line)
include apart

theorem overlaps_eq_false {first second : Fin left.length} (below : first < second)
    (exchanged : reordering.place second < reordering.place first) {interval other : Interval}
    (found : interval ∈ left[first].intervals line.toList) (otherFound : other ∈ left[second].intervals line.toList) :
    interval.overlaps other = false := by
  rw [← Bool.not_eq_true, ByteMarks.overlaps_iff_bytes (Pattern.stop_le_of_mem_intervals otherFound)
    (Pattern.stop_le_of_mem_intervals found)]
  exact apart first second below exchanged _ (List.mem_map.mpr ⟨interval, found, rfl⟩) _
    (List.mem_map.mpr ⟨other, otherFound, rfl⟩)

theorem place_lt_iff {first second : Fin left.length} {interval other : Interval}
    (found : interval ∈ left[first].intervals line.toList) (otherFound : other ∈ left[second].intervals line.toList)
    (overlap : interval.overlaps other = true) :
    reordering.place first < reordering.place second ↔ first < second := by
  obtain below | rfl | above := lt_trichotomy first second
  · refine iff_of_true (lt_of_not_ge fun behind => ?_) below
    have different : reordering.place second ≠ reordering.place first :=
      fun same => below.ne' (reordering.place.injective same)
    rw [overlaps_eq_false apart below (lt_of_le_of_ne behind different) found otherFound] at overlap
    cases overlap
  · exact iff_of_false (lt_irrefl _) (lt_irrefl _)
  · refine iff_of_false (fun exchanged => ?_) above.asymm
    rw [Interval.overlaps_comm, overlaps_eq_false apart above exchanged otherFound found] at overlap
    cases overlap

theorem takenBy_place_iff (index : Fin left.length) (item : Taken) :
    Taken.TakenBy right line.toList (reordering.place index) item ↔ Taken.TakenBy left line.toList index item := by
  -- What a rule takes depends on what the rules before it take of its bytes, and these are the same rules.
  induction index using WellFoundedLT.induction generalizing item with
  | _ index ih =>
    rw [Taken.takenBy_iff, Taken.takenBy_iff, reordering.rule_eq]
    refine and_congr_right fun ⟨_, found⟩ => ⟨fun unmet earlier below other taken => ?_,
      fun unmet earlier below other taken => ?_⟩
    · rw [← Bool.not_eq_true]
      intro overlap
      have otherFound := (Taken.takenBy_iff.mp taken).1.2
      have kept := (place_lt_iff apart otherFound found overlap).mpr below
      rw [unmet _ kept other ((ih earlier below other).mpr taken)] at overlap
      cases overlap
    · obtain ⟨first, rfl⟩ := reordering.place.surjective earlier
      rw [← Bool.not_eq_true]
      intro overlap
      have otherFound := (Taken.takenBy_iff.mp taken).1.2
      rw [reordering.rule_eq] at otherFound
      have kept := (place_lt_iff apart otherFound found overlap).mp below
      rw [unmet first kept other ((ih first kept other).mp taken)] at overlap
      cases overlap

theorem mem_ofRules_iff (item : Taken) :
    item ∈ Taken.ofRules left line.toList ↔ item ∈ Taken.ofRules right line.toList := by
  rw [Taken.mem_ofRules, Taken.mem_ofRules]
  constructor
  · rintro ⟨index, taken⟩
    exact ⟨_, (takenBy_place_iff apart ⟨index, taken.index_lt⟩ item).mpr taken⟩
  · rintro ⟨index, taken⟩
    obtain ⟨first, same⟩ := reordering.place.surjective ⟨index, taken.index_lt⟩
    refine ⟨first, (takenBy_place_iff apart first item).mp ?_⟩
    rwa [same]

end Reordering

/-- Two orders of the same rules give a line the same spans, if rules that find ranges of it which share a byte are in
the same order. -/
theorem Span.ofLine_eq_of_reordering {left right : List Rule} (reordering : Reordering left right) {line : String}
    (apart : reordering.ExchangesApart line) : ofLine left line = ofLine right line := by
  have same := Taken.sorted_eq_of_mem_iff (Taken.valid_ofRules left line.toList)
    (Taken.valid_ofRules right line.toList) (Reordering.mem_ofRules_iff apart)
  rw [ofLine, ofLine, same]

/-- Numbers and signs change places in front of a rule that finds a number with a sign. -/
theorem Span.ofLine_eq_of_reordering_signs : ∃ digits sign both,
    (Rule.ofSource .number "[0-9]+" = .ok digits ∧ Rule.ofSource .operator "=" = .ok sign ∧
      Rule.ofSource .keyword "[0-9]=" = .ok both) ∧
    ∃ reordering : Reordering [digits, sign, both] [sign, digits, both],
      reordering.ExchangesApart "12=3=" ∧
        ofLine [digits, sign, both] "12=3=" = ofLine [sign, digits, both] "12=3=" := by
  have known : ∃ digits sign both,
      (Rule.ofSource .number "[0-9]+" = .ok digits ∧ Rule.ofSource .operator "=" = .ok sign ∧
        Rule.ofSource .keyword "[0-9]=" = .ok both) ∧
      ∀ range ∈ digits.byteRanges "12=3=", ∀ other ∈ sign.byteRanges "12=3=", ¬SharesByte range other :=
    ⟨_, _, _, ⟨rfl, rfl, rfl⟩, by decide +kernel⟩
  obtain ⟨digits, sign, both, sources, apart⟩ := known
  let exchange : Reordering [digits, sign, both] [sign, digits, both] :=
    { place := Equiv.swap (0 : Fin 3) 1
      rule_eq := fun | ⟨0, _⟩ => rfl | ⟨1, _⟩ => rfl | ⟨2, _⟩ => rfl }
  have parts : exchange.ExchangesApart "12=3=" := by
    intro first second below exchanged
    obtain ⟨rfl, rfl⟩ : first = (0 : Fin 3) ∧ second = (1 : Fin 3) := by
      revert first second
      change ∀ first second : Fin 3, first < second →
        Equiv.swap (0 : Fin 3) 1 second < Equiv.swap (0 : Fin 3) 1 first → first = 0 ∧ second = 1
      decide
    exact apart
  exact ⟨digits, sign, both, sources, exchange, parts, ofLine_eq_of_reordering exchange parts⟩

end Highlighter
