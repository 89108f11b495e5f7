import Highlighter.Proofs.Span.Partition

/-!
The precedence of rules. A range that a rule finds wins if it shares no byte with one that has won for an earlier
rule, and the spans of a line other than plain text are the ranges that win: each of them whole, with the kind of its
rule, and none joined to another.
-/

namespace Highlighter

def SharesByte (left right : Nat × Nat) : Prop :=
  ∃ byte, (left.1 ≤ byte ∧ byte < left.2) ∧ right.1 ≤ byte ∧ byte < right.2

/-- The rule with a number finds the range, which shares no byte with one that wins for an earlier rule. -/
def Wins (rules : List Rule) (line : String) (index : Nat) (range : Nat × Nat) : Prop :=
  (∃ rule ∈ rules[index]?, range ∈ rule.byteRanges line) ∧
    ∀ earlier < index, ∀ other, Wins rules line earlier other → ¬SharesByte other range
termination_by index

namespace Taken

theorem takenBy_take {rules : List Rule} {line : List Char} {count index : Nat} {item : Taken} :
    TakenBy (rules.take count) line index item ↔ index < count ∧ TakenBy rules line index item := by
  constructor
  · rintro ⟨⟨rule, found, kind, member⟩, available⟩
    have below : index < count := by
      have bound := (List.getElem?_eq_some_iff.mp found).1
      rw [List.length_take] at bound
      omega
    rw [List.getElem?_take_of_lt below] at found
    rw [List.take_take, Nat.min_eq_left (Nat.le_of_lt below)] at available
    exact ⟨below, ⟨rule, found, kind, member⟩, available⟩
  · rintro ⟨below, ⟨rule, found, kind, member⟩, available⟩
    refine ⟨⟨rule, ?_, kind, member⟩, ?_⟩
    · rw [List.getElem?_take_of_lt below]
      exact found
    · rwa [List.take_take, Nat.min_eq_left (Nat.le_of_lt below)]

theorem stop_le_of_takenBy {rules : List Rule} {line : List Char} {index : Nat} {item : Taken}
    (taken : TakenBy rules line index item) : item.interval.stop ≤ line.length := by
  obtain ⟨_, _, _, member⟩ := taken.rule
  exact Pattern.stop_le_of_mem_intervals member

theorem eq_of_takenBy {rules : List Rule} {line : List Char} {left right : Nat} {leftItem rightItem : Taken}
    (leftTaken : TakenBy rules line left leftItem) (rightTaken : TakenBy rules line right rightItem)
    (overlap : leftItem.interval.overlaps rightItem.interval = true) : left = right ∧ leftItem = rightItem := by
  have earlier {first last : Nat} {firstItem lastItem : Taken} (firstTaken : TakenBy rules line first firstItem)
      (lastTaken : TakenBy rules line last lastItem)
      (overlap : firstItem.interval.overlaps lastItem.interval = true) : ¬first < last := by
    intro below
    have member := mem_ofRules.mpr ⟨first, takenBy_take.mpr ⟨below, firstTaken⟩⟩
    have missed := free_iff.mp lastTaken.free firstItem member
    rw [missed] at overlap
    cases overlap
  have notLeft := earlier leftTaken rightTaken overlap
  have notRight := earlier rightTaken leftTaken (by rw [Interval.overlaps_comm]; exact overlap)
  exact ⟨by omega, (valid_ofRules rules line).eq_of_overlaps (mem_ofRules.mpr ⟨left, leftTaken⟩)
    (mem_ofRules.mpr ⟨right, rightTaken⟩) overlap⟩

end Taken

/-- What wins is what is taken, measured in bytes. -/
theorem wins_iff {rules : List Rule} {line : String} {index : Nat} {range : Nat × Nat} :
    Wins rules line index range ↔
      ∃ item, Taken.TakenBy rules line.toList index item ∧ item.interval.bytes line.toList = range := by
  induction index using Nat.strong_induction_on generalizing range with
  | _ index ih =>
    rw [Wins]
    constructor
    · rintro ⟨⟨rule, found, ranges⟩, unmet⟩
      obtain ⟨interval, member, rfl⟩ := List.mem_map.mp ranges
      refine ⟨⟨interval, rule.kind⟩, ⟨⟨rule, found, rfl, member⟩, ?_⟩, rfl⟩
      refine Taken.free_iff.mpr fun other earlier => ?_
      obtain ⟨place, taken⟩ := Taken.mem_ofRules.mp earlier
      obtain ⟨below, taken⟩ := Taken.takenBy_take.mp taken
      rw [← Bool.not_eq_true, ByteMarks.overlaps_iff_bytes (Pattern.stop_le_of_mem_intervals member)
        (Taken.stop_le_of_takenBy taken)]
      exact unmet place below _ ((ih place below).mpr ⟨other, taken, rfl⟩)
    · rintro ⟨item, ⟨⟨rule, found, kind, member⟩, available⟩, rfl⟩
      refine ⟨⟨rule, found, List.mem_map.mpr ⟨item.interval, member, rfl⟩⟩, ?_⟩
      intro place below other wins shared
      obtain ⟨earlier, taken, rfl⟩ := (ih place below).mp wins
      have inEarlier := Taken.mem_ofRules.mpr ⟨place, Taken.takenBy_take.mpr ⟨below, taken⟩⟩
      have overlap := (ByteMarks.overlaps_iff_bytes (Pattern.stop_le_of_mem_intervals member)
        (Taken.stop_le_of_takenBy taken)).mpr shared
      rw [Taken.free_iff.mp available earlier inEarlier] at overlap
      cases overlap

namespace ByteMarks

/-- In the turn of a rule marks accept the ranges that win for it, behind those accepted before, and the marks set
after it are the bytes of all that is accepted. -/
def AcceptsWinners (rules : List Rule) (line : String) (index : Nat) (rule : Rule) : Prop :=
  ∃ before after added, ofRules? (rules.take index) line = some before ∧
    ofRules? (rules.take (index + 1)) line = some after ∧
    after.accepted = before.accepted ++ added ∧
    (∀ item, item ∈ added ↔ item.kind = rule.kind ∧ Wins rules line index (item.start, item.stop)) ∧
    ∀ byte, after.marks[byte]? = some true ↔ ∃ item ∈ after.accepted, item.start ≤ byte ∧ byte < item.stop

theorem acceptsWinners (rules : List Rule) (line : String) (index : Nat) (rule : Rule)
    (found : rules[index]? = some rule) : AcceptsWinners rules line index rule := by
  have next : Taken.ofRules (rules.take (index + 1)) line.toList =
      Taken.addRule line.toList (Taken.ofRules (rules.take index) line.toList) rule := by
    rw [List.take_add_one, found, Option.toList_some, Taken.ofRules_concat]
  refine ⟨_, _, (((rule.intervals line.toList).filter
    (Taken.free (Taken.ofRules (rules.take index) line.toList))).map (Taken.mk · rule.kind)).map
      (Accepted.ofTaken line.toList), ofRules?_eq _ line, ofRules?_eq _ line, ?_, ?_,
        fun byte => ?_⟩
  · rw [next, Taken.addRule_eq]
    simp [State.ofTaken]
  · intro item
    rw [wins_iff]
    simp only [List.mem_map, List.mem_filter, exists_exists_and_eq_and]
    constructor
    · rintro ⟨interval, ⟨member, available⟩, rfl⟩
      exact ⟨rfl, ⟨interval, rule.kind⟩, ⟨⟨rule, found, rfl, member⟩, available⟩, rfl⟩
    · rintro ⟨kind, other, ⟨⟨same, foundSame, otherKind, member⟩, available⟩, bytes⟩
      cases found.symm.trans foundSame
      refine ⟨other.interval, ⟨member, available⟩, ?_⟩
      obtain ⟨start, stop⟩ := Prod.mk.inj bytes
      simp only [Accepted.ofTaken, Interval.bytes, start, stop, ← kind]
  · rw [State.marks_ofTaken_eq_true_iff (Taken.valid_ofRules _ line.toList).inside]
    simp only [State.ofTaken, List.mem_reverse, List.mem_map, exists_exists_and_eq_and]
    rfl

end ByteMarks

namespace Span

def range (span : Span) : Nat × Nat := (span.start, span.stop)

theorem range_ofTaken {chars : List Char} {item : Taken} :
    (ofTaken chars item).range = item.interval.bytes chars := by
  rw [range, ofTaken, stop_between chars item.kind (Nat.le_of_lt item.interval.start_lt_stop)]
  rfl

theorem mem_ofLine {rules : List Rule} {line : String} {span : Span} (kind : span.kind ≠ .plain) :
    span ∈ ofLine rules line ↔
      ∃ index item, Taken.TakenBy rules line.toList index item ∧ span = ofTaken line.toList item := by
  have division := mem_divideFrom (Taken.between_sorted rules line.toList)
  rw [← ofLine_eq] at division
  constructor
  · intro member
    obtain ⟨item, sorted, same⟩ := (division.2 span member).2.resolve_left kind
    obtain ⟨index, taken⟩ := Taken.mem_ofRules.mp ((Taken.sorted_perm _).mem_iff.mp sorted)
    exact ⟨index, item, taken, same⟩
  · rintro ⟨index, item, taken, rfl⟩
    exact division.1 item ((Taken.sorted_perm _).mem_iff.mpr (Taken.mem_ofRules.mpr ⟨index, taken⟩))

structure FollowsPrecedence (rules : List Rule) (line : String) (spans : List Span) : Prop where
  /-- The spans other than plain text are the ranges that win, each with the kind of the rule that it wins for. -/
  mem_iff : ∀ range kind, kind ≠ .plain →
    ((∃ span ∈ spans, span.range = range ∧ span.kind = kind) ↔
      ∃ index rule, rules[index]? = some rule ∧ rule.kind = kind ∧ Wins rules line index range)
  /-- Ranges that win are apart unless they are one range that wins for one rule. -/
  eq_of_wins : ∀ left leftRange right rightRange, Wins rules line left leftRange →
    Wins rules line right rightRange → SharesByte leftRange rightRange → left = right ∧ leftRange = rightRange
  /-- Each range has one span. -/
  ordered : spans.Pairwise fun left right => left.stop ≤ right.start
  /-- What a rule finds and no span shows as it is meets a span of an earlier rule. -/
  dropped : ∀ index rule range, rules[index]? = some rule → range ∈ rule.byteRanges line →
    (¬∃ span ∈ spans, span.range = range ∧ span.kind = rule.kind) →
      ∃ earlier < index, ∃ span ∈ spans,
        span.kind ≠ .plain ∧ Wins rules line earlier span.range ∧ SharesByte span.range range
  /-- The bytes of plain text are those of no range that wins. -/
  plain_iff : ∀ byte < line.utf8ByteSize,
    (∃ span ∈ spans, span.kind = .plain ∧ span.start ≤ byte ∧ byte < span.stop) ↔
      ¬∃ index range, Wins rules line index range ∧ range.1 ≤ byte ∧ byte < range.2

theorem exists_span_iff {rules : List Rule} {line : String} {range : Nat × Nat} {kind : TokenKind}
    (notPlain : kind ≠ .plain) :
    (∃ span ∈ ofLine rules line, span.range = range ∧ span.kind = kind) ↔
      ∃ index rule, rules[index]? = some rule ∧ rule.kind = kind ∧ Wins rules line index range := by
  constructor
  · rintro ⟨span, member, rfl, rfl⟩
    obtain ⟨index, item, taken, rfl⟩ := (mem_ofLine notPlain).mp member
    obtain ⟨rule, found, same, _⟩ := taken.rule
    exact ⟨index, rule, found, same.symm, wins_iff.mpr ⟨item, taken, range_ofTaken.symm⟩⟩
  · rintro ⟨index, rule, found, rfl, wins⟩
    obtain ⟨item, taken, rfl⟩ := wins_iff.mp wins
    obtain ⟨other, foundOther, same, _⟩ := taken.rule
    cases found.symm.trans foundOther
    refine ⟨ofTaken line.toList item, ?_, range_ofTaken, same⟩
    refine (mem_ofLine ?_).mpr ⟨index, item, taken, rfl⟩
    rw [show (ofTaken line.toList item).kind = rule.kind from same]
    exact notPlain

theorem exists_span_of_wins {rules : List Rule} {line : String} {index : Nat} {range : Nat × Nat}
    (wins : Wins rules line index range) :
    ∃ span ∈ ofLine rules line, span.kind ≠ .plain ∧ span.range = range := by
  obtain ⟨item, taken, rfl⟩ := wins_iff.mp wins
  obtain ⟨rule, _, same, _⟩ := taken.rule
  have notPlain : (ofTaken line.toList item).kind ≠ .plain := by
    rw [show (ofTaken line.toList item).kind = rule.kind from same]
    exact rule.kind_ne_plain
  exact ⟨_, (mem_ofLine notPlain).mpr ⟨index, item, taken, rfl⟩, notPlain, range_ofTaken⟩

theorem followsPrecedence_ofLine (rules : List Rule) (line : String) :
    FollowsPrecedence rules line (ofLine rules line) where
  mem_iff _ _ notPlain := exists_span_iff notPlain
  eq_of_wins := by
    intro left leftRange right rightRange leftWins rightWins shared
    obtain ⟨leftItem, leftTaken, rfl⟩ := wins_iff.mp leftWins
    obtain ⟨rightItem, rightTaken, rfl⟩ := wins_iff.mp rightWins
    have overlap := (ByteMarks.overlaps_iff_bytes (Taken.stop_le_of_takenBy rightTaken)
      (Taken.stop_le_of_takenBy leftTaken)).mpr shared
    obtain ⟨sameRule, rfl⟩ := Taken.eq_of_takenBy leftTaken rightTaken overlap
    exact ⟨sameRule, rfl⟩
  ordered := (contiguous_ofLine rules line).pairwise
  dropped := by
    intro index rule range found ranges unseen
    have loses : ¬Wins rules line index range :=
      fun wins => unseen ((exists_span_iff rule.kind_ne_plain).mpr ⟨index, rule, found, rfl, wins⟩)
    rw [Wins] at loses
    push Not at loses
    obtain ⟨earlier, below, other, wins, shared⟩ := loses ⟨rule, found, ranges⟩
    obtain ⟨span, member, notPlain, rfl⟩ := exists_span_of_wins wins
    exact ⟨earlier, below, span, member, notPlain, wins, shared⟩
  plain_iff := by
    have joined := contiguous_ofLine rules line
    intro byte inside
    constructor
    · rintro ⟨span, member, plain, covered⟩ ⟨index, range, wins, within⟩
      obtain ⟨other, otherMember, notPlain, rfl⟩ := exists_span_of_wins wins
      exact notPlain (joined.eq_of_covering member otherMember covered within ▸ plain)
    · intro free
      obtain ⟨span, member, covered⟩ := joined.exists_covering (Nat.zero_le _) inside
      refine ⟨span, member, ?_, covered⟩
      by_contra notPlain
      obtain ⟨index, _, _, _, wins⟩ := (exists_span_iff notPlain).mp ⟨span, member, rfl, rfl⟩
      exact free ⟨index, span.range, wins, covered⟩

/-- Marks on bytes and lists of stretches give one division, and it is the one that the precedence of rules asks
for: marks accept in the turn of each rule what wins for it, and the spans show what wins and no more. -/
theorem ofLine_precedence (order : ByteMarks.StartOrder) (rules : List Rule) (line : String) :
    ByteMarks.spans? order rules line = some (ofLine rules line) ∧
      (∀ index rule, rules[index]? = some rule → ByteMarks.AcceptsWinners rules line index rule) ∧
        FollowsPrecedence rules line (ofLine rules line) :=
  ⟨ByteMarks.spans?_eq order rules line, ByteMarks.acceptsWinners rules line, followsPrecedence_ofLine rules line⟩

end Span

end Highlighter
