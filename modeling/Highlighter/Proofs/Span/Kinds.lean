import Highlighter.Proofs.Span.Origin
import Mathlib.Data.List.Forall2

/-!
The division of a line does not depend on kinds. Rules take stretches by their patterns, and kinds only tell what was
taken, so rules with the same patterns divide a line at the same places, and a span that is not plain text has in both
divisions the kind of the same rule.
-/

namespace Highlighter

namespace Taken

theorem free_eq_of_intervals {taken other : List Taken} (same : taken.map (·.interval) = other.map (·.interval)) :
    free taken = free other := by
  have told (taken : List Taken) :
      free taken = fun interval => !(taken.map (·.interval)).any (·.overlaps interval) := by
    funext interval
    simp [free, Function.comp_def]
  rw [told taken, told other, same]

theorem intervals_addRule (line : List Char) {taken other : List Taken} {rule otherRule : Rule}
    (same : taken.map (·.interval) = other.map (·.interval)) (pattern : rule.pattern = otherRule.pattern) :
    (addRule line taken rule).map (·.interval) = (addRule line other otherRule).map (·.interval) := by
  rw [addRule_eq, addRule_eq, free_eq_of_intervals same, Rule.intervals, Rule.intervals, pattern]
  simp [same, Function.comp_def]

theorem intervals_ofRules {left right : List Rule} (same : left.map (·.pattern) = right.map (·.pattern))
    (line : List Char) : (ofRules left line).map (·.interval) = (ofRules right line).map (·.interval) := by
  unfold ofRules
  suffices run : ∀ taken other : List Taken, taken.map (·.interval) = other.map (·.interval) →
      (left.foldl (addRule line) taken).map (·.interval) = (right.foldl (addRule line) other).map (·.interval) from
    run [] [] rfl
  induction left generalizing right with
  | nil =>
    intro taken other known
    rw [List.map_eq_nil_iff.mp same.symm]
    exact known
  | cons rule rest ih =>
    intro taken other known
    cases right with
    | nil => cases same
    | cons otherRule otherRest =>
      obtain ⟨pattern, patterns⟩ := List.cons.inj same
      exact ih patterns _ _ (intervals_addRule line known pattern)

theorem intervals_sorted (taken : List Taken) :
    (sorted taken).map (·.interval) =
      (taken.map (·.interval)).mergeSort fun left right => decide (left.start ≤ right.start) :=
  List.map_mergeSort fun _ _ _ _ => rfl

end Taken

namespace Span

def segment (span : Span) : Nat × String := (span.start, span.text)

theorem segments_ofText (text : List Char) (kind other : TokenKind) (start : Nat) :
    (ofText text kind start).map segment = (ofText text other start).map segment := by
  unfold ofText
  split <;> rfl

theorem segments_divide {taken other : List Taken} (same : taken.map (·.interval) = other.map (·.interval))
    (index start : Nat) (line : List Char) :
    (divide index start line taken).map segment = (divide index start line other).map segment := by
  induction taken generalizing other index start line with
  | nil => rw [List.map_eq_nil_iff.mp same.symm]
  | cons first rest ih =>
    cases other with
    | nil => cases same
    | cons otherFirst otherRest =>
      obtain ⟨interval, intervals⟩ := List.cons.inj same
      simp only [divide, List.map_append, interval, ih intervals,
        segments_ofText _ first.kind otherFirst.kind]

end Span

section Patterns

variable {left right : List Rule} (same : left.map (·.pattern) = right.map (·.pattern)) {line : String}
include same

theorem Span.segments_ofLine (line : String) :
    (ofLine left line).map segment = (ofLine right line).map segment := by
  refine segments_divide ?_ 0 0 line.toList
  rw [Taken.intervals_sorted, Taken.intervals_sorted, Taken.intervals_ofRules same]

theorem exists_rule_of_patterns {index : Nat} {rule : Rule} (found : left[index]? = some rule) :
    ∃ other, right[index]? = some other ∧ other.pattern = rule.pattern := by
  have patterns := congrArg (·[index]?) same
  simp only [List.getElem?_map, found, Option.map_some] at patterns
  exact Option.map_eq_some_iff.mp patterns.symm

theorem wins_of_patterns {index : Nat} {range : Nat × Nat} (wins : Wins left line index range) :
    Wins right line index range := by
  induction index using Nat.strong_induction_on generalizing left right range with
  | _ index ih =>
    rw [Wins] at wins ⊢
    obtain ⟨⟨rule, found, member⟩, unmet⟩ := wins
    obtain ⟨other, otherFound, pattern⟩ := exists_rule_of_patterns same found
    refine ⟨⟨other, otherFound, ?_⟩, fun earlier below range earlierWins => ?_⟩
    · rwa [Rule.byteRanges_of_pattern pattern]
    · exact unmet earlier below range (ih earlier below same.symm earlierWins)

namespace Span

/-- Two spans have the kinds of the rules with one number, and both win their ranges for these. -/
def SameRule (left right : List Rule) (line : String) (span other : Span) : Prop :=
  ∃ index rule otherRule, left[index]? = some rule ∧ right[index]? = some otherRule ∧
    (span.kind = rule.kind ∧ Wins left line index span.range) ∧
      other.kind = otherRule.kind ∧ Wins right line index other.range

theorem sameRule_of_kind_ne_plain {span other : Span} (member : span ∈ ofLine left line)
    (otherMember : other ∈ ofLine right line) (range : span.range = other.range) (notPlain : span.kind ≠ .plain) :
    SameRule left right line span other := by
  obtain ⟨index, rule, found, kind, wins⟩ := (exists_span_iff notPlain).mp ⟨span, member, rfl, rfl⟩
  obtain ⟨otherRule, otherFound, _⟩ := exists_rule_of_patterns same found
  have otherWins := wins_of_patterns same wins
  obtain ⟨winner, winnerMember, winnerRange, winnerKind⟩ :=
    (exists_span_iff otherRule.kind_ne_plain).mpr ⟨index, otherRule, otherFound, rfl, otherWins⟩
  have places := Prod.mk.inj (winnerRange.trans range)
  have nonempty := start_lt_stop otherMember
  have covered : winner.start ≤ other.start ∧ other.start < winner.stop := by omega
  have winnerIsOther := (contiguous_ofLine right line).eq_of_covering winnerMember otherMember covered
    ⟨Nat.le_refl _, nonempty⟩
  exact ⟨index, rule, otherRule, found, otherFound, ⟨kind.symm, wins⟩, winnerIsOther ▸ winnerKind, range ▸ otherWins⟩

/-- Two spans of a line, divided by two lists of rules: the same text at the same place, plain in both or with the
kinds of the same rule. -/
structure Corresponds (left right : List Rule) (line : String) (span other : Span) : Prop where
  start_eq : span.start = other.start
  text_eq : span.text = other.text
  kinds : span.kind = .plain ∧ other.kind = .plain ∨ SameRule left right line span other

theorem corresponds_of_mem {span other : Span} (member : span ∈ ofLine left line)
    (otherMember : other ∈ ofLine right line) (segment : span.segment = other.segment) :
    Corresponds left right line span other := by
  obtain ⟨start, text⟩ := Prod.mk.inj segment
  have range : span.range = other.range := by rw [Span.range, Span.range, stop, stop, start, text]
  refine ⟨start, text, ?_⟩
  by_cases plain : span.kind = .plain
  · by_cases otherPlain : other.kind = .plain
    · exact .inl ⟨plain, otherPlain⟩
    · obtain ⟨index, otherRule, rule, otherFound, found, otherWins, wins⟩ :=
        sameRule_of_kind_ne_plain same.symm otherMember member range.symm otherPlain
      exact .inr ⟨index, rule, otherRule, found, otherFound, wins, otherWins⟩
  · exact .inr (sameRule_of_kind_ne_plain same member otherMember range plain)

theorem corresponds_ofLine (line : String) :
    List.Forall₂ (Corresponds left right line) (ofLine left line) (ofLine right line) := by
  have segments := segments_ofLine same line
  have pointwise : List.Forall₂ (fun span other : Span => span.segment = other.segment) (ofLine left line)
      (ofLine right line) := by
    rw [← List.forall₂_eq_eq_eq] at segments
    exact List.forall₂_map_right_iff.mp (List.forall₂_map_left_iff.mp segments)
  obtain ⟨length, paired⟩ := List.forall₂_iff_zip.mp pointwise
  refine List.forall₂_iff_zip.mpr ⟨length, fun pair => ?_⟩
  obtain ⟨member, otherMember⟩ := List.of_mem_zip pair
  exact corresponds_of_mem same member otherMember (paired pair)

end Span

end Patterns

end Highlighter
