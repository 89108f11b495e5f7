import Highlighter.Proofs.Span.Origin

/-!
Rules without effect. A rule that takes nothing of a line can be left out. That is so of a rule that finds nothing but
what an earlier one finds: either the earlier rule has taken it, or it met something that was taken before and is.
-/

namespace Highlighter

/-- Nothing that the rule with a number finds in the line is taken. -/
def Idle (rules : List Rule) (line : String) (index : Nat) : Prop := ∀ range, ¬Wins rules line index range

def Rule.FindsWithin (rule other : Rule) (line : String) : Prop :=
  ∀ range ∈ rule.byteRanges line, range ∈ other.byteRanges line

instance (rule other : Rule) (line : String) : Decidable (rule.FindsWithin other line) :=
  inferInstanceAs (Decidable (∀ _ ∈ _, _))

theorem Rule.findsWithin_of_pattern {rule other : Rule} (same : rule.pattern = other.pattern) (line : String) :
    rule.FindsWithin other line := by
  intro range member
  rwa [byteRanges_of_pattern same] at member

theorem lt_of_mem_byteRanges {rule : Rule} {line : String} {range : Nat × Nat} (member : range ∈ rule.byteRanges line) :
    range.1 < range.2 := by
  obtain ⟨interval, found, rfl⟩ := List.mem_map.mp member
  exact ByteMarks.bytes_lt (Pattern.stop_le_of_mem_intervals found)

theorem not_wins_of_earlier {rules : List Rule} {line : String} {earlier index : Nat} {range : Nat × Nat}
    (below : earlier < index) (finds : ∃ rule ∈ rules[earlier]?, range ∈ rule.byteRanges line) :
    ¬Wins rules line index range := by
  intro wins
  rw [Wins] at wins
  by_cases earlierWins : Wins rules line earlier range
  · obtain ⟨rule, _, member⟩ := finds
    have nonempty := lt_of_mem_byteRanges member
    exact wins.2 earlier below range earlierWins ⟨range.1, ⟨Nat.le_refl _, nonempty⟩, Nat.le_refl _, nonempty⟩
  · rw [Wins] at earlierWins
    push Not at earlierWins
    obtain ⟨first, before, other, otherWins, shared⟩ := earlierWins finds
    exact wins.2 first (Nat.lt_trans before below) other otherWins shared

theorem idle_of_findsWithin {rules : List Rule} {line : String} {earlier index : Nat} {rule shadowed : Rule}
    (below : earlier < index) (found : rules[earlier]? = some rule) (foundShadowed : rules[index]? = some shadowed)
    (within : shadowed.FindsWithin rule line) : Idle rules line index := by
  intro range wins
  have finds : ∃ other ∈ rules[index]?, range ∈ other.byteRanges line := by
    rw [Wins] at wins
    exact wins.1
  obtain ⟨other, same, member⟩ := finds
  cases foundShadowed.symm.trans same
  exact not_wins_of_earlier below ⟨rule, found, within range member⟩ wins

section Idle

variable {before after : List Rule} {rule : Rule} {line : String}

theorem idle_iff : Idle (before ++ rule :: after) line before.length ↔
    ∀ interval ∈ rule.intervals line.toList, Taken.free (Taken.ofRules before line.toList) interval = false := by
  have found : (before ++ rule :: after)[before.length]? = some rule := by simp
  have front : (before ++ rule :: after).take before.length = before := List.take_left
  constructor
  · intro idle interval member
    rw [← Bool.not_eq_true]
    intro available
    have taken : Taken.TakenBy (before ++ rule :: after) line.toList before.length ⟨interval, rule.kind⟩ :=
      ⟨⟨rule, found, rfl, member⟩, by rwa [front]⟩
    exact idle (interval.bytes line.toList) (wins_iff.mpr ⟨_, taken, rfl⟩)
  · intro blocked range wins
    obtain ⟨item, taken, _⟩ := wins_iff.mp wins
    obtain ⟨other, same, _, member⟩ := taken.rule
    cases found.symm.trans same
    have available := taken.free
    rw [front, blocked item.interval member] at available
    cases available

theorem Taken.addRule_of_idle (idle : Idle (before ++ rule :: after) line before.length) :
    addRule line.toList (ofRules before line.toList) rule = ofRules before line.toList := by
  have none : (rule.intervals line.toList).filter (free (ofRules before line.toList)) = [] := by
    rw [List.filter_eq_nil_iff]
    intro interval member
    rw [idle_iff.mp idle interval member]
    exact Bool.false_ne_true
  rw [addRule_eq, none]
  rfl

theorem Span.ofLine_of_idle (idle : Idle (before ++ rule :: after) line before.length) :
    ofLine (before ++ rule :: after) line = ofLine (before ++ after) line := by
  have unchanged := Taken.addRule_of_idle idle
  unfold Taken.ofRules at unchanged
  simp only [ofLine, Taken.ofRules, List.foldl_append, List.foldl_cons, unchanged]

end Idle

namespace Span

theorem ofLine_of_findsWithin {rule shadowed : Rule} {line : String} (within : shadowed.FindsWithin rule line)
    (before between after : List Rule) :
    ofLine (before ++ rule :: between ++ shadowed :: after) line =
      ofLine (before ++ rule :: between ++ after) line := by
  have below : before.length < (before ++ rule :: between).length := by simp
  exact ofLine_of_idle (idle_of_findsWithin below (by simp) (by simp) within)

/-- A rule that takes nothing can be left out. So can a rule that finds nothing but what an earlier one finds, and so
a second rule with the pattern of an earlier one, whatever its kind and whether or not the earlier one takes it. -/
theorem ofLine_without_idle (line : String) :
    (∀ before rule after, Idle (before ++ rule :: after) line before.length →
      ofLine (before ++ rule :: after) line = ofLine (before ++ after) line) ∧
    (∀ before rule between shadowed after, shadowed.FindsWithin rule line →
      ofLine (before ++ rule :: between ++ shadowed :: after) line =
        ofLine (before ++ rule :: between ++ after) line) ∧
    ∀ before rule between shadowed after, shadowed.pattern = rule.pattern →
      ofLine (before ++ rule :: between ++ shadowed :: after) line =
        ofLine (before ++ rule :: between ++ after) line :=
  ⟨fun _ _ _ => ofLine_of_idle,
    fun before _ between _ after within => ofLine_of_findsWithin within before between after,
    fun before _ between _ after same =>
      ofLine_of_findsWithin (Rule.findsWithin_of_pattern same line) before between after⟩

/-- The first rule keeps the second one from one of its two numbers. The third finds a part of the other number, and
what the last one finds are those two numbers. -/
theorem ofLine_without_idle_numbers : ∃ inner digits part long,
    (Rule.ofSource .number "23" = .ok inner ∧ Rule.ofSource .keyword "[0-9]+" = .ok digits ∧
      Rule.ofSource .operator "6" = .ok part ∧ Rule.ofSource .comment "[0-9][0-9]+" = .ok long) ∧
    Idle [inner, digits, part, long] "1234 56" 2 ∧ long.FindsWithin digits "1234 56" ∧
    ofLine [inner, digits, part, long] "1234 56" = ofLine [inner, digits] "1234 56" := by
  have known : ∃ inner digits part long,
      (Rule.ofSource .number "23" = .ok inner ∧ Rule.ofSource .keyword "[0-9]+" = .ok digits ∧
        Rule.ofSource .operator "6" = .ok part ∧ Rule.ofSource .comment "[0-9][0-9]+" = .ok long) ∧
      (∀ interval ∈ part.intervals "1234 56".toList,
        Taken.free (Taken.ofRules [inner, digits] "1234 56".toList) interval = false) ∧
      long.FindsWithin digits "1234 56" :=
    ⟨_, _, _, _, ⟨rfl, rfl, rfl, rfl⟩, by decide +kernel, by decide +kernel⟩
  obtain ⟨inner, digits, part, long, sources, blocked, within⟩ := known
  have idle : Idle ([inner, digits] ++ part :: [long]) "1234 56" [inner, digits].length := idle_iff.mpr blocked
  obtain ⟨without, withoutShadowed, _⟩ := ofLine_without_idle "1234 56"
  exact ⟨inner, digits, part, long, sources, idle, within,
    (without [inner, digits] part [long] idle).trans (withoutShadowed [inner] digits [] long [] within)⟩

end Span

end Highlighter
