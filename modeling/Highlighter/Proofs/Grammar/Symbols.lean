import Highlighter.Proofs.Grammar.Classification

/-!
Operators, brackets and separators among the spans of a line. The built-in grammars find each run of operator signs
and each bracket or separator that meets no string and no comment, since the rules of words find no such signs.
-/

namespace Highlighter.Grammar

open Pattern Text Unicode

/-- The spans of a line show its operators, brackets and separators. -/
structure ShowsSymbols (line : String) (spans : List Span) : Prop where
  /-- The operators are the runs of operator signs, as long as can be, outside strings and comments. -/
  operator : ∀ span, span ∈ spans ∧ span.kind = .operator ↔
    ∃ before run after, IsRun (· ∈ operatorSigns) line.toList before run after ∧
      IsCode spans (utf8Length before, utf8Length (before ++ run)) ∧
        span = ⟨.ofList run, .operator, utf8Length before⟩
  /-- An operator that meets a run is the whole run. -/
  unsplit : ∀ before run after, IsRun (· ∈ operatorSigns) line.toList before run after → ∀ span ∈ spans,
    span.kind = .operator → SharesByte span.range (utf8Length before, utf8Length (before ++ run)) →
      span = ⟨.ofList run, .operator, utf8Length before⟩
  /-- No operator begins where another one ends. -/
  apart : ∀ left ∈ spans, ∀ right ∈ spans, left.kind = .operator → right.kind = .operator → left.stop ≠ right.start
  /-- The brackets and separators outside strings and comments stand by themselves. -/
  separator : ∀ span, span ∈ spans ∧ span.kind = .punctuation ↔
    ∃ before sign after, line.toList = before ++ [sign] ++ after ∧ sign ∈ separatorSigns ∧
      IsCode spans (utf8Length before, utf8Length (before ++ [sign])) ∧
        span = ⟨.ofList [sign], .punctuation, utf8Length before⟩
  /-- Each of them is a span once. -/
  nodup : spans.Nodup

def ruleSort : Nat → Char → Prop
  | 5, char => char ∈ operatorSigns
  | 6, char => char ∈ separatorSigns
  | _, char => CharClass.word.contains char = true

theorem ruleSort_of_le {index : Nat} (last : index ≤ 4) (char : Char) :
    ruleSort index char ↔ CharClass.word.contains char = true := by
  obtain rfl | rfl | rfl | rfl | rfl : index = 0 ∨ index = 1 ∨ index = 2 ∨ index = 3 ∨ index = 4 := by omega
  all_goals exact Iff.rfl

theorem not_ruleSort_of_lt {earlier index : Nat} (signs : index = 5 ∨ index = 6) (below : earlier < index) (char : Char)
    (inside : ruleSort earlier char) : ¬ruleSort index char := by
  have disjoint : operatorSigns.all (· ∉ separatorSigns) = true := by decide
  obtain words | rfl : earlier ≤ 4 ∨ earlier = 5 := by omega
  · intro sign
    have unworded : CharClass.word.contains char = false := by
      obtain rfl | rfl := signs
      · exact Language.not_word_of_operator sign
      · exact Language.not_word_of_separator sign
    rw [(ruleSort_of_le words char).mp inside] at unworded
    cases unworded
  · obtain rfl : index = 6 := by omega
    have unseparated : char ∉ separatorSigns := of_decide_eq_true (List.all_eq_true.mp disjoint char inside)
    exact unseparated

namespace Language

variable (language : Language)

theorem findsOnly {index : Nat} {rule : Rule} (found : language.rules[index]? = some rule) (first : 2 ≤ index) :
    rule.FindsOnly (ruleSort index) := by
  have bound : index < 7 := (List.getElem?_eq_some_iff.mp found).1
  obtain words | rfl | rfl : index ≤ 4 ∨ index = 5 ∨ index = 6 := by omega
  · intro text interval member place above below
    obtain ⟨before, word, after, isWord, _, rfl⟩ := (language.takesWords found first words text interval).mp member
    obtain ⟨char, known, inside⟩ := isWord.isRun.exists_getElem? above below
    exact ⟨char, known, (ruleSort_of_le words char).mpr inside⟩
  · cases found
    exact findsOnly_operator
  · cases found
    exact findsOnly_separator

section Line

variable {line : String}

/-- What a rule of signs finds outside strings and comments is taken, since the rules in between find other sorts. -/
theorem takenBy_of_isCode {index : Nat} {rule : Rule} (found : language.rules[index]? = some rule)
    (signs : index = 5 ∨ index = 6) {interval : Interval} (finds : interval ∈ rule.intervals line.toList)
    (code : IsCode (Span.ofLine language.rules line) (interval.bytes line.toList)) :
    Taken.TakenBy language.rules line.toList index ⟨interval, rule.kind⟩ := by
  refine ⟨⟨rule, found, rfl, finds⟩, Span.free_take_iff.mpr fun earlier below item taken => ?_⟩
  by_cases special : earlier < 2
  · exact language.overlaps_eq_false_of_isCode (stop_le_of_mem_intervals finds) code earlier special item taken
  · obtain ⟨other, otherFound, _, otherFinds⟩ := taken.rule
    have only := language.findsOnly found (by omega)
    have otherOnly := language.findsOnly otherFound (by omega)
    exact otherOnly.overlaps_eq_false only (not_ruleSort_of_lt signs below) otherFinds finds

theorem mem_signs_iff {index : Nat} {rule : Rule} (found : language.rules[index]? = some rule)
    (signs : index = 5 ∨ index = 6) {span : Span} :
    span ∈ Span.ofLine language.rules line ∧ span.kind = rule.kind ↔
      ∃ interval ∈ rule.intervals line.toList,
        IsCode (Span.ofLine language.rules line) (interval.bytes line.toList) ∧
          span = Span.ofTaken line.toList ⟨interval, rule.kind⟩ := by
  have code : rule.kind ≠ .string ∧ rule.kind ≠ .comment := by
    obtain rfl | rfl := signs
    all_goals
      cases found
      exact ⟨by decide, by decide⟩
  constructor
  · intro known
    obtain ⟨interval, taken, same⟩ := (Span.mem_ofLine_of_kind language.distinct_kinds found).mp known
    obtain ⟨other, otherFound, _, finds⟩ := taken.rule
    cases otherFound.symm.trans found
    refine ⟨interval, finds, ?_, same⟩
    have range : span.range = interval.bytes line.toList := by rw [same, Span.range_ofTaken]
    exact range ▸ isCode_of_mem known.1 (known.2 ▸ code)
  · rintro ⟨interval, finds, outside, rfl⟩
    exact ⟨Span.ofTaken_mem (language.takenBy_of_isCode found signs finds outside), rfl⟩

theorem mem_operator_iff {span : Span} :
    span ∈ Span.ofLine language.rules line ∧ span.kind = .operator ↔
      ∃ before run after, IsRun (· ∈ operatorSigns) line.toList before run after ∧
        IsCode (Span.ofLine language.rules line) (utf8Length before, utf8Length (before ++ run)) ∧
          span = ⟨.ofList run, .operator, utf8Length before⟩ := by
  have found : language.rules[5]? = some operatorRule := rfl
  refine (language.mem_signs_iff found (.inl rfl)).trans ⟨?_, ?_⟩
  · rintro ⟨interval, finds, code, rfl⟩
    obtain ⟨before, run, after, isRun, rfl⟩ := mem_intervals_operator.mp finds
    rw [isRun.splits.bytes_eq] at code
    exact ⟨before, run, after, isRun, code, ofTaken_eq isRun.splits _⟩
  · rintro ⟨before, run, after, isRun, code, rfl⟩
    refine ⟨isRun.interval, mem_intervals_operator.mpr ⟨before, run, after, isRun, rfl⟩, ?_, ?_⟩
    · rwa [isRun.splits.bytes_eq]
    · exact (ofTaken_eq isRun.splits _).symm

theorem mem_separator_iff {span : Span} :
    span ∈ Span.ofLine language.rules line ∧ span.kind = .punctuation ↔
      ∃ before sign after, line.toList = before ++ [sign] ++ after ∧ sign ∈ separatorSigns ∧
        IsCode (Span.ofLine language.rules line) (utf8Length before, utf8Length (before ++ [sign])) ∧
          span = ⟨.ofList [sign], .punctuation, utf8Length before⟩ := by
  have found : language.rules[6]? = some separatorRule := rfl
  refine (language.mem_signs_iff found (.inr rfl)).trans ⟨?_, ?_⟩
  · rintro ⟨interval, finds, code, rfl⟩
    obtain ⟨before, sign, after, member, splits⟩ := mem_intervals_separator.mp finds
    rw [splits.bytes_eq] at code
    exact ⟨before, sign, after, splits.split, member, code, ofTaken_eq splits _⟩
  · rintro ⟨before, sign, after, split, member, code, rfl⟩
    let interval : Interval := ⟨before.length, before.length + 1, Nat.lt_succ_self _⟩
    have splits : interval.Splits line.toList before [sign] after := ⟨split, rfl, rfl⟩
    refine ⟨interval, mem_intervals_separator.mpr ⟨before, sign, after, member, splits⟩, ?_, ?_⟩
    · rwa [splits.bytes_eq]
    · exact (ofTaken_eq splits _).symm

end Line

end Language

section Runs

variable {line : String} {before run after otherBefore otherRun otherAfter : List Char}
  (isRun : IsRun (· ∈ operatorSigns) line.toList before run after)
  (other : IsRun (· ∈ operatorSigns) line.toList otherBefore otherRun otherAfter)
include isRun other

theorem eq_of_sharesByte (shared : SharesByte (utf8Length before, utf8Length (before ++ run))
    (utf8Length otherBefore, utf8Length (otherBefore ++ otherRun))) :
    before = otherBefore ∧ run = otherRun ∧ after = otherAfter := by
  rw [← isRun.splits.bytes_eq, ← other.splits.bytes_eq] at shared
  exact isRun.eq_of_overlaps other
    ((ByteMarks.overlaps_iff_bytes other.splits.stop_le isRun.splits.stop_le).mpr shared)

theorem utf8Length_ne_of_isRun : utf8Length (before ++ run) ≠ utf8Length otherBefore := by
  intro same
  rw [← isRun.splits.take_stop, ← other.splits.take_start] at same
  have otherNonempty := other.interval.start_lt_stop
  have otherBound := Nat.le_trans (Nat.le_of_lt otherNonempty) other.splits.stop_le
  have meet : before.length + run.length = otherBefore.length :=
    eq_of_utf8Length_take_eq line.toList isRun.splits.stop_le otherBound same
  obtain ⟨sign, known, inside⟩ := other.exists_getElem? (Nat.le_refl _) otherNonempty
  rw [← meet] at known
  exact isRun.not_of_getElem?_after known inside

end Runs

theorem Language.showsSymbols (language : Language) (line : String) :
    ShowsSymbols line (Span.ofLine language.rules line) where
  operator _ := language.mem_operator_iff
  unsplit := by
    intro before run after isRun span member kind shared
    obtain ⟨otherBefore, otherRun, otherAfter, other, _, rfl⟩ := language.mem_operator_iff.mp ⟨member, kind⟩
    obtain ⟨rfl, rfl, _⟩ := eq_of_sharesByte other isRun (by simpa [Span.range, Span.stop] using shared)
    rfl
  apart := by
    intro left leftMember right rightMember leftKind rightKind
    obtain ⟨before, run, after, isRun, _, rfl⟩ := language.mem_operator_iff.mp ⟨leftMember, leftKind⟩
    obtain ⟨otherBefore, otherRun, otherAfter, other, _, rfl⟩ := language.mem_operator_iff.mp ⟨rightMember, rightKind⟩
    simpa [Span.stop] using utf8Length_ne_of_isRun isRun other
  separator _ := language.mem_separator_iff
  nodup := (Span.pairwise_start_lt language.rules line).imp fun below same => absurd (same ▸ below) (Nat.lt_irrefl _)

/-- The built-in grammars show the operators, brackets and separators of every line. -/
theorem showsSymbols_spans {grammar : Grammar} (member : grammar ∈ builtIn) (line : String) :
    ShowsSymbols line (grammar.spans line) := by
  simp only [builtIn, List.mem_cons, List.not_mem_nil, or_false] at member
  rcases member with rfl | rfl
  · rw [Language.spans_javascript]
    exact Language.javascript.showsSymbols line
  · rw [Language.spans_python]
    exact Language.python.showsSymbols line

/-- A run that a comment breaks off is no operator at all. -/
theorem showsSymbols_spans_of_comment :
    javascript ∈ builtIn ∧ ⟨"===", .operator, 1⟩ ∈ javascript.spans "a=== b[1]+//c" ∧
      ⟨"[", .punctuation, 6⟩ ∈ javascript.spans "a=== b[1]+//c" ∧
        ∀ span ∈ javascript.spans "a=== b[1]+//c", span.kind = .operator → ¬SharesByte span.range (9, 12) := by
  have member : javascript ∈ builtIn := List.mem_cons_self
  have clean : '\n' ∉ "a=== b[1]+//c".toList := by decide
  have shows := showsSymbols_spans member "a=== b[1]+//c"
  have comment : ⟨"//c", .comment, 10⟩ ∈ javascript.spans "a=== b[1]+//c" := by
    rw [Language.spans_javascript]
    exact ((Language.javascript.mem_comment_iff clean).mpr ⟨10, ⟨⟨by decide, by decide⟩, by decide +kernel⟩, rfl⟩).1
  have code {range : Nat × Nat} (before : range.2 ≤ 10) : IsCode (javascript.spans "a=== b[1]+//c") range := by
    have first : ∀ place < 13, ['/', '/'] <+: "a=== b[1]+//c".toList.drop place →
        10 ≤ utf8Length ("a=== b[1]+//c".toList.take place) := by
      decide +kernel
    rw [Language.spans_javascript]
    exact Language.javascript.isCode_of_unquoted clean (by decide +kernel) fun place inside marks =>
      Nat.le_trans before (first place inside marks)
  have equals : IsRun (· ∈ operatorSigns) "a=== b[1]+//c".toList ['a'] ['=', '=', '='] " b[1]+//c".toList :=
    ⟨by decide, by decide, by simp [operatorSigns], by simp [operatorSigns], by simp [operatorSigns]⟩
  have slashes : IsRun (· ∈ operatorSigns) "a=== b[1]+//c".toList "a=== b[1]".toList ['+', '/', '/'] ['c'] :=
    ⟨by decide, by decide, by simp [operatorSigns], by simp [operatorSigns], by simp [operatorSigns]⟩
  refine ⟨member, ?_, ?_, ?_⟩
  · exact ((shows.operator _).mpr ⟨_, _, _, equals, code (by decide), rfl⟩).1
  · have split : "a=== b[1]+//c".toList = "a=== b".toList ++ ['['] ++ "1]+//c".toList := by decide
    exact ((shows.separator _).mpr ⟨_, '[', _, split, by decide, code (by decide), rfl⟩).1
  · intro span known kind shared
    have outside : IsCode (javascript.spans "a=== b[1]+//c") span.range := by
      rw [Language.spans_javascript] at known ⊢
      exact isCode_of_mem known (by simp [kind])
    rw [shows.unsplit _ _ _ slashes span known kind shared] at outside
    exact outside _ comment (.inr rfl) ⟨10, by decide +kernel, by decide +kernel⟩

end Highlighter.Grammar
