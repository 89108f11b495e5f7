import Highlighter.Proofs.Grammar.Comments
import Highlighter.Proofs.Grammar.Signs
import Highlighter.Proofs.Grammar.Words

/-!
The classification of words. Outside strings and comments each word of a line is a span of its own or lies in plain
text, as the built-in grammars answer what they ask about it, and no span ends inside a word.
-/

namespace Highlighter

open Pattern Unicode

/-- The rule finds whole words, and those that it asks for. -/
def Rule.TakesWords (rule : Rule) (asked : List Char → List Char → Prop) : Prop :=
  ∀ text interval, interval ∈ rule.intervals text ↔
    ∃ before word after, ∃ isWord : IsWord text before word after, asked word after ∧ interval = isWord.interval

def Rule.AvoidsWords (rule : Rule) : Prop :=
  ∀ text, ∀ interval ∈ rule.intervals text, ∀ place, interval.start ≤ place → place < interval.stop →
    isIn .word text[place]? = false

namespace Grammar

theorem mem_intervals_word {expr : Expr} {asked : List Char → List Char → Prop}
    (finds : FindsWords expr asked fun word _ => .ofSize word.length) (simple : expr.Simple) {source : String}
    (text : List Char) (interval : Interval) :
    interval ∈ (ofExpr source expr).intervals text ↔
      ∃ before word after, ∃ isWord : IsWord text before word after, asked word after ∧ interval = isWord.interval := by
  rw [intervals_ofExpr simple.2, List.mem_map]
  constructor
  · rintro ⟨found, searched, rfl⟩
    obtain ⟨before, word, after, isWord, asks, matched⟩ := (finds.mem_search_iff simple.1).mp searched
    rw [Outcome.match?_ofSize isWord.length_pos] at matched
    cases matched
    exact ⟨before, word, after, isWord, asks, rfl⟩
  · rintro ⟨before, word, after, isWord, asks, rfl⟩
    refine ⟨⟨isWord.interval, none⟩, (finds.mem_search_iff simple.1).mpr ⟨before, word, after, isWord, asks, ?_⟩, rfl⟩
    rw [Outcome.match?_ofSize isWord.length_pos]
    rfl

theorem simple_keywordExpr (keywords : List String) : (keywordExpr keywords).Simple := by
  have branches : (Expr.ofBranches (keywords.map fun keyword => .literally keyword.toList)).Simple :=
    Expr.simple_ofBranches (List.forall_mem_map.mpr fun keyword _ => Expr.simple_literally keyword.toList)
  simp [Expr.Simple, keywordExpr, wordEdge, Expr.orderly, Expr.named, branches.1, branches.2]

theorem match?_calledOutcome {word : List Char} (nonempty : 0 < word.length) (after : List Char) (start : Nat) :
    ∃ whole, (calledOutcome word after).match? start =
      some ⟨whole, some ⟨start, start + word.length, by omega⟩⟩ := by
  have reaches : start < start + (calledOutcome word after).size := by
    simp only [calledOutcome]
    omega
  have tokenReaches : start < start + word.length := by omega
  refine ⟨⟨start, start + (calledOutcome word after).size, reaches⟩, ?_⟩
  rw [Outcome.match?, Interval.between?, dif_pos reaches]
  simp only [calledOutcome, Nat.add_zero, Interval.between?, dif_pos tokenReaches]
  rfl

namespace Language

theorem takesWords_keyword (language : Language) :
    language.keywordRule.TakesWords fun word _ => String.ofList word ∈ language.keywords :=
  mem_intervals_word (finds_keyword language.keyword_ne fun keyword member letter inside =>
    CharClass.word_of_letter (List.all_eq_true.mp (language.keyword_letters keyword member) letter inside))
    (simple_keywordExpr language.keywords)

theorem takesWords_number : numberRule.TakesWords fun word _ => IsNumber word :=
  mem_intervals_word finds_number ⟨rfl, rfl⟩

theorem takesWords_function : functionRule.TakesWords fun _ after => Called after := by
  intro text interval
  have narrowed : functionRule.pattern.narrowed = true := rfl
  rw [Rule.intervals, intervals, if_pos narrowed, List.mem_filterMap]
  constructor
  · rintro ⟨found, searched, token⟩
    obtain ⟨before, word, after, isWord, called, matched⟩ := (finds_function.mem_search_iff rfl).mp searched
    obtain ⟨whole, same⟩ := match?_calledOutcome isWord.length_pos after before.length
    rw [same] at matched
    cases matched
    cases token
    exact ⟨before, word, after, isWord, called, rfl⟩
  · rintro ⟨before, word, after, isWord, called, rfl⟩
    obtain ⟨whole, same⟩ := match?_calledOutcome isWord.length_pos after before.length
    exact ⟨_, (finds_function.mem_search_iff rfl).mpr ⟨before, word, after, isWord, called, same⟩, rfl⟩

theorem not_word_of_mem_signs {signs : List Char} (between : signs.all (CharClass.betweenWords.contains ·.toNat) = true)
    {char : Char} (member : char ∈ signs) : CharClass.word.contains char = false :=
  CharClass.not_word_of_between (List.all_eq_true.mp between char member)

theorem not_word_of_operator {char : Char} (member : char ∈ operatorSigns) : CharClass.word.contains char = false :=
  not_word_of_mem_signs (by decide) member

theorem not_word_of_separator {char : Char} (member : char ∈ separatorSigns) : CharClass.word.contains char = false :=
  not_word_of_mem_signs (by decide) member

theorem avoidsWords_of_findsOnly {rule : Rule} {sort : Char → Prop} (only : rule.FindsOnly sort)
    (apart : ∀ char, sort char → CharClass.word.contains char = false) : rule.AvoidsWords := by
  intro text interval member place above below
  obtain ⟨char, known, inside⟩ := only text interval member place above below
  rw [known]
  exact apart char inside

theorem avoidsWords_operator : operatorRule.AvoidsWords :=
  avoidsWords_of_findsOnly findsOnly_operator fun _ => not_word_of_operator

theorem avoidsWords_separator : separatorRule.AvoidsWords :=
  avoidsWords_of_findsOnly findsOnly_separator fun _ => not_word_of_separator

/-- What the rules of words ask, by their numbers. -/
def asked (language : Language) : Nat → List Char → List Char → Prop
  | 2, word, _ => String.ofList word ∈ language.keywords
  | 3, _, after => Called after
  | 4, word, _ => IsNumber word
  | _, _, _ => False

theorem takesWords (language : Language) {index : Nat} {rule : Rule} (found : language.rules[index]? = some rule)
    (first : 2 ≤ index) (last : index ≤ 4) : rule.TakesWords (language.asked index) := by
  obtain rfl | rfl | rfl : index = 2 ∨ index = 3 ∨ index = 4 := by omega
  · cases found
    exact language.takesWords_keyword
  · cases found
    exact takesWords_function
  · cases found
    exact takesWords_number

theorem avoidsWords (language : Language) {index : Nat} {rule : Rule} (found : language.rules[index]? = some rule)
    (first : 5 ≤ index) : rule.AvoidsWords := by
  have bound : index < 7 := (List.getElem?_eq_some_iff.mp found).1
  obtain rfl | rfl : index = 5 ∨ index = 6 := by omega
  · cases found
    exact avoidsWords_operator
  · cases found
    exact avoidsWords_separator

theorem isWord_of_takenBy (language : Language) {chars : List Char} {index : Nat} {item : Taken}
    (taken : Taken.TakenBy language.rules chars index item) (first : 2 ≤ index) (last : index ≤ 4) :
    ∃ before word after, ∃ isWord : IsWord chars before word after,
      language.asked index word after ∧ item.interval = isWord.interval := by
  obtain ⟨rule, found, _, finds⟩ := taken.rule
  exact (language.takesWords found first last _ _).mp finds

/-- A word that meets no string and no comment is taken by the first rule that asks for it. -/
theorem takenBy_of_asked (language : Language) {chars before word after : List Char}
    (isWord : IsWord chars before word after)
    (outside : ∀ index < 2, ∀ item, Taken.TakenBy language.rules chars index item →
      item.interval.overlaps isWord.interval = false)
    {index : Nat} {rule : Rule} (found : language.rules[index]? = some rule) (first : 2 ≤ index) (last : index ≤ 4)
    (asks : language.asked index word after) (unasked : ∀ earlier < index, ¬language.asked earlier word after) :
    Taken.TakenBy language.rules chars index ⟨isWord.interval, rule.kind⟩ := by
  refine ⟨⟨rule, found, rfl, (language.takesWords found first last _ _).mpr ⟨_, _, _, isWord, asks, rfl⟩⟩, ?_⟩
  refine Span.free_take_iff.mpr fun earlier below item taken => ?_
  by_cases early : earlier < 2
  · exact outside earlier early item taken
  · obtain ⟨otherBefore, otherWord, otherAfter, other, otherAsks, same⟩ :=
      language.isWord_of_takenBy taken (by omega) (by omega)
    rw [← Bool.not_eq_true, same]
    intro overlap
    obtain ⟨rfl, rfl, rfl⟩ := other.eq_of_overlaps isWord overlap
    exact unasked earlier below otherAsks

section Line

variable (language : Language) {line : String} (clean : '\n' ∉ line.toList)
include clean

theorem not_insideWord_of_literal {literal : Interval}
    (taken : Taken.TakenBy language.rules line.toList 0 ⟨literal, .string⟩) :
    ¬InsideWord line.toList literal.start ∧ ¬InsideWord line.toList literal.stop := by
  have unquoted : ∀ quote ∈ quotes, CharClass.word.contains quote = false := fun quote member =>
    not_word_of_mem_signs (by decide) member
  have nonempty := literal.start_lt_stop
  have inside : literal.stop ≤ line.toList.length := Taken.stop_le_of_takenBy taken
  obtain ⟨_, ⟨opening, openingQuote, begins⟩, closing, closingQuote, ends⟩ :=
    Literal.quotes_of_mem_scan ((language.takenBy_string clean).mp taken)
  obtain ⟨last, stop⟩ : ∃ last, literal.stop = last + 1 := ⟨literal.stop - 1, by omega⟩
  simp only [stop, Nat.add_sub_cancel, Nat.sub_zero] at begins ends ⊢
  refine ⟨not_insideWord_of_next ?_, not_insideWord_of_last (by omega) ?_⟩
  · rw [begins]
    exact unquoted opening openingQuote
  · rw [ends]
    exact unquoted closing closingQuote

/-- A comment begins with a marker, which has no word characters, and nothing comes after it. -/
theorem not_insideWord_of_comment {comment : Interval}
    (taken : Taken.TakenBy language.rules line.toList 1 ⟨comment, .comment⟩) :
    ¬InsideWord line.toList comment.start ∧ ¬InsideWord line.toList comment.stop := by
  obtain ⟨unbroken, ends⟩ := (language.takenBy_comment clean).mp taken
  obtain ⟨letter, letters, marker⟩ := List.exists_cons_of_ne_nil language.marker_ne
  obtain ⟨rest, split⟩ := unbroken.marks
  refine ⟨not_insideWord_of_next ?_, not_insideWord_of_next ?_⟩
  · rw [← List.head?_drop, ← split, marker]
    exact not_word_of_mem_signs language.marker_between (by simp [marker])
  · rw [ends, List.getElem?_length]
    rfl

theorem not_insideWord_of_takenBy {index : Nat} {item : Taken}
    (taken : Taken.TakenBy language.rules line.toList index item) :
    ¬InsideWord line.toList item.interval.start ∧ ¬InsideWord line.toList item.interval.stop := by
  obtain ⟨rule, found, kind, finds⟩ := taken.rule
  obtain ⟨interval, itemKind⟩ := item
  obtain rfl | rfl | ⟨first, words⟩ | symbols : index = 0 ∨ index = 1 ∨ 2 ≤ index ∧ index ≤ 4 ∨ 5 ≤ index := by omega
  · cases found
    cases kind
    exact language.not_insideWord_of_literal clean taken
  · cases found
    cases kind
    exact language.not_insideWord_of_comment clean taken
  · obtain ⟨before, word, after, isWord, _, same⟩ := language.isWord_of_takenBy taken first words
    cases same
    exact ⟨isWord.not_insideWord_start, isWord.not_insideWord_stop⟩
  · have avoids := language.avoidsWords found symbols line.toList interval finds
    have nonempty := interval.start_lt_stop
    have inside : interval.stop ≤ line.toList.length := Taken.stop_le_of_takenBy taken
    obtain ⟨last, stop⟩ : ∃ last, interval.stop = last + 1 := ⟨interval.stop - 1, by omega⟩
    simp only [stop]
    exact ⟨not_insideWord_of_next (avoids _ (Nat.le_refl _) nonempty),
      not_insideWord_of_last (by omega) (avoids last (by omega) (by omega))⟩

theorem not_insideWord_of_isCut {place : Nat} (cut : Span.IsCut language.rules line.toList place) :
    ¬InsideWord line.toList place := by
  rcases cut with rfl | rfl | ⟨index, item, taken, rfl | rfl⟩
  · exact fun inside => absurd inside.1 (by simp [isIn])
  · exact not_insideWord_of_next (by simp [isIn])
  · exact (language.not_insideWord_of_takenBy clean taken).1
  · exact (language.not_insideWord_of_takenBy clean taken).2

end Line

end Language

/-- The kind of a word with what comes after it, by the keywords of a language. -/
def wordKind (keywords : List String) (word after : List Char) : TokenKind :=
  if String.ofList word ∈ keywords then .keyword
  else if Called after then .function
  else if IsNumber word then .number
  else .plain

/-- The text from one byte to another meets no string and no comment. -/
def IsCode (spans : List Span) (range : Nat × Nat) : Prop :=
  ∀ span ∈ spans, span.kind = .string ∨ span.kind = .comment → ¬SharesByte span.range range

/-- The spans of a line show the kinds of its words. -/
structure ClassifiesWords (keywords : List String) (line : String) (spans : List Span) : Prop where
  /-- A word outside strings and comments that is a keyword, is called or is a number is a span of its own. -/
  word : ∀ before word after, IsWord line.toList before word after →
    IsCode spans (utf8Length before, utf8Length (before ++ word)) → wordKind keywords word after ≠ .plain →
      ⟨.ofList word, wordKind keywords word after, utf8Length before⟩ ∈ spans
  /-- Any other one lies in a span of plain text. -/
  plain : ∀ before word after, IsWord line.toList before word after →
    IsCode spans (utf8Length before, utf8Length (before ++ word)) → wordKind keywords word after = .plain →
      ∃ span ∈ spans, span.kind = .plain ∧ span.start ≤ utf8Length before ∧ utf8Length (before ++ word) ≤ span.stop
  /-- A keyword, a function and a number is a word outside strings and comments. -/
  isWord : ∀ span ∈ spans, span.kind ∈ [.keyword, .function, .number] →
    ∃ before word after, IsWord line.toList before word after ∧
      IsCode spans (utf8Length before, utf8Length (before ++ word)) ∧
        span = ⟨.ofList word, wordKind keywords word after, utf8Length before⟩
  /-- No span begins or ends inside a word. -/
  whole : ∀ before word after, IsWord line.toList before word after → ∀ span ∈ spans,
    ∀ byte, byte = span.start ∨ byte = span.stop → ¬(utf8Length before < byte ∧ byte < utf8Length (before ++ word))

theorem ofTaken_eq {interval : Interval} {chars before part after : List Char}
    (splits : interval.Splits chars before part after) (kind : TokenKind) :
    Span.ofTaken chars ⟨interval, kind⟩ = ⟨.ofList part, kind, utf8Length before⟩ := by
  simp only [Span.ofTaken, Span.between, splits.take_start, splits.take_stop]
  rw [splits.start_eq, List.drop_left]

theorem isCode_of_mem {rules : List Rule} {line : String} {span : Span} (member : span ∈ Span.ofLine rules line)
    (code : span.kind ≠ .string ∧ span.kind ≠ .comment) : IsCode (Span.ofLine rules line) span.range := by
  -- Spans of one line that share a byte are one.
  rintro other otherMember special ⟨byte, inOther, inSpan⟩
  rw [(Span.contiguous_ofLine rules line).eq_of_covering otherMember member inOther inSpan] at special
  exact special.elim code.1 code.2

namespace Language

variable (language : Language)

theorem wordKind_cases (word after : List Char) :
    language.asked 2 word after ∧ wordKind language.keywords word after = .keyword ∨
      (¬language.asked 2 word after ∧ language.asked 3 word after) ∧
        wordKind language.keywords word after = .function ∨
      (¬language.asked 2 word after ∧ ¬language.asked 3 word after ∧ language.asked 4 word after) ∧
        wordKind language.keywords word after = .number ∨
      (¬language.asked 2 word after ∧ ¬language.asked 3 word after ∧ ¬language.asked 4 word after) ∧
        wordKind language.keywords word after = .plain := by
  unfold wordKind asked
  by_cases keyword : String.ofList word ∈ language.keywords
  · simp [keyword]
  · by_cases called : Called after
    · simp [keyword, called]
    · by_cases number : IsNumber word <;> simp [keyword, called, number]

theorem exists_rule_of_wordKind {word after : List Char} (kind : wordKind language.keywords word after ≠ .plain) :
    ∃ index rule, language.rules[index]? = some rule ∧ rule.kind = wordKind language.keywords word after ∧
      (2 ≤ index ∧ index ≤ 4) ∧ language.asked index word after ∧
        ∀ earlier < index, ¬language.asked earlier word after := by
  rcases language.wordKind_cases word after with
    ⟨asks, same⟩ | ⟨⟨keyword, asks⟩, same⟩ | ⟨⟨keyword, called, asks⟩, same⟩ | ⟨_, same⟩
  · refine ⟨2, language.keywordRule, rfl, same.symm, by omega, asks, fun earlier below => ?_⟩
    obtain rfl | rfl : earlier = 0 ∨ earlier = 1 := by omega
    all_goals exact id
  · refine ⟨3, functionRule, rfl, same.symm, by omega, asks, fun earlier below => ?_⟩
    obtain rfl | rfl | rfl : earlier = 0 ∨ earlier = 1 ∨ earlier = 2 := by omega
    exacts [id, id, keyword]
  · refine ⟨4, numberRule, rfl, same.symm, by omega, asks, fun earlier below => ?_⟩
    obtain rfl | rfl | rfl | rfl : earlier = 0 ∨ earlier = 1 ∨ earlier = 2 ∨ earlier = 3 := by omega
    exacts [id, id, keyword, called]
  · exact absurd same kind

theorem not_asked_of_plain {word after : List Char} (kind : wordKind language.keywords word after = .plain)
    {index : Nat} (first : 2 ≤ index) (last : index ≤ 4) : ¬language.asked index word after := by
  rcases language.wordKind_cases word after with ⟨_, same⟩ | ⟨_, same⟩ | ⟨_, same⟩ | ⟨⟨keyword, called, number⟩, _⟩
  · cases same.symm.trans kind
  · cases same.symm.trans kind
  · cases same.symm.trans kind
  · obtain rfl | rfl | rfl : index = 2 ∨ index = 3 ∨ index = 4 := by omega
    exacts [keyword, called, number]

theorem overlaps_eq_false_of_isCode {line : String} {interval : Interval} (inside : interval.stop ≤ line.toList.length)
    (code : IsCode (Span.ofLine language.rules line) (interval.bytes line.toList)) :
    ∀ index < 2, ∀ item, Taken.TakenBy language.rules line.toList index item →
      item.interval.overlaps interval = false := by
  intro index below item taken
  obtain ⟨rule, found, kind, _⟩ := taken.rule
  have special : item.kind = .string ∨ item.kind = .comment := by
    obtain rfl | rfl : index = 0 ∨ index = 1 := by omega
    · cases found
      exact .inl kind
    · cases found
      exact .inr kind
  rw [← Bool.not_eq_true, ByteMarks.overlaps_iff_bytes inside (Taken.stop_le_of_takenBy taken), ← Span.range_ofTaken]
  exact code _ (Span.ofTaken_mem taken) special

section Line

variable {line : String} {before word after : List Char} (isWord : IsWord line.toList before word after)
  (code : IsCode (Span.ofLine language.rules line) (utf8Length before, utf8Length (before ++ word)))
include isWord code

theorem apart_of_isCode : ∀ index < 2, ∀ item, Taken.TakenBy language.rules line.toList index item →
    item.interval.overlaps isWord.interval = false :=
  language.overlaps_eq_false_of_isCode isWord.length_le (by rwa [isWord.splits.bytes_eq])

theorem mem_of_wordKind (kind : wordKind language.keywords word after ≠ .plain) :
    ⟨.ofList word, wordKind language.keywords word after, utf8Length before⟩ ∈ Span.ofLine language.rules line := by
  obtain ⟨index, rule, found, same, bounds, asks, unasked⟩ := language.exists_rule_of_wordKind kind
  rw [← same, ← ofTaken_eq isWord.splits]
  have outside := language.apart_of_isCode isWord code
  exact Span.ofTaken_mem (language.takenBy_of_asked isWord outside found bounds.1 bounds.2 asks unasked)

theorem plain_of_wordKind (kind : wordKind language.keywords word after = .plain) {span : Span}
    (member : span ∈ Span.ofLine language.rules line)
    (covers : span.start ≤ utf8Length before ∧ utf8Length before < span.stop) : span.kind = .plain := by
  by_contra notPlain
  obtain ⟨index, item, taken, rfl⟩ := (Span.mem_ofLine notPlain).mp member
  have stops : (Span.ofTaken line.toList item).stop = utf8Length (line.toList.take item.interval.stop) :=
    Span.stop_between line.toList item.kind (Nat.le_of_lt item.interval.start_lt_stop)
  have inside := isWord.length_le
  have positive := isWord.length_pos
  have bound := Taken.stop_le_of_takenBy taken
  have nonempty := item.interval.start_lt_stop
  have starts : item.interval.start ≤ before.length := by
    rw [← utf8Length_take_le_iff line.toList _ _ (by omega), isWord.take]
    exact covers.1
  have ends : before.length < item.interval.stop := by
    rw [← utf8Length_take_lt_iff line.toList _ _ bound, isWord.take, ← stops]
    exact covers.2
  have overlap : item.interval.overlaps isWord.interval = true :=
    Interval.overlaps_iff.mpr ⟨by simp only [IsWord.interval]; omega, ends⟩
  -- The rules of strings and comments miss the word, those of words do not ask for it, and the others find none.
  obtain special | ⟨first, last⟩ | symbols : index < 2 ∨ 2 ≤ index ∧ index ≤ 4 ∨ 5 ≤ index := by omega
  · rw [language.apart_of_isCode isWord code index special item taken] at overlap
    cases overlap
  · obtain ⟨otherBefore, otherWord, otherAfter, other, asks, same⟩ := language.isWord_of_takenBy taken first last
    rw [same] at overlap
    obtain ⟨rfl, rfl, rfl⟩ := other.eq_of_overlaps isWord overlap
    exact language.not_asked_of_plain kind first last asks
  · obtain ⟨rule, found, _, finds⟩ := taken.rule
    have letter := language.avoidsWords found symbols line.toList item.interval finds before.length starts ends
    rw [isWord.getElem? (Nat.le_refl _) (by omega)] at letter
    cases letter

end Line

variable {line : String} (clean : '\n' ∉ line.toList)
include clean

theorem isCode_of_unquoted (unquoted : Literal.scan 0 line.toList = []) {range : Nat × Nat}
    (before : ∀ place < line.toList.length, language.marker <+: line.toList.drop place →
      range.2 ≤ utf8Length (line.toList.take place)) : IsCode (Span.ofLine language.rules line) range := by
  rintro span member (string | comment) ⟨byte, inSpan, inRange⟩
  · have strings : span ∈ (Span.ofLine language.rules line).filter (·.kind = .string) :=
      List.mem_filter.mpr ⟨member, decide_eq_true string⟩
    rw [language.filter_string clean, unquoted] at strings
    cases strings
  · obtain ⟨place, unbroken, rfl⟩ := (language.mem_comment_iff clean).mp ⟨member, comment⟩
    have ends := before place (lt_of_mark language.marker_ne unbroken.marks) unbroken.marks
    exact absurd (Nat.lt_of_le_of_lt inSpan.1 inRange.2) (Nat.not_lt.mpr ends)

theorem not_within_of_end {before word after : List Char} (isWord : IsWord line.toList before word after) {span : Span}
    (member : span ∈ Span.ofLine language.rules line) {byte : Nat} (ends : byte = span.start ∨ byte = span.stop) :
    ¬(utf8Length before < byte ∧ byte < utf8Length (before ++ word)) := by
  intro inside
  obtain ⟨place, placeBound, cut, rfl⟩ := Span.exists_cut_of_end member ends
  -- Byte offsets of places compare as the places do.
  rw [← isWord.take, utf8Length_take_lt_iff line.toList _ _ placeBound, isWord.take, ← isWord.take_stop,
    utf8Length_take_lt_iff line.toList _ _ isWord.length_le] at inside
  exact language.not_insideWord_of_isCut clean cut (isWord.insideWord inside.1 inside.2)

omit clean in
theorem exists_isWord {span : Span} (member : span ∈ Span.ofLine language.rules line)
    (kind : span.kind ∈ [.keyword, .function, .number]) :
    ∃ before word after, ∃ isWord : IsWord line.toList before word after,
      wordKind language.keywords word after ≠ .plain ∧
        span = Span.ofTaken line.toList ⟨isWord.interval, span.kind⟩ := by
  have notPlain : span.kind ≠ .plain := by
    intro plain
    simp [plain] at kind
  obtain ⟨index, item, taken, rfl⟩ := (Span.mem_ofLine notPlain).mp member
  obtain ⟨rule, found, same, _⟩ := taken.rule
  have words : 2 ≤ index ∧ index ≤ 4 := by
    have bound : index < 7 := (List.getElem?_eq_some_iff.mp found).1
    have kinds : rule.kind ∈ [.keyword, .function, .number] := same ▸ kind
    by_contra other
    obtain rfl | rfl | rfl | rfl : index = 0 ∨ index = 1 ∨ index = 5 ∨ index = 6 := by omega
    all_goals
      cases found
      simp [stringRule, commentRule, operatorRule, separatorRule] at kinds
  obtain ⟨before, word, after, isWord, asks, interval⟩ := language.isWord_of_takenBy taken words.1 words.2
  obtain ⟨_, itemKind⟩ := item
  cases interval
  exact ⟨before, word, after, isWord, fun plain => language.not_asked_of_plain plain words.1 words.2 asks, rfl⟩

theorem classifiesWords : ClassifiesWords language.keywords line (Span.ofLine language.rules line) where
  word before word after isWord code kind := language.mem_of_wordKind isWord code kind
  plain := by
    intro before word after isWord code kind
    have inside : before.length < line.toList.length := by
      have bound := isWord.length_le
      have positive := isWord.length_pos
      omega
    have bytes := utf8Length_take_lt line.toList inside (Nat.le_refl _)
    rw [isWord.take, List.take_length, utf8Length_toList] at bytes
    obtain ⟨span, member, covers⟩ :=
      (Span.contiguous_ofLine language.rules line).exists_covering (Nat.zero_le _) bytes
    have reaches : utf8Length (before ++ word) ≤ span.stop := Nat.not_lt.mp fun ends =>
      language.not_within_of_end clean isWord member (.inr rfl) ⟨covers.2, ends⟩
    exact ⟨span, member, language.plain_of_wordKind isWord code kind member covers, covers.1, reaches⟩
  isWord := by
    intro span member kind
    obtain ⟨before, word, after, isWord, notPlain, same⟩ := language.exists_isWord member kind
    have joined := Span.contiguous_ofLine language.rules line
    have range : span.range = (utf8Length before, utf8Length (before ++ word)) := by
      rw [same, Span.range_ofTaken, isWord.splits.bytes_eq]
    have code : IsCode (Span.ofLine language.rules line) (utf8Length before, utf8Length (before ++ word)) := by
      refine range ▸ isCode_of_mem member ⟨fun string => ?_, fun comment => ?_⟩
      · simp [string] at kind
      · simp [comment] at kind
    have found := language.mem_of_wordKind isWord code notPlain
    have start : span.start = utf8Length before := congrArg Prod.fst range
    exact ⟨before, word, after, isWord, code, joined.eq_of_covering member found
      ⟨Nat.le_of_eq start, start ▸ Span.start_lt_stop member⟩ ⟨Nat.le_refl _, Span.start_lt_stop found⟩⟩
  whole before word after isWord span member byte ends := language.not_within_of_end clean isWord member ends

end Language

def keywordLists : List (Grammar × List String) := [(javascript, javascriptKeywords), (python, pythonKeywords)]

/-- The built-in grammars classify the words of every line. -/
theorem classifiesWords_spans {grammar : Grammar} {keywords : List String} (known : (grammar, keywords) ∈ keywordLists)
    {line : String} (clean : '\n' ∉ line.toList) : ClassifiesWords keywords line (grammar.spans line) := by
  simp only [keywordLists, List.mem_cons, Prod.mk.injEq, List.not_mem_nil, or_false] at known
  rcases known with ⟨rfl, rfl⟩ | ⟨rfl, rfl⟩
  · rw [Language.spans_javascript]
    exact Language.javascript.classifiesWords clean
  · rw [Language.spans_python]
    exact Language.python.classifiesWords clean

/-- A word in front of a bracket is a function, with white space between them. -/
theorem classifiesWords_spans_called :
    (javascript, javascriptKeywords) ∈ keywordLists ∧ '\n' ∉ "return f (12)".toList ∧
      ⟨"f", .function, 7⟩ ∈ javascript.spans "return f (12)" := by
  have known : (javascript, javascriptKeywords) ∈ keywordLists := List.mem_cons_self ..
  have clean : '\n' ∉ "return f (12)".toList := by decide
  have blank : CharClass.word.contains ' ' = false := CharClass.not_word_of_between (by decide)
  have isWord : IsWord "return f (12)".toList "return ".toList ['f'] " (12)".toList :=
    ⟨by decide, by decide, by simp [CharClass.word_of_letter], blank, blank⟩
  have called : wordKind javascriptKeywords ['f'] " (12)".toList = .function := by
    decide +kernel
  have code : IsCode (javascript.spans "return f (12)") (7, 8) := by
    rw [Language.spans_javascript]
    exact Language.javascript.isCode_of_unquoted clean (by decide +kernel) (by decide +kernel)
  have found := (classifiesWords_spans known clean).word _ _ _ isWord code (by rw [called]; decide)
  rw [called] at found
  exact ⟨known, clean, found⟩

end Grammar

end Highlighter
