import Highlighter.Proofs.Grammar.Comments

/-!
Where comments are found. A line has at most one: the text from the first marker on, if no string of the line reaches
behind that marker. It is the last span of the line.
-/

namespace Highlighter

theorem Span.getLast?_eq_of_stop_eq {rules : List Rule} {line : String} {last : Span} (member : last ∈ ofLine rules line)
    (ends : last.stop = line.utf8ByteSize) : (ofLine rules line).getLast? = some last := by
  have joined := contiguous_ofLine rules line
  cases found : (ofLine rules line).getLast? with
  | none =>
    rw [List.getLast?_eq_none_iff.mp found] at member
    cases member
  | some final =>
    have finalMember := List.mem_of_getLast? found
    have finalEnds := joined.stop_getLast final found
    have nonempty := start_lt_stop member
    have finalNonempty := start_lt_stop finalMember
    -- Both cover the last byte of the line.
    have covered : last.start ≤ line.utf8ByteSize - 1 ∧ line.utf8ByteSize - 1 < last.stop := by omega
    have finalCovered : final.start ≤ line.utf8ByteSize - 1 ∧ line.utf8ByteSize - 1 < final.stop := by omega
    rw [joined.eq_of_covering finalMember member finalCovered covered]

namespace Grammar

theorem FirstMark.unique {marker text : List Char} {left right : Nat} (leftFirst : FirstMark marker text left)
    (rightFirst : FirstMark marker text right) : left = right := by
  rcases Nat.lt_trichotomy left right with before | same | behind
  · exact absurd leftFirst.marks (rightFirst.first left before)
  · exact same
  · exact absurd rightFirst.marks (leftFirst.first right behind)

def StringsEnd (line : String) (spans : List Span) (place : Nat) : Prop :=
  ∀ span ∈ spans, span.kind = .string → span.stop ≤ utf8Length (line.toList.take place)

/-- The comment of a line is where its first marker and its strings tell. -/
structure FindsComment (marker : List Char) (line : String) (spans : List Span) : Prop where
  single : (spans.filter (·.kind = .comment)).length ≤ 1
  exists_iff : (∃ span ∈ spans, span.kind = .comment) ↔
    ∃ place, FirstMark marker line.toList place ∧ StringsEnd line spans place
  /-- The comment is the last span, and it is the text from the first marker on. -/
  last : ∀ span ∈ spans, span.kind = .comment → ∀ place, FirstMark marker line.toList place →
    spans.getLast? = some span ∧ span.text = .ofList (line.toList.drop place) ∧
      span.start = utf8Length (line.toList.take place) ∧ span.stop = line.utf8ByteSize

namespace Language

variable (language : Language) {line : String} (clean : '\n' ∉ line.toList)
include clean

theorem mem_string_iff {span : Span} :
    span ∈ Span.ofLine language.rules line ∧ span.kind = .string ↔
      ∃ literal ∈ Literal.scan 0 line.toList,
        Span.between line.toList literal.start literal.stop .string = span := by
  have strings := congrArg (span ∈ ·) (language.filter_string clean)
  simpa only [List.mem_filter, decide_eq_true_eq, List.mem_map, eq_iff_iff] using strings

theorem stringsEnd_iff {place : Nat} :
    StringsEnd line (Span.ofLine language.rules line) place ↔
      ∀ literal ∈ Literal.scan 0 line.toList, literal.stop ≤ place := by
  have ends {literal : Interval} (known : literal ∈ Literal.scan 0 line.toList) :
      (Span.between line.toList literal.start literal.stop .string).stop ≤ utf8Length (line.toList.take place) ↔
        literal.stop ≤ place := by
    have inside := Taken.stop_le_of_takenBy ((language.takenBy_string clean).mpr known)
    rw [Span.stop_between line.toList .string (Nat.le_of_lt literal.start_lt_stop),
      utf8Length_take_le_iff line.toList literal.stop place inside]
  constructor
  · intro strings literal known
    obtain ⟨member, kind⟩ := (language.mem_string_iff clean).mpr ⟨literal, known, rfl⟩
    exact (ends known).mp (strings _ member kind)
  · intro literals span member kind
    obtain ⟨literal, known, rfl⟩ := (language.mem_string_iff clean).mp ⟨member, kind⟩
    exact (ends known).mpr (literals literal known)

theorem unbroken_iff {place : Nat} :
    Unbroken language.marker line.toList place ↔ FirstMark language.marker line.toList place ∧
      StringsEnd line (Span.ofLine language.rules line) place := by
  rw [language.stringsEnd_iff clean]
  exact ⟨fun unbroken => ⟨unbroken.toFirstMark, unbroken.literals⟩, fun ⟨mark, literals⟩ => ⟨mark, literals⟩⟩

theorem eq_of_mem_comment {left right : Span} (leftMember : left ∈ Span.ofLine language.rules line)
    (leftKind : left.kind = .comment) (rightMember : right ∈ Span.ofLine language.rules line)
    (rightKind : right.kind = .comment) : left = right := by
  obtain ⟨leftPlace, leftUnbroken, rfl⟩ := (language.mem_comment_iff clean).mp ⟨leftMember, leftKind⟩
  obtain ⟨rightPlace, rightUnbroken, rfl⟩ := (language.mem_comment_iff clean).mp ⟨rightMember, rightKind⟩
  rw [leftUnbroken.toFirstMark.unique rightUnbroken.toFirstMark]

theorem length_comments_le_one :
    ((Span.ofLine language.rules line).filter (·.kind = .comment)).length ≤ 1 := by
  have ordered := (Span.pairwise_start_lt language.rules line).filter (·.kind = .comment)
  cases found : (Span.ofLine language.rules line).filter (·.kind = .comment) with
  | nil => simp
  | cons first rest =>
    cases rest with
    | nil => simp
    | cons second rest =>
      -- Two comments would be one span at two places.
      have comment {span : Span} (member : span ∈ first :: second :: rest) :
          span ∈ Span.ofLine language.rules line ∧ span.kind = .comment := by
        rw [← found, List.mem_filter, decide_eq_true_eq] at member
        exact member
      obtain ⟨firstMember, firstKind⟩ := comment List.mem_cons_self
      obtain ⟨secondMember, secondKind⟩ := comment (List.mem_cons_of_mem _ List.mem_cons_self)
      have same := language.eq_of_mem_comment clean firstMember firstKind secondMember secondKind
      rw [found] at ordered
      have below := (List.pairwise_cons.mp ordered).1 second List.mem_cons_self
      rw [same] at below
      exact absurd below (Nat.lt_irrefl _)

theorem findsComment : FindsComment language.marker line (Span.ofLine language.rules line) where
  single := language.length_comments_le_one clean
  exists_iff := by
    simp only [← language.unbroken_iff clean]
    constructor
    · rintro ⟨span, member, kind⟩
      obtain ⟨place, unbroken, _⟩ := (language.mem_comment_iff clean).mp ⟨member, kind⟩
      exact ⟨place, unbroken⟩
    · rintro ⟨place, unbroken⟩
      have comment := (language.mem_comment_iff clean).mpr ⟨place, unbroken, rfl⟩
      exact ⟨_, comment.1, comment.2⟩
  last := by
    intro span member kind place mark
    obtain ⟨other, unbroken, rfl⟩ := (language.mem_comment_iff clean).mp ⟨member, kind⟩
    obtain rfl := unbroken.toFirstMark.unique mark
    have inside := lt_of_mark language.marker_ne mark.marks
    have ends : (Span.between line.toList other line.toList.length .comment).stop = line.utf8ByteSize := by
      rw [Span.stop_between line.toList .comment (Nat.le_of_lt inside), List.take_length, utf8Length_toList]
    refine ⟨Span.getLast?_eq_of_stop_eq member ends, ?_, rfl, ends⟩
    unfold Span.between
    rw [List.take_length]

end Language

/-- A built-in grammar finds at most one comment in a line: the text from the first marker on, if the line has one and
no string ends behind it. -/
theorem findsComment_spans {grammar : Grammar} {marker : String} (known : (grammar, marker) ∈ markers)
    {line : String} (clean : '\n' ∉ line.toList) : FindsComment marker.toList line (grammar.spans line) := by
  simp only [markers, List.mem_cons, Prod.mk.injEq, List.not_mem_nil, or_false] at known
  rcases known with ⟨rfl, rfl⟩ | ⟨rfl, rfl⟩
  · rw [Language.spans_javascript]
    exact Language.javascript.findsComment clean
  · rw [Language.spans_python]
    exact Language.python.findsComment clean

/-- A slash in a string and a quote in the comment do no harm. -/
theorem findsComment_spans_behind_string :
    (javascript, "//") ∈ markers ∧ '\n' ∉ "f('/') // \"é".toList ∧
      (javascript.spans "f('/') // \"é").getLast? = some ⟨"// \"é", .comment, 7⟩ := by
  have known : (javascript, "//") ∈ markers := List.mem_cons_self ..
  have clean : '\n' ∉ "f('/') // \"é".toList := by decide
  have mark : FirstMark "//".toList "f('/') // \"é".toList 7 := ⟨by decide, by decide +kernel⟩
  have strings : StringsEnd "f('/') // \"é" (javascript.spans "f('/') // \"é") 7 := by
    rw [Language.spans_javascript, Language.stringsEnd_iff _ clean]
    decide +kernel
  have finds := findsComment_spans known clean
  obtain ⟨span, member, kind⟩ := finds.exists_iff.mpr ⟨7, mark, strings⟩
  obtain ⟨isLast, text, start, _⟩ := finds.last span member kind 7 mark
  obtain ⟨spanText, spanKind, spanStart⟩ := span
  cases text
  cases kind
  cases start
  exact ⟨known, clean, isLast⟩

end Grammar

end Highlighter
