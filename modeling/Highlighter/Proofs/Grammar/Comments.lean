import Highlighter.Proofs.Grammar.Literals

/-!
Comments. The rule of comments finds the text from the first marker of a line on, and it is taken if no literal of the
line reaches behind that marker: a literal in the comment breaks it up, and so does a marker in a literal before it.
-/

namespace Highlighter

open Pattern Unicode

namespace Grammar

theorem way_commentExpr (marker : List Char) {text : List Char} (clean : '\n' ∉ text) (before : Option Char) :
    (commentExpr marker).way .done before text = if marker <+: text then some (.ofSize text.length) else none := by
  have way : (commentExpr marker).way .done = Way.spelling marker
      (Way.again true (Way.reading anyChar) (Way.holding .textEnd .done)) := by
    rw [commentExpr, Expr.way_ofElements, List.foldr_append, List.foldr_map]
    rfl
  rw [way]
  split
  next marks =>
    obtain ⟨rest, rfl⟩ := marks
    -- The end of the text cannot come in front of a character.
    have blocked (last : Option Char) (letter : Char) (rest : List Char) :
        Way.holding .textEnd .done last (letter :: rest) = none := rfl
    have leading : Leading anyChar rest rest [] :=
      ⟨(List.append_nil rest).symm, fun letter member => contains_anyChar fun same =>
        clean (List.mem_append_right _ (same ▸ member)), rfl⟩
    rw [Way.spelling_append, Way.again_leading (fun letter rest _ => blocked _ letter rest)
      (fun last letter rest _ _ => blocked _ letter rest) leading]
    simp [Way.holding, Assertion.holds, Sequel.done, Outcome.back, Outcome.ofSize, Nat.add_comm]
  next unmarked =>
    cases known : Way.spelling marker _ before text with
    | none => rfl
    | some outcome => exact absurd (Way.prefix_of_spelling known) unmarked

structure FirstMark (marker text : List Char) (place : Nat) : Prop where
  marks : marker <+: text.drop place
  first : ∀ earlier < place, ¬marker <+: text.drop earlier

theorem exists_firstMark {marker text : List Char} {place : Nat} (marks : marker <+: text.drop place) :
    ∃ first, FirstMark marker text first := by
  have marked : ∃ place, marker <+: text.drop place := ⟨place, marks⟩
  exact ⟨Nat.find marked, Nat.find_spec marked, fun _ => Nat.find_min marked⟩

theorem outcomeAt_commentExpr (marker : List Char) {text : List Char} (clean : '\n' ∉ text) (place : Nat) :
    (commentExpr marker).way.outcomeAt text place =
      if marker <+: text.drop place then some (.ofSize (text.length - place)) else none := by
  have restClean : '\n' ∉ text.drop place := fun member => clean (List.mem_of_mem_drop member)
  rw [Way.outcomeAt, way_commentExpr marker restClean, List.length_drop]

theorem simple_commentExpr (marker : List Char) : (commentExpr marker).Simple := by
  refine Expr.simple_ofElements (List.forall_mem_append.mpr ⟨List.forall_mem_map.mpr fun _ _ => ⟨rfl, rfl⟩, ?_⟩)
  simp [Expr.Simple, anyOf, Expr.orderly, Expr.named, Expr.reads]

theorem lt_of_mark {marker text : List Char} (nonempty : marker ≠ []) {place : Nat}
    (marks : marker <+: text.drop place) : place < text.length := by
  by_contra behind
  rw [List.drop_eq_nil_of_le (Nat.not_lt.mp behind)] at marks
  exact nonempty (List.prefix_nil.mp marks)

section Search

variable {source : String} {marker : List Char} (nonempty : marker ≠ []) {text : List Char} (clean : '\n' ∉ text)
include clean

theorem marks_of_mem_intervals {interval : Interval}
    (member : interval ∈ (ofExpr source (commentExpr marker)).intervals text) :
    (∃ place, marker <+: text.drop place) ∧ interval.stop = text.length := by
  rw [intervals_ofExpr (simple_commentExpr marker).2] at member
  obtain ⟨reported, searched, rfl⟩ := List.mem_map.mp member
  obtain ⟨place, bound, outcome, known, matched⟩ := exists_of_mem_search (simple_commentExpr marker).1 searched
  rw [outcomeAt_commentExpr marker clean] at known
  split at known
  next marks =>
    cases known
    exact ⟨⟨place, marks⟩, (stop_of_match? matched).trans (Nat.add_sub_cancel' bound)⟩
  next => cases known

include nonempty

theorem mem_intervals_of_firstMark {place : Nat} (mark : FirstMark marker text place) :
    ⟨place, text.length, lt_of_mark nonempty mark.marks⟩ ∈ (ofExpr source (commentExpr marker)).intervals text := by
  have bound := lt_of_mark nonempty mark.marks
  rw [intervals_ofExpr (simple_commentExpr marker).2]
  refine List.mem_map.mpr ⟨⟨⟨place, text.length, bound⟩, none⟩, ?_, rfl⟩
  refine mem_search (simple_commentExpr marker).1 (Nat.le_of_lt bound)
    ((outcomeAt_commentExpr marker clean place).trans (if_pos mark.marks)) ?_ ?_
  · rw [Outcome.match?_ofSize (by omega)]
    simp only [Nat.add_sub_cancel' (Nat.le_of_lt bound)]
    rfl
  · intro earlier before other known
    rw [outcomeAt_commentExpr marker clean, if_neg (mark.first earlier before)] at known
    cases known

theorem mem_intervals_comment {interval : Interval} :
    interval ∈ (ofExpr source (commentExpr marker)).intervals text ↔
      FirstMark marker text interval.start ∧ interval.stop = text.length := by
  constructor
  · intro member
    obtain ⟨⟨place, marks⟩, stop⟩ := marks_of_mem_intervals clean member
    obtain ⟨first, mark⟩ := exists_firstMark marks
    -- Two intervals that a pattern finds do not end at one place.
    cases eq_of_stop_eq member (mem_intervals_of_firstMark nonempty clean mark) stop
    exact ⟨mark, rfl⟩
  · rintro ⟨mark, stop⟩
    have same : interval = ⟨interval.start, text.length, lt_of_mark nonempty mark.marks⟩ := by
      cases interval
      cases stop
      rfl
    rw [same]
    exact mem_intervals_of_firstMark nonempty clean mark

end Search

/-- The place of the first marker of a text that lies in no literal opened in front of it. -/
structure OuterMark (marker text : List Char) (place : Nat) : Prop where
  marks : marker <+: text.drop place
  outside : ∀ literal ∈ Literal.scan 0 text, literal.start < place → literal.stop ≤ place
  first : ∀ earlier < place, marker <+: text.drop earlier →
    ∃ literal ∈ Literal.scan 0 text, literal.start < earlier ∧ earlier < literal.stop

/-- The place of the first marker of a text, behind which no literal reaches. -/
structure Unbroken (marker text : List Char) (place : Nat) : Prop extends FirstMark marker text place where
  literals : ∀ literal ∈ Literal.scan 0 text, literal.stop ≤ place

/-- A line from a place on is one comment, and no span begins behind that place. -/
def IsComment (line : String) (spans : List Span) (place : Nat) : Prop :=
  Span.between line.toList place line.toList.length .comment ∈ spans ∧
    ∀ span ∈ spans, span.start ≤ utf8Length (line.toList.take place)

namespace Language

variable (language : Language) {line : String} (clean : '\n' ∉ line.toList)
include clean

theorem takenBy_string {literal : Interval} :
    Taken.TakenBy language.rules line.toList 0 ⟨literal, .string⟩ ↔ literal ∈ Literal.scan 0 line.toList := by
  rw [← intervals_string clean]
  exact Span.takenBy_zero

theorem takenBy_comment {interval : Interval} :
    Taken.TakenBy language.rules line.toList 1 ⟨interval, .comment⟩ ↔
      Unbroken language.marker line.toList interval.start ∧ interval.stop = line.toList.length := by
  have finds : interval ∈ language.commentRule.intervals line.toList ↔
      FirstMark language.marker line.toList interval.start ∧ interval.stop = line.toList.length :=
    mem_intervals_comment language.marker_ne clean
  constructor
  · intro taken
    obtain ⟨rule, found, _, member⟩ := taken.rule
    cases found
    obtain ⟨mark, stop⟩ := finds.mp member
    refine ⟨⟨mark, fun literal known => ?_⟩, stop⟩
    have takenLiteral := (language.takenBy_string clean).mpr known
    have missed : literal.overlaps interval = false :=
      Span.free_take_iff.mp taken.free 0 Nat.one_pos _ takenLiteral
    have inside : literal.stop ≤ line.toList.length := Taken.stop_le_of_takenBy takenLiteral
    have nonempty := literal.start_lt_stop
    rcases Interval.overlaps_eq_false_iff.mp missed with before | behind
    · exact before
    · omega
  · rintro ⟨unbroken, stop⟩
    refine ⟨⟨language.commentRule, rfl, rfl, finds.mpr ⟨unbroken.toFirstMark, stop⟩⟩, ?_⟩
    refine Span.free_take_iff.mpr fun earlier below item taken => ?_
    obtain rfl : earlier = 0 := by omega
    obtain ⟨rule, found, kind, _⟩ := taken.rule
    cases found
    obtain ⟨literal, _⟩ := item
    cases kind
    have before := unbroken.literals literal ((language.takenBy_string clean).mp taken)
    exact Interval.overlaps_eq_false_iff.mpr (.inl before)

/-- The spans of comments: there is at most one, from the first marker on, if no literal reaches behind that. -/
theorem mem_comment_iff {span : Span} :
    span ∈ Span.ofLine language.rules line ∧ span.kind = .comment ↔
      ∃ place, Unbroken language.marker line.toList place ∧
        span = Span.between line.toList place line.toList.length .comment := by
  have found : language.rules[1]? = some language.commentRule := rfl
  refine (Span.mem_ofLine_of_kind language.distinct_kinds found).trans ⟨?_, ?_⟩
  · rintro ⟨interval, taken, rfl⟩
    obtain ⟨unbroken, stop⟩ := (language.takenBy_comment clean).mp taken
    exact ⟨interval.start, unbroken, by rw [← stop]; rfl⟩
  · rintro ⟨place, unbroken, rfl⟩
    have inside := lt_of_mark language.marker_ne unbroken.marks
    exact ⟨⟨place, line.toList.length, inside⟩, (language.takenBy_comment clean).mpr ⟨unbroken, rfl⟩, rfl⟩

theorem isComment_iff {place : Nat} (outer : OuterMark language.marker line.toList place) :
    (IsComment line (Span.ofLine language.rules line) place ↔ Unbroken language.marker line.toList place) ∧
      (¬Unbroken language.marker line.toList place →
        ∀ span ∈ Span.ofLine language.rules line, span.kind ≠ .comment) := by
  have inside := lt_of_mark language.marker_ne outer.marks
  -- A comment begins at the first marker, which no literal encloses, so that is the outer one.
  have only {span : Span} (member : span ∈ Span.ofLine language.rules line) (kind : span.kind = .comment) :
      Unbroken language.marker line.toList place := by
    obtain ⟨other, unbroken, _⟩ := (language.mem_comment_iff clean).mp ⟨member, kind⟩
    obtain before | rfl | behind := Nat.lt_trichotomy other place
    · obtain ⟨literal, known, _, enclosed⟩ := outer.first other before unbroken.marks
      have bound := unbroken.literals literal known
      omega
    · exact unbroken
    · exact absurd outer.marks (unbroken.first place behind)
  refine ⟨⟨fun comment => only comment.1 rfl, fun unbroken => ?_⟩, fun broken span member kind => ?_⟩
  · have comment := ((language.mem_comment_iff clean).mpr ⟨place, unbroken, rfl⟩).1
    have ends : (Span.between line.toList place line.toList.length .comment).stop = line.utf8ByteSize := by
      rw [Span.stop_between line.toList .comment (Nat.le_of_lt inside), List.take_length, utf8Length_toList]
    exact ⟨comment, fun span member => Span.start_le_of_stop_eq comment ends member⟩
  · exact broken (only member kind)

end Language

def markers : List (Grammar × String) := [(javascript, "//"), (python, "#")]

/-- The first marker outside the literals of a line begins a comment just when it is the first marker at all and no
literal begins behind it. Otherwise the line has no comment. -/
theorem isComment_iff_unbroken {grammar : Grammar} {marker : String} (known : (grammar, marker) ∈ markers)
    {line : String} (clean : '\n' ∉ line.toList) {place : Nat}
    (outer : OuterMark marker.toList line.toList place) :
    (IsComment line (grammar.spans line) place ↔ Unbroken marker.toList line.toList place) ∧
      (¬Unbroken marker.toList line.toList place → ∀ span ∈ grammar.spans line, span.kind ≠ .comment) := by
  simp only [markers, List.mem_cons, Prod.mk.injEq, List.not_mem_nil, or_false] at known
  rcases known with ⟨rfl, rfl⟩ | ⟨rfl, rfl⟩
  · rw [Language.spans_javascript]
    exact Language.javascript.isComment_iff clean outer
  · rw [Language.spans_python]
    exact Language.python.isComment_iff clean outer

/-- A comment behind a literal without a marker is whole. -/
theorem isComment_behind_literal :
    (python, "#") ∈ markers ∧ '\n' ∉ "x = 'a' # b".toList ∧ OuterMark "#".toList "x = 'a' # b".toList 8 ∧
      IsComment "x = 'a' # b" (python.spans "x = 'a' # b") 8 := by
  have known : (python, "#") ∈ markers := List.mem_cons_of_mem _ (List.mem_cons_self ..)
  have clean : '\n' ∉ "x = 'a' # b".toList := by decide
  have outer : OuterMark "#".toList "x = 'a' # b".toList 8 :=
    ⟨by decide, by decide +kernel, by decide +kernel⟩
  exact ⟨known, clean, outer, (isComment_iff_unbroken known clean outer).1.mpr
    ⟨⟨by decide, by decide⟩, by decide +kernel⟩⟩

/-- A literal in a comment breaks it up. -/
theorem exists_broken_comment :
    ¬∀ (grammar : Grammar) (marker : String), (grammar, marker) ∈ markers → ∀ line : String, '\n' ∉ line.toList →
      ∀ place, OuterMark marker.toList line.toList place → IsComment line (grammar.spans line) place := by
  intro whole
  have clean : '\n' ∉ "// return 'x'".toList := by decide
  have outer : OuterMark "//".toList "// return 'x'".toList 0 :=
    ⟨by decide, fun _ _ before => absurd before (Nat.not_lt_zero _), fun _ before => absurd before (Nat.not_lt_zero _)⟩
  have comment := whole javascript "//" (List.mem_cons_self ..) _ clean 0 outer
  rw [Language.spans_javascript] at comment
  have unbroken := (Language.javascript.isComment_iff clean outer).1.mp comment
  have literal : (⟨10, 13, by decide⟩ : Interval) ∈ Literal.scan 0 "// return 'x'".toList := by decide +kernel
  exact absurd (unbroken.literals _ literal) (by decide)

end Grammar

end Highlighter
