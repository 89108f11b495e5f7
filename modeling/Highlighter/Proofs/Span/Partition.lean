import Highlighter.Proofs.Span.ByteMarks

/-!
The spans of a line are a partition of it. Whatever rules find, and however their patterns overlap, no byte of the
line is lost or stands twice, and what no rule takes is joined as far as it reaches.
-/

namespace Highlighter.Span

/-- Spans that divide a line, with plain text in pieces as long as can be. -/
structure Partition (line : String) (spans : List Span) : Prop where
  text_ne : ∀ span ∈ spans, span.text ≠ ""
  /-- The first span begins where the line does. -/
  start_head : ∀ span ∈ spans.head?, span.start = 0
  /-- Each span begins at the byte behind the one before it. -/
  start_next : spans.IsChain fun left right => right.start = left.start + left.text.utf8ByteSize
  /-- The last span ends where the line does. -/
  stop_getLast : ∀ span ∈ spans.getLast?, span.start + span.text.utf8ByteSize = line.utf8ByteSize
  join_text : String.join (spans.map (·.text)) = line
  /-- The text of each span stands in the line at the bytes from its start on. -/
  slice_text : ∀ span ∈ spans,
    ByteMarks.slice? line span.start (span.start + span.text.utf8ByteSize) = some span.text
  eq_nil : line = "" → spans = []
  /-- Plain text is not followed by plain text. -/
  plain_apart : spans.IsChain fun left right => ¬(left.kind = .plain ∧ right.kind = .plain)

theorem contiguous_ofLine (rules : List Rule) (line : String) :
    Contiguous 0 line.utf8ByteSize (ofLine rules line) := by
  rw [ofLine_eq, ← utf8Length_toList]
  exact contiguous_divideFrom (Taken.between_sorted rules line.toList)

theorem flatMap_text_ofLine (rules : List Rule) (line : String) :
    (ofLine rules line).flatMap (·.text.toList) = line.toList := by
  rw [ofLine_eq]
  exact flatMap_text_divideFrom (Taken.between_sorted rules line.toList)

theorem text_ne_of_mem_ofLine {rules : List Rule} {line : String} {span : Span}
    (member : span ∈ ofLine rules line) : span.text ≠ "" := by
  rw [ofLine_eq] at member
  exact ((mem_divideFrom (Taken.between_sorted rules line.toList)).2 span member).1

theorem isChain_kind_ofLine (rules : List Rule) (line : String) :
    (ofLine rules line).IsChain fun left right => left.kind = .plain → right.kind ≠ .plain := by
  rw [ofLine_eq]
  refine isChain_kind_divideFrom (Taken.between_sorted rules line.toList) ?_
  intro item member
  exact (Taken.valid_ofRules rules line.toList).kind_ne_plain item ((Taken.sorted_perm _).mem_iff.mp member)

theorem slice?_ofLine {rules : List Rule} {line : String} {span : Span} (member : span ∈ ofLine rules line) :
    ByteMarks.slice? line span.start (span.start + span.text.utf8ByteSize) = some span.text := by
  obtain ⟨before, after, spans⟩ := List.append_of_mem member
  have joined := contiguous_ofLine rules line
  have texts := flatMap_text_ofLine rules line
  rw [spans] at joined texts
  rw [List.flatMap_append, List.flatMap_cons] at texts
  have start := joined.start_eq
  rw [Nat.zero_add] at start
  generalize before.flatMap (·.text.toList) = front at start texts
  have first : line.toList.take front.length = front := by simp [← texts]
  have last : line.toList.take (front.length + span.text.toList.length) = front ++ span.text.toList := by
    rw [← texts, ← List.append_assoc, ← List.length_append, List.take_left]
  have cut := ByteMarks.slice?_take line (Nat.le_add_right front.length span.text.toList.length)
  rw [first, last, utf8Length_append, List.drop_left, ← start, utf8Length_toList, String.ofList_toList] at cut
  exact cut

/-- Every division of a line by marks on its bytes stays within the line and its characters, and gives the one
partition of the line into spans. -/
theorem ofLine_partition (order : ByteMarks.StartOrder) (rules : List Rule) (line : String) :
    ByteMarks.spans? order rules line = some (ofLine rules line) ∧ Partition line (ofLine rules line) := by
  have joined := contiguous_ofLine rules line
  refine ⟨ByteMarks.spans?_eq order rules line, ?_⟩
  exact {
    text_ne := fun span member => text_ne_of_mem_ofLine member
    start_head := joined.start_head
    start_next := joined.isChain.imp fun left right next => by rw [next, stop_eq]
    stop_getLast := fun span member => by rw [← stop_eq, joined.stop_getLast span member]
    join_text := by
      rw [← String.toList_inj, String.toList_join, List.flatMap_map]
      exact flatMap_text_ofLine rules line
    slice_text := fun span member => slice?_ofLine member
    eq_nil := by
      intro empty
      have texts := flatMap_text_ofLine rules line
      rw [List.eq_nil_iff_forall_not_mem]
      intro span member
      have none := List.flatMap_eq_nil_iff.mp (texts.trans (by rw [empty]; rfl)) span member
      exact text_ne_of_mem_ofLine member (String.toList_eq_nil_iff.mp none)
    plain_apart := (isChain_kind_ofLine rules line).imp fun left right apart both => apart both.1 both.2 }

end Highlighter.Span
