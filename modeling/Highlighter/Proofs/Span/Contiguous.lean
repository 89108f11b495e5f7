import Highlighter.Proofs.Text.Bytes
import Highlighter.Span
import Mathlib.Data.List.Chain

/-! Spans without gaps: each begins at the byte at which the one before it ends. -/

namespace Highlighter.Span

/-- Spans that follow one another without a gap from one byte to another. -/
def Contiguous : Nat → Nat → List Span → Prop
  | first, last, [] => first = last
  | first, last, span :: rest => span.start = first ∧ Contiguous span.stop last rest

theorem Contiguous.append {first middle last : Nat} {front back : List Span}
    (frontJoined : Contiguous first middle front) (backJoined : Contiguous middle last back) :
    Contiguous first last (front ++ back) := by
  induction front generalizing first with
  | nil => exact frontJoined ▸ backJoined
  | cons span rest ih => exact ⟨frontJoined.1, ih frontJoined.2⟩

theorem stop_eq (span : Span) : span.stop = span.start + span.text.utf8ByteSize := by
  rw [stop, utf8Length_toList]

namespace Contiguous

variable {first last : Nat} {spans : List Span}

theorem le (joined : Contiguous first last spans) : first ≤ last := by
  induction spans generalizing first with
  | nil => exact Nat.le_of_eq joined
  | cons span rest ih =>
    have bound := ih joined.2
    have start := joined.1
    have stop := stop_eq span
    omega

theorem start_head (joined : Contiguous first last spans) : ∀ span ∈ spans.head?, span.start = first := by
  cases spans with
  | nil => simp
  | cons span rest => simpa using joined.1

theorem stop_getLast (joined : Contiguous first last spans) : ∀ span ∈ spans.getLast?, span.stop = last := by
  induction spans generalizing first with
  | nil => simp
  | cons span rest ih =>
    cases rest with
    | nil =>
      intro other member
      cases member
      exact joined.2
    | cons other rest => simpa using ih joined.2

theorem isChain (joined : Contiguous first last spans) :
    spans.IsChain fun left right => right.start = left.stop := by
  induction spans generalizing first with
  | nil => exact .nil
  | cons span rest ih =>
    cases rest with
    | nil => exact .singleton _
    | cons other rest => exact .cons_cons joined.2.1 (ih joined.2)

theorem start_eq {before after : List Span} {span : Span}
    (joined : Contiguous first last (before ++ span :: after)) :
    span.start = first + utf8Length (before.flatMap (·.text.toList)) := by
  induction before generalizing first with
  | nil => exact joined.1
  | cons other rest ih =>
    have later := ih joined.2
    have start := joined.1
    rw [List.flatMap_cons, utf8Length_append, later, stop, start]
    omega

theorem mem_bounds (joined : Contiguous first last spans) :
    ∀ span ∈ spans, first ≤ span.start ∧ span.stop ≤ last := by
  induction spans generalizing first with
  | nil => simp
  | cons span rest ih =>
    intro other member
    have bound := joined.2.le
    have start := joined.1
    have stop := stop_eq span
    rcases List.mem_cons.mp member with rfl | later
    · omega
    · have inside := ih joined.2 other later
      omega

theorem pairwise (joined : Contiguous first last spans) :
    spans.Pairwise fun left right => left.stop ≤ right.start := by
  induction spans generalizing first with
  | nil => exact .nil
  | cons span rest ih =>
    exact .cons (fun other member => (joined.2.mem_bounds other member).1) (ih joined.2)

theorem exists_covering (joined : Contiguous first last spans) {byte : Nat} (above : first ≤ byte)
    (below : byte < last) : ∃ span ∈ spans, span.start ≤ byte ∧ byte < span.stop := by
  induction spans generalizing first with
  | nil =>
    have same : first = last := joined
    omega
  | cons span rest ih =>
    by_cases inside : byte < span.stop
    · exact ⟨span, List.mem_cons_self .., by have start := joined.1; omega, inside⟩
    · obtain ⟨other, member, covered⟩ := ih joined.2 (by omega)
      exact ⟨other, List.mem_cons_of_mem _ member, covered⟩

theorem eq_of_covering (joined : Contiguous first last spans) {left right : Span} (leftMember : left ∈ spans)
    (rightMember : right ∈ spans) {byte : Nat} (inLeft : left.start ≤ byte ∧ byte < left.stop)
    (inRight : right.start ≤ byte ∧ byte < right.stop) : left = right := by
  induction spans generalizing first with
  | nil => cases leftMember
  | cons span rest ih =>
    have behind := joined.2.mem_bounds
    rcases List.mem_cons.mp leftMember with rfl | leftLater
    · rcases List.mem_cons.mp rightMember with rfl | rightLater
      · rfl
      · have bound := behind right rightLater
        omega
    · rcases List.mem_cons.mp rightMember with rfl | rightLater
      · have bound := behind left leftLater
        omega
      · exact ih joined.2 leftLater rightLater

end Contiguous

end Highlighter.Span
