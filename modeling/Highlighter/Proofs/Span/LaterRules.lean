import Highlighter.Proofs.Span.Origin

/-!
Later rules. What rules have taken stays taken whatever rules come behind them, so these can only divide what the
former leave as plain text.
-/

namespace Highlighter

namespace Taken

theorem subset_addRule (line : List Char) (taken : List Taken) (rule : Rule) : taken ⊆ addRule line taken rule :=
  fun _ member => mem_addRule.mpr (.inl member)

theorem subset_foldl_addRule (line : List Char) (taken : List Taken) (rules : List Rule) :
    taken ⊆ rules.foldl (addRule line) taken := by
  induction rules generalizing taken with
  | nil => exact List.Subset.refl taken
  | cons rule rest ih => exact List.Subset.trans (subset_addRule line taken rule) (ih (addRule line taken rule))

theorem ofRules_subset_append (line : List Char) (rules later : List Rule) :
    ofRules rules line ⊆ ofRules (rules ++ later) line := by
  unfold ofRules
  rw [List.foldl_append]
  exact subset_foldl_addRule line _ later

end Taken

namespace Span

/-- What the first of some rules give a kind other than plain text is the same under all of them. -/
theorem mem_ofLine_append {rules : List Rule} {line : String} {span : Span} (member : span ∈ ofLine rules line)
    (notPlain : span.kind ≠ .plain) (later : List Rule) : span ∈ ofLine (rules ++ later) line := by
  obtain ⟨index, item, taken, same⟩ := (mem_ofLine notPlain).mp member
  have kept := Taken.ofRules_subset_append line.toList rules later (Taken.mem_ofRules.mpr ⟨index, taken⟩)
  obtain ⟨place, takenLater⟩ := Taken.mem_ofRules.mp kept
  exact (mem_ofLine notPlain).mpr ⟨place, item, takenLater, same⟩

theorem Contiguous.exists_next {first last : Nat} {spans : List Span} (joined : Contiguous first last spans)
    (apart : spans.IsChain fun left right => left.kind = .plain → right.kind ≠ .plain) {gap : Span}
    (member : gap ∈ spans) (plain : gap.kind = .plain) (inside : gap.stop < last) :
    ∃ next ∈ spans, next.start = gap.stop ∧ next.kind ≠ .plain := by
  induction spans generalizing first with
  | nil => cases member
  | cons span rest ih =>
    rcases List.mem_cons.mp member with rfl | behind
    · cases rest with
      | nil =>
        have ends : gap.stop = last := joined.2
        omega
      | cons next rest =>
        exact ⟨next, by simp, joined.2.1, (List.isChain_cons_cons.mp apart).1 plain⟩
    · obtain ⟨next, nextMember, found⟩ := ih joined.2 apart.tail behind
      exact ⟨next, List.mem_cons_of_mem _ nextMember, found⟩

/-- A division of the same text that leaves all but plain text as it is, and at most divides that. -/
structure Refines (fine coarse : List Span) : Prop where
  kept : ∀ span ∈ coarse, span.kind ≠ .plain → span ∈ fine
  within : ∀ span ∈ fine, (span ∈ coarse ∧ span.kind ≠ .plain) ∨
    ∃ gap ∈ coarse, gap.kind = .plain ∧ gap.start ≤ span.start ∧ span.stop ≤ gap.stop

/-- Later rules only refine what earlier ones have made of a line. -/
theorem refines_ofLine_append (rules later : List Rule) (line : String) :
    Refines (ofLine (rules ++ later) line) (ofLine rules line) where
  kept span member notPlain := mem_ofLine_append member notPlain later
  within := by
    intro span member
    have joined := contiguous_ofLine rules line
    have laterJoined := contiguous_ofLine (rules ++ later) line
    have nonempty := start_lt_stop member
    have bounds := laterJoined.mem_bounds span member
    -- A span of the first rules that is not plain text and shares a byte with this one is this one.
    have same {other : Span} (known : other ∈ ofLine rules line) (notPlain : other.kind ≠ .plain) {byte : Nat}
        (inOther : other.start ≤ byte ∧ byte < other.stop) (inSpan : span.start ≤ byte ∧ byte < span.stop) :
        other = span :=
      laterJoined.eq_of_covering (mem_ofLine_append known notPlain later) member inOther inSpan
    obtain ⟨gap, gapMember, covered⟩ := joined.exists_covering (Nat.zero_le span.start) (by omega)
    by_cases plain : gap.kind = .plain
    · refine .inr ⟨gap, gapMember, plain, covered.1, ?_⟩
      by_contra reaches
      obtain ⟨next, nextMember, start, notPlain⟩ :=
        joined.exists_next (isChain_kind_ofLine rules line) gapMember plain (by omega)
      have nextNonempty := start_lt_stop nextMember
      have shared := same nextMember notPlain ⟨Nat.le_refl next.start, nextNonempty⟩ (by omega)
      rw [← shared] at covered
      omega
    · have shared := same gapMember plain covered ⟨Nat.le_refl _, nonempty⟩
      exact .inl ⟨shared ▸ gapMember, shared ▸ plain⟩

end Span

end Highlighter
