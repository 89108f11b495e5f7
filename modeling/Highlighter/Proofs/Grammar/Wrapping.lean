import Highlighter.Grammar
import Highlighter.Proofs.Pattern.TokenGroup
import Highlighter.Span.ByteMarks

/-!
Rules with the whole pattern in a group "token". They are searched for in another way but find the same, so that it
makes no difference to a grammar which of its rules have that form.
-/

namespace Highlighter

theorem Span.ofLine_of_intervals {rule other : Rule} (kind : other.kind = rule.kind)
    (same : ∀ text, other.intervals text = rule.intervals text) (before after : List Rule) (line : String) :
    ofLine (before ++ other :: after) line = ofLine (before ++ rule :: after) line := by
  have step (taken : List Taken) : Taken.addRule line.toList taken other = Taken.addRule line.toList taken rule := by
    rw [Taken.addRule, Taken.addRule, same, kind]
  simp only [ofLine, Taken.ofRules, List.foldl_append, List.foldl_cons, step]

namespace Rule

theorem ofText?_of_ofSource {kind : TokenKind} {source : String} {rule : Rule}
    (valid : ofSource kind source = .ok rule) : rule.kind = kind ∧ Pattern.ofText? source = some rule.pattern := by
  unfold ofSource read at valid
  split at valid
  · cases valid
  · split at valid
    next pattern read =>
      cases valid
      exact ⟨rfl, read⟩
    next => cases valid

/-- The rule of a pattern and the rule of the same pattern in a group "token" are searched for in different ways. They
find the same in every text, and a grammar that has the one in place of the other divides every line in the same way. -/
theorem tokenGroup_finds_same {kind : TokenKind} {source : String} {plain wrapped : Rule}
    (plainValid : ofSource kind source = .ok plain)
    (wrappedValid : ofSource kind (Pattern.tokenGroup source) = .ok wrapped) :
    (plain.pattern.narrowed = false ∧ wrapped.pattern.narrowed = true) ∧
      (∀ text, wrapped.byteRanges text = plain.byteRanges text) ∧
      ∀ (grammar : Grammar) (before after : List Rule), grammar.rules = before ++ plain :: after →
        ∀ line, { grammar with rules := before ++ wrapped :: after }.spans line = grammar.spans line := by
  obtain ⟨kind_eq, read⟩ := ofText?_of_ofSource plainValid
  obtain ⟨wrapped_kind_eq, readWrapped⟩ := ofText?_of_ofSource wrappedValid
  obtain ⟨whole, narrowed, same⟩ := Pattern.intervals_tokenGroup read readWrapped
  refine ⟨⟨whole, narrowed⟩, fun text => ?_, fun grammar before after rules line => ?_⟩
  · rw [byteRanges, intervals, same]
    rfl
  · rw [Grammar.spans, Grammar.spans, rules]
    exact Span.ofLine_of_intervals (wrapped_kind_eq.trans kind_eq.symm) same before after line

/-- Lazy repetition, letters of either case, a group of its own and matches of the empty text. -/
theorem tokenGroup_finds_same_lazily :
    ∃ plain wrapped, ofSource .keyword "(?i)fo+?|(b)|\\s*" = .ok plain ∧
      ofSource .keyword "(?P<token>(?i)fo+?|(b)|\\s*)" = .ok wrapped ∧
      plain.byteRanges "b  fOo" = [(0, 1), (1, 3), (3, 5)] ∧
      wrapped.byteRanges "b  fOo" = [(0, 1), (1, 3), (3, 5)] := by
  have found : (ofSource .keyword "(?i)fo+?|(b)|\\s*").toOption.map (·.byteRanges "b  fOo") =
      some [(0, 1), (1, 3), (3, 5)] := by decide +kernel
  have compiles : (ofSource .keyword "(?P<token>(?i)fo+?|(b)|\\s*)").toOption.isSome := by decide +kernel
  cases plainValid : ofSource .keyword "(?i)fo+?|(b)|\\s*" with
  | error => simp [plainValid, Except.toOption] at found
  | ok plain =>
    cases wrappedValid : ofSource .keyword "(?P<token>(?i)fo+?|(b)|\\s*)" with
    | error => simp [wrappedValid, Except.toOption] at compiles
    | ok wrapped =>
      rw [plainValid] at found
      have ranges : plain.byteRanges "b  fOo" = [(0, 1), (1, 3), (3, 5)] := Option.some.inj found
      have same := (tokenGroup_finds_same plainValid wrappedValid).2.1 "b  fOo"
      exact ⟨plain, wrapped, rfl, rfl, ranges, same.trans ranges⟩

end Rule

end Highlighter
