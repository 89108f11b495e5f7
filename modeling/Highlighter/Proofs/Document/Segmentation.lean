import Highlighter.Definition
import Highlighter.Proofs.Document.RoundTrip
import Highlighter.Proofs.Span.Kinds
import Highlighter.Theme.BuiltIn

/-!
Kinds and themes name and color the spans of a document and do no more. Where its lines are divided is decided by the
patterns of the grammar, and of a theme only the colors of plain text and of the kinds that the rules have are seen.
-/

namespace Highlighter

/-- A line under two grammars: the same text in spans that correspond. -/
structure Line.Corresponds (left right : Grammar) (line other : Line) : Prop where
  text_eq : line.text = other.text
  spans : List.Forall₂ (Span.Corresponds left.rules right.rules line.text) (line.spans.map (·.span))
    (other.spans.map (·.span))

/-- The themes give plain text and every kind of a rule of the grammar the same color. -/
structure Theme.AgreesFor (grammar : Grammar) (theme other : Theme) : Prop where
  fallback_eq : theme.fallback = other.fallback
  color_eq : ∀ rule ∈ grammar.rules, theme.color rule.kind = other.color rule.kind

theorem Line.spans_ofText (grammar : Grammar) (theme : Theme) (text : String) :
    (ofText grammar theme text).spans.map (·.span) = Span.ofLine grammar.rules text := by
  rw [ofText, List.map_map]
  exact List.map_id _

theorem Line.corresponds_ofText {left right : Grammar}
    (same : left.rules.map (·.pattern) = right.rules.map (·.pattern)) (theme other : Theme) (text : String) :
    Corresponds left right (ofText left theme text) (ofText right other text) where
  text_eq := by rw [text_ofText, text_ofText]
  spans := by
    rw [spans_ofText, spans_ofText, text_ofText]
    exact Span.corresponds_ofLine same text

theorem Span.kind_cases {rules : List Rule} {line : String} {span : Span} (member : span ∈ ofLine rules line) :
    span.kind = .plain ∨ ∃ rule ∈ rules, rule.kind = span.kind := by
  refine or_iff_not_imp_left.mpr fun notPlain => ?_
  obtain ⟨index, rule, found, kind, _⟩ := (exists_span_iff notPlain).mp ⟨span, member, rfl, rfl⟩
  exact ⟨rule, List.mem_of_getElem? found, kind⟩

theorem Line.ofText_eq_of_agreesFor {grammar : Grammar} {theme other : Theme} (agree : theme.AgreesFor grammar other)
    (text : String) : ofText grammar theme text = ofText grammar other text := by
  refine congrArg Line.mk (List.map_congr_left fun span member => ?_)
  have color : theme.color span.kind = other.color span.kind := by
    rcases Span.kind_cases member with plain | ⟨rule, inRules, kind⟩
    · rw [plain]
      exact agree.fallback_eq
    · rw [← kind]
      exact agree.color_eq rule inRules
  rw [color]

namespace Document

/-- Two grammars with the same patterns in the same order give a source the same lines with spans at the same places,
whatever kinds their rules have and whatever the themes are: such spans are plain in both documents or have the kinds
of one rule. Under one grammar, themes that agree about plain text and the kinds of its rules give one document. -/
theorem ofSource_segmentation (source : String) :
    (∀ (left right : Grammar) (theme other : Theme), left.rules.map (·.pattern) = right.rules.map (·.pattern) →
      List.Forall₂ (Line.Corresponds left right) (ofSource left theme source).lines
        (ofSource right other source).lines) ∧
    ∀ (grammar : Grammar) (theme other : Theme), theme.AgreesFor grammar other →
      ofSource grammar theme source = ofSource grammar other source := by
  constructor
  · intro left right theme other same
    refine List.forall₂_map_left_iff.mpr (List.forall₂_map_right_iff.mpr (List.forall₂_same.mpr fun text _ => ?_))
    exact Line.corresponds_ofText same theme other text
  · intro grammar theme other agree
    exact congrArg Document.mk (List.map_congr_left fun text _ => Line.ofText_eq_of_agreesFor agree text)

/-- Words in quotes and bare words are strings and keywords, or comments and functions. The second theme for the former
has a color for plain text, another one for numbers and no background. -/
theorem ofSource_segmentation_renamed : ∃ left right : Grammar, ∃ repainted : Theme,
    (GrammarDefinition.grammar ⟨"a", [("string", "'[a-z]*'"), ("keyword", "[a-z]+")], [], none⟩ = .ok left ∧
      GrammarDefinition.grammar ⟨"b", [("comment", "'[a-z]*'"), ("function", "[a-z]+")], [], none⟩ = .ok right ∧
      repainted = ⟨"c", [(.plain, "red"), (.number, "red")] ++ Theme.monokai.colors, Theme.monokai.fallback, none⟩) ∧
    (left.rules.map (·.pattern) = right.rules.map (·.pattern) ∧ Theme.monokai.AgreesFor left repainted) ∧
    List.Forall₂ (Line.Corresponds left right) (ofSource left .monokai "if 'if'\r\nx").lines
      (ofSource right .nord "if 'if'\r\nx").lines ∧
    ofSource left .monokai "if 'if'\r\nx" = ofSource left repainted "if 'if'\r\nx" := by
  have known : ∃ left right : Grammar,
      (GrammarDefinition.grammar ⟨"a", [("string", "'[a-z]*'"), ("keyword", "[a-z]+")], [], none⟩ = .ok left ∧
        GrammarDefinition.grammar ⟨"b", [("comment", "'[a-z]*'"), ("function", "[a-z]+")], [], none⟩ = .ok right) ∧
      left.rules.map (·.pattern) = right.rules.map (·.pattern) ∧
        ∀ rule ∈ left.rules, rule.kind = .string ∨ rule.kind = .keyword :=
    ⟨_, _, ⟨rfl, rfl⟩, rfl, by simp⟩
  obtain ⟨left, right, ⟨leftValid, rightValid⟩, same, kinds⟩ := known
  obtain ⟨segments, colors⟩ := ofSource_segmentation "if 'if'\r\nx"
  have agree : Theme.monokai.AgreesFor left
      ⟨"c", [(.plain, "red"), (.number, "red")] ++ Theme.monokai.colors, Theme.monokai.fallback, none⟩ := by
    refine ⟨rfl, fun rule member => ?_⟩
    rcases kinds rule member with string | keyword
    · rw [string]
      rfl
    · rw [keyword]
      rfl
  exact ⟨left, right, _, ⟨leftValid, rightValid, rfl⟩, ⟨same, agree⟩, segments left right .monokai .nord same,
    colors left .monokai _ agree⟩

end Document

end Highlighter
