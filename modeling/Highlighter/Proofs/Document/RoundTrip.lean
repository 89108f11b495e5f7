import Highlighter.Document
import Highlighter.Proofs.Span.Partition
import Highlighter.Proofs.Text.Lines

/-!
From a document back to its source text. The texts of a document's lines are the lines of the source, so with line
feeds between them they are the source with line feeds alone for line breaks.
-/

namespace Highlighter

theorem Line.text_ofText (grammar : Grammar) (theme : Theme) (text : String) :
    (Line.ofText grammar theme text).text = text := by
  rw [← String.toList_inj, Line.text, Line.ofText, String.toList_join, List.map_map, List.flatMap_map]
  exact Span.flatMap_text_ofLine grammar.rules text

namespace Document

theorem texts_ofSource (grammar : Grammar) (theme : Theme) (source : String) :
    (ofSource grammar theme source).lines.map (·.text) = Text.lines source := by
  rw [ofSource, List.map_map]
  have same : (fun line : Line => line.text) ∘ Line.ofText grammar theme = id :=
    funext fun text => Line.text_ofText grammar theme text
  rw [same, List.map_id]

theorem not_mem_of_mem_lines {grammar : Grammar} {theme : Theme} {source : String} {char : Char}
    (absent : char ∉ source.toList) {line : Line} (member : line ∈ (ofSource grammar theme source).lines) :
    char ∉ line.text.toList := by
  have texts := texts_ofSource grammar theme source
  exact fun inside => absent (Text.mem_of_mem_lines (texts ▸ List.mem_map_of_mem member) inside)

/-- Every document keeps its source text: it has one line more than the source has line feeds, no line holds a line
feed, the lines with line feeds between them are the source with every carriage return in front of a line feed left
out, and in each line the spans begin behind the bytes of the spans before them. -/
theorem ofSource_roundTrip (grammar : Grammar) (theme : Theme) (source : String) :
    (ofSource grammar theme source).lines.length = 1 + source.toList.count '\n' ∧
      (∀ line ∈ (ofSource grammar theme source).lines, '\n' ∉ line.text.toList) ∧
      "\n".intercalate ((ofSource grammar theme source).lines.map (·.text)) =
        .ofList (Text.withoutBreakReturns source.toList) ∧
      ∀ line ∈ (ofSource grammar theme source).lines, ∀ before styled after,
        line.spans = before ++ styled :: after →
          styled.span.start = (before.map (·.span.text.utf8ByteSize)).sum := by
  have texts := texts_ofSource grammar theme source
  refine ⟨?_, ?_, ?_, ?_⟩
  · rw [← Text.length_lines, ← texts, List.length_map]
  · intro line member
    exact Text.not_mem_of_mem_lines (texts ▸ List.mem_map_of_mem member)
  · rw [texts, Text.intercalate_lines]
  · intro line member before styled after spans
    obtain ⟨text, _, rfl⟩ := List.mem_map.mp member
    have divided := congrArg (List.map StyledSpan.span) spans
    simp only [Line.ofText, List.map_map, List.map_append, List.map_cons] at divided
    have unstyled : StyledSpan.span ∘ (fun span => ⟨span, theme.color span.kind⟩) = id := rfl
    rw [unstyled, List.map_id, Grammar.spans] at divided
    have joined := Span.contiguous_ofLine grammar.rules text
    rw [divided] at joined
    rw [joined.start_eq, Nat.zero_add, utf8Length_flatMap, List.map_map]
    rfl

end Document

end Highlighter
