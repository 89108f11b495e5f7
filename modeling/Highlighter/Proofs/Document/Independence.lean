import Highlighter.Catalog
import Highlighter.Proofs.Text.Lines

/-!
Lines are taken by themselves. A line feed parts a document in two that know nothing of each other, so what stands on
one line of a source decides that line of the document and no other, whatever the patterns of the grammar look for.
-/

namespace Highlighter

namespace Document

theorem lines_ofSource_append (grammar : Grammar) (theme : Theme) (first second : String) :
    (ofSource grammar theme (first ++ "\n" ++ second)).lines =
      (ofSource grammar theme (.ofList (Text.withoutFinalReturn first.toList))).lines ++
        (ofSource grammar theme second).lines := by
  simp only [ofSource]
  rw [Text.lines_append, List.map_append]

theorem lines_ofSource_of_not_mem (grammar : Grammar) (theme : Theme) {text : String}
    (single : '\n' ∉ text.toList) : (ofSource grammar theme text).lines = [Line.ofText grammar theme text] := by
  simp only [ofSource]
  rw [Text.lines_of_not_mem single, List.map_singleton]

/-- What a physical line is of a source that goes on behind it: its carriage return belongs to the line break. -/
def physicalLine (text : String) (after : List String) : String :=
  if after = [] then text else .ofList (Text.withoutFinalReturn text.toList)

theorem lines_ofSource_intercalate_cons (grammar : Grammar) (theme : Theme) (after : List String) :
    ∃ below, ∀ text : String, '\n' ∉ text.toList →
      (ofSource grammar theme ("\n".intercalate (text :: after))).lines =
        Line.ofText grammar theme (physicalLine text after) :: below := by
  cases after with
  | nil => exact ⟨[], fun text single => by simpa [physicalLine] using lines_ofSource_of_not_mem grammar theme single⟩
  | cons next rest =>
    refine ⟨(ofSource grammar theme ("\n".intercalate (next :: rest))).lines, fun text single => ?_⟩
    have cut : '\n' ∉ (String.ofList (Text.withoutFinalReturn text.toList)).toList := by
      rw [String.toList_ofList]
      exact fun inside => single (Text.mem_of_mem_withoutFinalReturn inside)
    rw [String.intercalate_cons_of_ne_nil (List.cons_ne_nil _ _), lines_ofSource_append,
      lines_ofSource_of_not_mem grammar theme cut, physicalLine, if_neg (List.cons_ne_nil _ _)]
    rfl

/-- Lines are independent. The lines of two texts with a line feed between them are the lines of the first, without
the carriage return that it may end with, and then the lines of the second. So one line of a source, with any text
between its line feeds, is one line of the document, and the lines above and below are the same for all such texts. -/
theorem lines_ofSource_independent (grammar : Grammar) (theme : Theme) :
    (∀ first second : String,
      (ofSource grammar theme (first ++ "\n" ++ second)).lines =
        (ofSource grammar theme (.ofList (Text.withoutFinalReturn first.toList))).lines ++
          (ofSource grammar theme second).lines) ∧
      ∀ before after : List String, ∃ above below : List Line, ∀ text : String, '\n' ∉ text.toList →
        (ofSource grammar theme ("\n".intercalate (before ++ text :: after))).lines =
          above ++ Line.ofText grammar theme (physicalLine text after) :: below := by
  refine ⟨lines_ofSource_append grammar theme, fun before after => ?_⟩
  obtain ⟨below, behind⟩ := lines_ofSource_intercalate_cons grammar theme after
  induction before with
  | nil => exact ⟨[], below, behind⟩
  | cons first rest ih =>
    obtain ⟨above, below, changes⟩ := ih
    refine ⟨(ofSource grammar theme (.ofList (Text.withoutFinalReturn first.toList))).lines ++ above, below, ?_⟩
    intro text single
    rw [List.cons_append, String.intercalate_cons_of_ne_nil (by simp), lines_ofSource_append, changes text single,
      List.append_assoc]

/-- A line that ends with a carriage return and one that opens a string, between the same two lines. -/
theorem lines_ofSource_independent_quote :
    ('\n' ∉ "b\r".toList ∧ '\n' ∉ "'".toList) ∧
      ∃ above below,
        (ofSource .javascript .monokai "a\nb\r\nc'").lines = above ++ Line.ofText .javascript .monokai "b" :: below ∧
          (ofSource .javascript .monokai "a\n'\nc'").lines = above ++ Line.ofText .javascript .monokai "'" :: below := by
  have clean : '\n' ∉ "b\r".toList ∧ '\n' ∉ "'".toList := by decide
  obtain ⟨above, below, changes⟩ := (lines_ofSource_independent .javascript .monokai).2 ["a"] ["c'"]
  have first := changes "b\r" clean.1
  have second := changes "'" clean.2
  exact ⟨clean, above, below, first, second⟩

end Document

end Highlighter
