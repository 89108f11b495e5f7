import Highlighter.Proofs.Document.RoundTrip
import Highlighter.Proofs.Text.Quoted
import Highlighter.Proofs.Text.Separated
import Highlighter.Terminal.Dump
import Highlighter.Theme.BuiltIn

/-!
Reading a document's listing. As long as no name of a color holds a tab or a line feed, each span has one row, which
its line feed ends, tabs divide into four fields and a colon divides in its first one; so the spans and the numbers of
their lines can be told from it.
-/

namespace Highlighter

/-- The spans of lines, each with the number of its line; the first one has the given number. -/
def Line.numberedFrom (number : Nat) (lines : List Line) : List (Nat × StyledSpan) :=
  (lines.zipIdx number).flatMap fun (line, number) => line.spans.map fun styled => (number, styled)

theorem Line.numberedFrom_cons (number : Nat) (line : Line) (lines : List Line) :
    numberedFrom number (line :: lines) =
      line.spans.map (fun styled => (number, styled)) ++ numberedFrom (number + 1) lines := by
  rw [numberedFrom, List.zipIdx_cons, List.flatMap_cons]
  rfl

def Document.numbered (document : Document) : List (Nat × StyledSpan) := Line.numberedFrom 1 document.lines

def Document.spansAt (document : Document) (index : Nat) : List StyledSpan :=
  (document.lines[index]?.map (·.spans)).getD []

def Theme.colorIds (theme : Theme) : List ColorId := theme.fallback :: theme.colors.map (·.2)

namespace Terminal

def FitsField (color : ColorId) : Prop := '\t' ∉ color.toList ∧ '\n' ∉ color.toList

instance (color : ColorId) : Decidable (FitsField color) :=
  inferInstanceAs (Decidable ('\t' ∉ color.toList ∧ '\n' ∉ color.toList))

def rowOf? (row : List Char) : Option (Nat × StyledSpan) :=
  match row.splitOn '\t' with
  | [place, kind, color, text] =>
    match place.span (· ≠ ':') with
    | (number, ':' :: start) => do
      let number ← Text.number? 10 number
      let start ← Text.number? 10 start
      let kind ← TokenKind.named? (.ofList kind)
      let text ← Text.unquoted? text
      return (number, ⟨⟨.ofList text, kind, start⟩, .ofList color⟩)
    | _ => none
  | _ => none

/-- Reads a listing, in which a line feed ends each row. -/
def rows? (listing : String) : Option (List (Nat × StyledSpan)) :=
  let rows := listing.toList.splitOn '\n'
  if rows.getLast? = some [] then rows.dropLast.mapM rowOf? else none

def fields (number : Nat) (styled : StyledSpan) : List (List Char) :=
  [(toString number).toList ++ ':' :: (toString styled.span.start).toList, styled.span.kind.name.toList,
    styled.color.toList, (Text.quoted styled.span.text).toList]

def row (number : Nat) (styled : StyledSpan) : List Char := ['\t'].intercalate (fields number styled)

theorem toList_dumpSpan (number : Nat) (styled : StyledSpan) :
    (dumpSpan number styled).toList = row number styled ++ ['\n'] := by
  simp [dumpSpan, row, fields, List.intercalate_cons_of_ne_nil]

theorem not_mem_of_mem_fields {mark : Char} (separates : mark = '\t' ∨ mark = '\n') {styled : StyledSpan}
    (fits : FitsField styled.color) (number : Nat) : ∀ field ∈ fields number styled, mark ∉ field := by
  have noDigit : Text.digitValue? 10 mark = none := by rcases separates with rfl | rfl <;> rfl
  have noColon : mark ≠ ':' := by rcases separates with rfl | rfl <;> decide
  have place : mark ∉ (toString number).toList ++ ':' :: (toString styled.span.start).toList := by
    intro member
    rcases List.mem_append.mp member with digit | later
    · exact Text.not_mem_toString noDigit number digit
    · rcases List.mem_cons.mp later with colon | digit
      · exact noColon colon
      · exact Text.not_mem_toString noDigit _ digit
  have kind : mark ∉ styled.span.kind.name.toList := by
    rcases separates with rfl | rfl <;> cases styled.span.kind <;> decide
  have color : mark ∉ styled.color.toList := by
    rcases separates with rfl | rfl
    · exact fits.1
    · exact fits.2
  intro field member
  simp only [fields, List.mem_cons, List.not_mem_nil, or_false] at member
  rcases member with rfl | rfl | rfl | rfl
  · exact place
  · exact kind
  · exact color
  · exact Text.not_mem_quoted separates _

theorem not_mem_row {styled : StyledSpan} (fits : FitsField styled.color) (number : Nat) :
    '\n' ∉ row number styled := by
  intro member
  rcases Text.mem_intercalate member with same | ⟨field, found, inside⟩
  · cases same
  · exact not_mem_of_mem_fields (.inr rfl) fits number field found inside

/-- The colon of a row is the first one in its first field. -/
theorem span_place (number start : Nat) :
    ((toString number).toList ++ ':' :: (toString start).toList).span (· ≠ ':') =
      ((toString number).toList, ':' :: (toString start).toList) := by
  have digits : ∀ digit ∈ (toString number).toList, decide (digit ≠ ':') = true := by
    intro digit member
    exact decide_eq_true fun same => Text.not_mem_toString (by decide) number (same ▸ member)
  rw [List.span_eq_takeWhile_dropWhile, List.takeWhile_append_of_pos digits, List.dropWhile_append_of_pos digits]
  simp

theorem rowOf?_row {styled : StyledSpan} (fits : FitsField styled.color) (number : Nat) :
    rowOf? (row number styled) = some (number, styled) := by
  have divided : (row number styled).splitOn '\t' = fields number styled :=
    List.splitOn_intercalate '\t' (not_mem_of_mem_fields (.inl rfl) fits number) (by simp [fields])
  rw [rowOf?, divided, fields]
  simp only [span_place, Text.number?_toString, String.ofList_toList, TokenKind.named?_name, Text.unquoted?_quoted,
    Option.bind_eq_bind, Option.bind_some, Option.pure_def]

theorem toList_dumpLine (number : Nat) (line : Line) :
    (dumpLine number line).toList = line.spans.flatMap fun styled => row number styled ++ ['\n'] := by
  simp only [dumpLine, String.toList_join, List.flatMap_map, toList_dumpSpan]

theorem toList_dumpLines (number : Nat) (lines : List Line) :
    (dumpLines number lines).toList =
      (Line.numberedFrom number lines).flatMap fun (number, styled) => row number styled ++ ['\n'] := by
  induction lines generalizing number with
  | nil => rfl
  | cons line lines ih =>
    rw [dumpLines, String.toList_append, toList_dumpLine, ih, Line.numberedFrom_cons, List.flatMap_append,
      List.flatMap_map]

theorem mapM_rowOf? {entries : List (Nat × StyledSpan)} (fits : ∀ entry ∈ entries, FitsField entry.2.color) :
    (entries.map fun (number, styled) => row number styled).mapM rowOf? = some entries := by
  induction entries with
  | nil => rfl
  | cons entry entries ih =>
    have first := rowOf?_row (fits entry List.mem_cons_self) entry.1
    have later := ih fun other member => fits other (List.mem_cons_of_mem _ member)
    rw [List.map_cons, List.mapM_cons, first, later]
    rfl

theorem count_rows {entries : List (Nat × StyledSpan)} (fits : ∀ entry ∈ entries, FitsField entry.2.color) :
    (entries.flatMap fun (number, styled) => row number styled ++ ['\n']).count '\n' = entries.length := by
  induction entries with
  | nil => rfl
  | cons entry entries ih =>
    have first : (row entry.1 entry.2).count '\n' = 0 :=
      List.count_eq_zero.mpr (not_mem_row (fits entry List.mem_cons_self) entry.1)
    have later := ih fun other member => fits other (List.mem_cons_of_mem _ member)
    rw [List.flatMap_cons, List.count_append, later, List.count_append, first, List.length_cons]
    simp [Nat.add_comm]

theorem length_numberedFrom (number : Nat) (lines : List Line) :
    (Line.numberedFrom number lines).length = (lines.map (·.spans.length)).sum := by
  induction lines generalizing number with
  | nil => rfl
  | cons line lines ih =>
    rw [Line.numberedFrom_cons, List.length_append, List.length_map, ih, List.map_cons, List.sum_cons]

section Listing

variable {document : Document} (fits : ∀ entry ∈ document.numbered, FitsField entry.2.color)

include fits

theorem count_dump : (dump document).toList.count '\n' = (document.lines.map (·.spans.length)).sum := by
  rw [dump, toList_dumpLines, ← length_numberedFrom 1]
  exact count_rows fits

theorem rows?_dump : rows? (dump document) = some document.numbered := by
  have ended : (dump document).toList =
      (document.numbered.map fun (number, styled) => row number styled).flatMap (· ++ ['\n']) := by
    rw [dump, toList_dumpLines, List.flatMap_map]
    rfl
  have free : ∀ part ∈ document.numbered.map fun (number, styled) => row number styled, '\n' ∉ part := by
    intro part member
    obtain ⟨entry, found, rfl⟩ := List.mem_map.mp member
    exact not_mem_row (fits entry found) entry.1
  rw [rows?, ended, Text.splitOn_ended free, if_pos List.getLast?_concat, List.dropLast_concat]
  exact mapM_rowOf? fits

end Listing

theorem color_mem_colorIds (theme : Theme) (kind : TokenKind) : theme.color kind ∈ theme.colorIds := by
  unfold Theme.color Theme.colorIds
  split
  · exact List.mem_cons_self
  · cases found : theme.colors.lookup kind with
    | none => exact List.mem_cons_self
    | some color =>
      obtain ⟨before, after, colors, -⟩ := List.lookup_eq_some_iff.mp found
      rw [colors]
      simp

theorem color_mem_of_mem_numbered {grammar : Grammar} {theme : Theme} {source : String} {entry : Nat × StyledSpan}
    (member : entry ∈ (Document.ofSource grammar theme source).numbered) : entry.2.color ∈ theme.colorIds := by
  obtain ⟨⟨line, number⟩, numbered, inside⟩ := List.mem_flatMap.mp member
  obtain ⟨styled, found, rfl⟩ := List.mem_map.mp inside
  obtain ⟨text, -, rfl⟩ := List.mem_map.mp (List.fst_mem_of_mem_zipIdx numbered)
  obtain ⟨span, -, rfl⟩ := List.mem_map.mp found
  exact color_mem_colorIds theme span.kind

theorem le_of_mem_numberedFrom {number : Nat} {lines : List Line} {entry : Nat × StyledSpan}
    (member : entry ∈ Line.numberedFrom number lines) : number ≤ entry.1 := by
  obtain ⟨⟨line, own⟩, numbered, inside⟩ := List.mem_flatMap.mp member
  obtain ⟨styled, -, rfl⟩ := List.mem_map.mp inside
  exact List.le_snd_of_mem_zipIdx numbered

theorem map_filter_numberedFrom (number index : Nat) (lines : List Line) :
    ((Line.numberedFrom number lines).filter (·.1 = number + index)).map (·.2) =
      (lines[index]?.map (·.spans)).getD [] := by
  induction lines generalizing number index with
  | nil => rfl
  | cons line lines ih =>
    rw [Line.numberedFrom_cons, List.filter_append, List.map_append]
    cases index with
    | zero =>
      have own : (line.spans.map fun styled => (number, styled)).filter (·.1 = number + 0) =
          line.spans.map fun styled => (number, styled) := by
        rw [List.filter_eq_self]
        simp
      have none : (Line.numberedFrom (number + 1) lines).filter (·.1 = number + 0) = [] := by
        rw [List.filter_eq_nil_iff]
        intro entry member same
        have later := le_of_mem_numberedFrom member
        have equal := of_decide_eq_true same
        omega
      rw [own, none]
      simp
    | succ index =>
      have none : (line.spans.map fun styled => (number, styled)).filter (·.1 = number + (index + 1)) = [] := by
        rw [List.filter_eq_nil_iff]
        simp
      have shifted : number + (index + 1) = number + 1 + index := by omega
      rw [none, List.map_nil, List.nil_append, List.getElem?_cons_succ, ← ih (number + 1) index, shifted]

theorem spansAt_eq (document : Document) (index : Nat) :
    document.spansAt index = (document.numbered.filter (·.1 = 1 + index)).map (·.2) :=
  (map_filter_numberedFrom 1 index document.lines).symm

/-- Listings can be read. For a theme whose names of colors hold neither tabs nor line feeds, as is the case for the
built-in ones, the listing of a document has one row for each span, and the spans with the numbers of their lines can
be told from it. So documents with the same listing have the same spans on the same lines. -/
theorem rows?_dump_ofSource :
    (∀ theme ∈ Theme.builtIn, ∀ color ∈ theme.colorIds, FitsField color) ∧
      ∀ (grammar : Grammar) (theme : Theme) (source : String), (∀ color ∈ theme.colorIds, FitsField color) →
        (dump (.ofSource grammar theme source)).toList.count '\n' =
            ((Document.ofSource grammar theme source).lines.map (·.spans.length)).sum ∧
          rows? (dump (.ofSource grammar theme source)) = some (Document.ofSource grammar theme source).numbered ∧
          ∀ (otherGrammar : Grammar) (otherTheme : Theme) (otherSource : String),
            (∀ color ∈ otherTheme.colorIds, FitsField color) →
            dump (.ofSource otherGrammar otherTheme otherSource) = dump (.ofSource grammar theme source) →
            ∀ index, (Document.ofSource otherGrammar otherTheme otherSource).spansAt index =
              (Document.ofSource grammar theme source).spansAt index := by
  have fits (grammar : Grammar) (theme : Theme) (source : String) (ids : ∀ color ∈ theme.colorIds, FitsField color) :
      ∀ entry ∈ (Document.ofSource grammar theme source).numbered, FitsField entry.2.color :=
    fun entry member => ids _ (color_mem_of_mem_numbered member)
  refine ⟨by decide +kernel, fun grammar theme source ids => ?_⟩
  have read := rows?_dump (fits grammar theme source ids)
  refine ⟨count_dump (fits grammar theme source ids), read, ?_⟩
  intro otherGrammar otherTheme otherSource otherIds same index
  have otherRead := rows?_dump (fits otherGrammar otherTheme otherSource otherIds)
  rw [same, read] at otherRead
  rw [spansAt_eq, spansAt_eq, Option.some.inj otherRead]

/-- A quote, an accent that belongs to it and a tab, once with an empty line behind them and once with two, which the
listing does not tell apart. -/
theorem rows?_dump_ofSource_accent :
    (∀ color ∈ ({ name := "ink", fallback := "black" } : Theme).colorIds, FitsField color) ∧
      dump (.ofSource { name := "none" } { name := "ink", fallback := "black" } "\"\u0301\t\n\n") =
        dump (.ofSource { name := "none" } { name := "ink", fallback := "black" } "\"\u0301\t\n") ∧
      rows? (dump (.ofSource { name := "none" } { name := "ink", fallback := "black" } "\"\u0301\t\n")) =
        some [(1, ⟨⟨"\"\u0301\t", .plain, 0⟩, "black"⟩)] ∧
      ∀ index,
        (Document.ofSource { name := "none" } { name := "ink", fallback := "black" } "\"\u0301\t\n\n").spansAt index =
          (Document.ofSource { name := "none" } { name := "ink", fallback := "black" } "\"\u0301\t\n").spansAt index := by
  have fits : ∀ color ∈ ({ name := "ink", fallback := "black" } : Theme).colorIds, FitsField color := by
    decide +kernel
  have same : dump (.ofSource { name := "none" } { name := "ink", fallback := "black" } "\"\u0301\t\n\n") =
      dump (.ofSource { name := "none" } { name := "ink", fallback := "black" } "\"\u0301\t\n") := by
    decide +kernel
  obtain ⟨-, read, alike⟩ := rows?_dump_ofSource.2 { name := "none" } { name := "ink", fallback := "black" }
    "\"\u0301\t\n" fits
  exact ⟨fits, same, read.trans (by decide +kernel), alike _ _ _ fits same⟩

end Terminal

end Highlighter
