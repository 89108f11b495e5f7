import Highlighter.Grammar.BuiltIn
import Highlighter.Proofs.Document.RoundTrip
import Highlighter.Proofs.Text.Digits
import Highlighter.Proofs.Text.Separated
import Highlighter.Terminal.Render
import Mathlib.Data.List.TakeDrop

/-!
What a terminal shows of a text. Sequences of characters that begin with an escape switch the style, and every other
character is shown in the style that is on. A rendered document shows the characters of its spans, each in the style
of its span, and leaves the terminal in its default style after every line.
-/

namespace Highlighter.Terminal

/-- How characters are shown. Without a color of its own the foreground has the default one. -/
structure Style where
  italic : Bool := false
  foreground : Option TerminalColor := none
  deriving DecidableEq, Repr

structure Cell where
  char : Char
  style : Style
  deriving DecidableEq, Repr

def paletteColor? : Nat → Option TerminalColor
  | 0 => some .black
  | 1 => some .darkRed
  | 2 => some .darkGreen
  | 3 => some .darkYellow
  | 4 => some .darkBlue
  | 5 => some .darkMagenta
  | 6 => some .darkCyan
  | 8 => some .darkGrey
  | 9 => some .red
  | 10 => some .green
  | 11 => some .yellow
  | 12 => some .blue
  | 13 => some .magenta
  | 14 => some .cyan
  | 15 => some .white
  | _ => none

/-- The style after a sequence with the given codes: none or a zero alone bring the default back, and codes that mean
nothing here change nothing. -/
def Style.switch (style : Style) : List Nat → Style
  | [] => {}
  | [0] => {}
  | [3] => { style with italic := true }
  | [38, 5, number] => { style with foreground := (paletteColor? number).or style.foreground }
  | [38, 2, red, green, blue] => { style with foreground := some (.rgb red green blue) }
  | _ => style

theorem Style.switch_code (style : Style) (color : TerminalColor) :
    style.switch (38 :: color.code) = { style with foreground := some color } := by
  cases color <;> rfl

def isParameter (char : Char) : Bool := (Text.digitValue? 10 char).isSome || char = ';'

def codes? (parameters : List Char) : Option (List Nat) :=
  if parameters.isEmpty then some [] else (parameters.splitOn ';').mapM (Text.number? 10)

def sequence? : List Char → Option (List Nat × List Char)
  | '\x1b' :: '[' :: rest =>
    match rest.span isParameter with
    | (parameters, 'm' :: rest) => (codes? parameters).map fun codes => (codes, rest)
    | _ => none
  | _ => none

theorem length_of_sequence? {text rest : List Char} {codes : List Nat} (found : sequence? text = some (codes, rest)) :
    rest.length < text.length := by
  unfold sequence? at found
  split at found
  next behind =>
    split at found
    next parameters after spanned =>
      rw [List.span_eq_takeWhile_dropWhile, Prod.mk.injEq] at spanned
      have shorter := (List.dropWhile_sublist isParameter (l := behind)).length_le
      rw [spanned.2, List.length_cons] at shorter
      obtain ⟨_, _, same⟩ := Option.map_eq_some_iff.mp found
      rw [← (Prod.mk.inj same).2]
      simp only [List.length_cons]
      omega
    next => cases found
  next => cases found

/-- What a terminal in a style shows of a text, and the style that it leaves the terminal in. -/
def shown (style : Style) (text : List Char) : List Cell × Style :=
  match _found : sequence? text with
  | some (codes, rest) => shown (style.switch codes) rest
  | none =>
    match text with
    | [] => ([], style)
    | char :: rest =>
      let (cells, last) := shown style rest
      (⟨char, style⟩ :: cells, last)
termination_by text.length
decreasing_by
  · exact length_of_sequence? _found
  · exact Nat.lt_succ_self _

/-- The characters of a text that are shown, which leaves out the sequences. -/
def withoutSequences (text : List Char) : List Char := (shown {} text).1.map (·.char)

@[simp]
theorem shown_nil (style : Style) : shown style [] = ([], style) := by
  rw [shown]
  rfl

theorem shown_of_sequence? {text rest : List Char} {codes : List Nat} (style : Style)
    (found : sequence? text = some (codes, rest)) : shown style text = shown (style.switch codes) rest := by
  rw [shown]
  split
  next other behind read =>
    rw [found, Option.some.injEq, Prod.mk.injEq] at read
    rw [read.1, read.2]
  next none => exact absurd (found.symm.trans none) (by simp)

theorem shown_cons (style : Style) {char : Char} (ordinary : char ≠ '\x1b') (rest : List Char) :
    shown style (char :: rest) = (⟨char, style⟩ :: (shown style rest).1, (shown style rest).2) := by
  have none : sequence? (char :: rest) = none := by
    unfold sequence?
    split
    next same => exact absurd (List.cons.inj same).1 ordinary
    next => rfl
  rw [shown]
  split
  next found => exact absurd (none.symm.trans found) (by simp)
  next => rfl

theorem shown_append (style : Style) {text : List Char} (ordinary : '\x1b' ∉ text) (rest : List Char) :
    shown style (text ++ rest) = (text.map (⟨·, style⟩) ++ (shown style rest).1, (shown style rest).2) := by
  induction text with
  | nil => rfl
  | cons char text ih =>
    obtain ⟨first, later⟩ := not_or.mp (mt List.mem_cons.mpr ordinary)
    rw [List.cons_append, shown_cons style (Ne.symm first), ih later]
    rfl

def parameters (codes : List Nat) : List Char := [';'].intercalate (codes.map fun code => (toString code).toList)

theorem toList_rendition (codes : List Nat) :
    (rendition codes).toList = '\x1b' :: '[' :: parameters codes ++ ['m'] := by
  simp [rendition, parameters, String.toList_intercalate, Function.comp_def]

theorem isParameter_of_mem_toString {code : Nat} {char : Char} (member : char ∈ (toString code).toList) :
    isParameter char = true := by
  rw [Nat.toString_eq_ofList_toDigits, String.toList_ofList] at member
  obtain ⟨digit, value⟩ := Text.exists_digitValue?_of_mem_toDigits (by decide) (by decide) member
  simp [isParameter, value]

theorem isParameter_of_mem_parameters {codes : List Nat} {char : Char} (member : char ∈ parameters codes) :
    isParameter char = true := by
  rcases Text.mem_intercalate member with rfl | ⟨number, written, digit⟩
  · decide
  · obtain ⟨code, -, rfl⟩ := List.mem_map.mp written
    exact isParameter_of_mem_toString digit

theorem parameters_cons_ne_nil (code : Nat) (rest : List Nat) : parameters (code :: rest) ≠ [] := by
  cases rest with
  | nil => simp [parameters]
  | cons next rest =>
    rw [parameters, List.map_cons, List.intercalate_cons_of_ne_nil (by simp)]
    simp

theorem codes?_parameters (codes : List Nat) : codes? (parameters codes) = some codes := by
  cases codes with
  | nil => rfl
  | cons code rest =>
    have unseparated : ∀ number ∈ (code :: rest).map fun code => (toString code).toList, ';' ∉ number := by
      intro number member
      obtain ⟨code, -, rfl⟩ := List.mem_map.mp member
      exact Text.not_mem_toString (by decide) code
    rw [codes?, if_neg (by simpa using parameters_cons_ne_nil code rest), parameters,
      List.splitOn_intercalate ';' unseparated (by simp), List.mapM_map]
    have read : Text.number? 10 ∘ (fun code : Nat => (toString code).toList) = fun code => pure code :=
      funext fun code => Text.number?_toString code
    rw [read, List.mapM_pure, List.map_id']
    rfl

theorem sequence?_rendition (codes : List Nat) (rest : List Char) :
    sequence? ((rendition codes).toList ++ rest) = some (codes, rest) := by
  have spanned : (parameters codes ++ 'm' :: rest).span isParameter = (parameters codes, 'm' :: rest) := by
    have all : ∀ char ∈ parameters codes, isParameter char = true := fun _ => isParameter_of_mem_parameters
    have last : isParameter 'm' = false := by decide
    rw [List.span_eq_takeWhile_dropWhile, List.takeWhile_append_of_pos all, List.dropWhile_append_of_pos all,
      List.takeWhile_cons_of_neg (by simp [last]), List.dropWhile_cons_of_neg (by simp [last]), List.append_nil]
  have text : (rendition codes).toList ++ rest = '\x1b' :: '[' :: (parameters codes ++ 'm' :: rest) := by
    simp [toList_rendition]
  rw [text, sequence?, spanned]
  simp [codes?_parameters]

theorem shown_rendition (style : Style) (codes : List Nat) (rest : List Char) :
    shown style ((rendition codes).toList ++ rest) = shown (style.switch codes) rest :=
  shown_of_sequence? style (sequence?_rendition codes rest)

end Highlighter.Terminal

namespace Highlighter

open Terminal

/-- The style in which a span is to be seen: comments are italic, and a color that a terminal has is the one of the
foreground. -/
def StyledSpan.style (styled : StyledSpan) : Style where
  italic := styled.span.kind = .comment
  foreground := TerminalColor.ofId? styled.color

def Line.cells (style : StyledSpan → Style) (line : Line) : List Cell :=
  (line.spans.flatMap fun styled => styled.span.text.toList.map (⟨·, style styled⟩)) ++ [⟨'\n', {}⟩]

theorem Line.map_char_cells (style : StyledSpan → Style) (line : Line) :
    (line.cells style).map (·.char) = line.text.toList ++ ['\n'] := by
  simp [cells, text, List.map_flatMap, String.toList_join, List.flatMap_map, Function.comp_def]

namespace Terminal

/-- The style behind the sequence for a color. Where colors are not wanted, it has no codes. -/
def Style.tinted (colored : Bool) (style : Style) : Option TerminalColor → Style
  | none => style
  | some color => style.switch (if colored then 38 :: color.code else [])

def switchedStyle (colored : Bool) (styled : StyledSpan) : Style :=
  (if styled.span.kind = .comment then Style.switch {} [3] else {}).tinted colored
    (TerminalColor.ofId? styled.color)

theorem switchedStyle_true (styled : StyledSpan) : switchedStyle true styled = styled.style := by
  have italic : (if styled.span.kind = .comment then Style.switch {} [3] else {}) =
      ({ italic := styled.span.kind = .comment } : Style) := by
    by_cases comment : styled.span.kind = .comment <;> simp [comment, Style.switch]
  rw [switchedStyle, StyledSpan.style, italic]
  cases TerminalColor.ofId? styled.color with
  | none => rfl
  | some color => exact Style.switch_code _ color

theorem shown_italic (styled : StyledSpan) (rest : List Char) :
    shown {} ((if styled.span.kind = .comment then italic else "").toList ++ rest) =
      shown (if styled.span.kind = .comment then Style.switch {} [3] else {}) rest := by
  split
  · exact shown_rendition {} [3] rest
  · rfl

theorem shown_tint (colored : Bool) (style : Style) (color : Option TerminalColor) (rest : List Char) :
    shown style (((color.map (foreground colored)).getD "").toList ++ rest) =
      shown (style.tinted colored color) rest := by
  cases color with
  | none => rfl
  | some color => exact shown_rendition style _ rest

/-- A span without an escape is shown in its style, and behind it the default one is on again. -/
theorem shown_renderSpan (colored : Bool) {styled : StyledSpan} (ordinary : '\x1b' ∉ styled.span.text.toList)
    (rest : List Char) :
    shown {} ((renderSpan colored styled).toList ++ rest) =
      (styled.span.text.toList.map (⟨·, switchedStyle colored styled⟩) ++ (shown {} rest).1, (shown {} rest).2) := by
  have behind (style : Style) : shown style (reset.toList ++ (reset.toList ++ rest)) = shown {} rest := by
    rw [reset, shown_rendition, shown_rendition]
    rfl
  rw [renderSpan]
  simp only [String.toList_append, List.append_assoc]
  rw [shown_italic, shown_tint, shown_append _ ordinary, behind]
  rfl

theorem shown_renderSpans (colored : Bool) {spans : List StyledSpan}
    (ordinary : ∀ styled ∈ spans, '\x1b' ∉ styled.span.text.toList) (rest : List Char) :
    shown {} (spans.flatMap (fun styled => (renderSpan colored styled).toList) ++ rest) =
      ((spans.flatMap fun styled => styled.span.text.toList.map (⟨·, switchedStyle colored styled⟩)) ++
        (shown {} rest).1, (shown {} rest).2) := by
  induction spans with
  | nil => rfl
  | cons styled spans ih =>
    have first := ordinary styled List.mem_cons_self
    have later := ih fun other member => ordinary other (List.mem_cons_of_mem _ member)
    rw [List.flatMap_cons, List.flatMap_cons, List.append_assoc, shown_renderSpan colored first, later,
      List.append_assoc]

theorem shown_renderLine (colored : Bool) {line : Line} (ordinary : '\x1b' ∉ line.text.toList) (rest : List Char) :
    shown {} ((renderLine colored line).toList ++ rest) =
      (line.cells (switchedStyle colored) ++ (shown {} rest).1, (shown {} rest).2) := by
  have inside : ∀ styled ∈ line.spans, '\x1b' ∉ styled.span.text.toList := by
    intro styled member escape
    refine ordinary ?_
    rw [Line.text, String.toList_join, List.flatMap_map]
    exact List.mem_flatMap.mpr ⟨styled, member, escape⟩
  have text : (renderLine colored line).toList ++ rest =
      line.spans.flatMap (fun styled => (renderSpan colored styled).toList) ++ '\n' :: rest := by
    simp [renderLine, String.toList_join, List.flatMap_map]
  rw [text, shown_renderSpans colored inside, shown_cons {} (by decide)]
  simp [Line.cells]

theorem shown_renderLines (colored : Bool) {lines : List Line} (ordinary : ∀ line ∈ lines, '\x1b' ∉ line.text.toList) :
    shown {} (lines.flatMap fun line => (renderLine colored line).toList) =
      (lines.flatMap (Line.cells (switchedStyle colored)), {}) := by
  induction lines with
  | nil => exact shown_nil {}
  | cons line lines ih =>
    have first := ordinary line List.mem_cons_self
    have later := ih fun other member => ordinary other (List.mem_cons_of_mem _ member)
    rw [List.flatMap_cons, List.flatMap_cons, shown_renderLine colored first, later]

theorem shown_render_ofSource (colored : Bool) (grammar : Grammar) (theme : Theme) {source : String}
    (ordinary : '\x1b' ∉ source.toList) :
    shown {} (render colored (.ofSource grammar theme source)).toList =
      ((Document.ofSource grammar theme source).lines.flatMap (Line.cells (switchedStyle colored)), {}) := by
  rw [render, String.toList_join, List.flatMap_map]
  exact shown_renderLines colored fun line => Document.not_mem_of_mem_lines ordinary

theorem withoutSequences_render (colored : Bool) (grammar : Grammar) (theme : Theme) {source : String}
    (ordinary : '\x1b' ∉ source.toList) :
    withoutSequences (render colored (.ofSource grammar theme source)).toList =
      (Document.ofSource grammar theme source).lines.flatMap fun line => line.text.toList ++ ['\n'] := by
  rw [withoutSequences, shown_render_ofSource colored grammar theme ordinary, List.map_flatMap]
  simp only [Line.map_char_cells]

/-- Rendering shows a document as it is and leaves no style behind. For a source without an escape, a terminal shows
the characters of the lines with a line feed behind each line: those of a span in italics just if it is a comment and
in the color that the span's color stands for, the line feeds in the default style, which is also on in the end. With
or without colors, the characters that belong to no sequence are those of the lines. -/
theorem shown_render (grammar : Grammar) (theme : Theme) (source : String) (ordinary : '\x1b' ∉ source.toList) :
    shown {} (render true (.ofSource grammar theme source)).toList =
        ((Document.ofSource grammar theme source).lines.flatMap (Line.cells StyledSpan.style), {}) ∧
      ∀ colored, withoutSequences (render colored (.ofSource grammar theme source)).toList =
        (Document.ofSource grammar theme source).lines.flatMap fun line => line.text.toList ++ ['\n'] := by
  constructor
  · rw [shown_render_ofSource true grammar theme ordinary, funext switchedStyle_true]
  · exact fun colored => withoutSequences_render colored grammar theme ordinary

/-- Orange text, a comment in grey italics, and two line feeds of which the last one ends an empty line. -/
theorem shown_render_comment :
    '\x1b' ∉ "x# y\n".toList ∧
      shown {} (render true (.ofSource { name := "hashes", rules := Grammar.rulesOf [(.comment, "#.*$")] }
        { name := "dim", colors := [(.comment, "#808080")], fallback := "#ff8000" } "x# y\n")).toList =
        ([⟨'x', ⟨false, some (.rgb 255 128 0)⟩⟩, ⟨'#', ⟨true, some (.rgb 128 128 128)⟩⟩,
          ⟨' ', ⟨true, some (.rgb 128 128 128)⟩⟩, ⟨'y', ⟨true, some (.rgb 128 128 128)⟩⟩,
          ⟨'\n', {}⟩, ⟨'\n', {}⟩], {}) := by
  have ordinary : '\x1b' ∉ "x# y\n".toList := by decide +kernel
  have shows := (shown_render { name := "hashes", rules := Grammar.rulesOf [(.comment, "#.*$")] }
    { name := "dim", colors := [(.comment, "#808080")], fallback := "#ff8000" } "x# y\n" ordinary).1
  refine ⟨ordinary, shows.trans ?_⟩
  decide +kernel

end Terminal

end Highlighter
