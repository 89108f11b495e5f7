import Highlighter.Proofs.Grammar.BuiltIn
import Highlighter.Proofs.Span.Origin

/-!
String literals. A scanner reads a line from left to right: at a quote it looks for the next one of its kind that no
backslash takes along, and goes on behind it or, if there is none, behind the quote. The strings that the built-in
grammars find in a line without a line feed are what it reads.
-/

namespace Highlighter

open Pattern Unicode

namespace Literal

/-- How many characters there are up to the quote that closes a literal, with that quote. A backslash takes the next
character along; `escaped` tells that one has been read. -/
def closing? (quote : Char) (escaped : Bool) : List Char → Option Nat
  | [] => none
  | letter :: rest =>
    if !escaped && letter = quote then some 1
    else (closing? quote (!escaped && letter = '\\') rest).map (· + 1)

theorem le_of_closing? {quote : Char} {escaped : Bool} {text : List Char} {size : Nat}
    (known : closing? quote escaped text = some size) : 0 < size ∧ size ≤ text.length := by
  induction text generalizing escaped size with
  | nil => cases known
  | cons letter rest ih =>
    rw [closing?] at known
    split at known
    · cases known
      simp
    · obtain ⟨shorter, later, rfl⟩ := Option.map_eq_some_iff.mp known
      have bounds := ih later
      simp only [List.length_cons]
      omega

def opened? (letter : Char) (rest : List Char) : Option Nat :=
  if letter ∈ Grammar.quotes then closing? letter false rest else none

theorem opened?_eq_some_iff {letter : Char} {rest : List Char} {size : Nat} :
    opened? letter rest = some size ↔ letter ∈ Grammar.quotes ∧ closing? letter false rest = some size :=
  Option.ite_none_right_eq_some

/-- The literals of a text whose first character has the number `start`. -/
def scan (start : Nat) : List Char → List Interval
  | [] => []
  | letter :: rest =>
    match opened? letter rest with
    | some size =>
      ⟨start, start + (size + 1), Nat.lt_add_of_pos_right size.succ_pos⟩ ::
        scan (start + (size + 1)) (rest.drop size)
    | none => scan (start + 1) rest
termination_by text => text.length
decreasing_by
  · simp only [List.length_drop, List.length_cons]
    omega
  · exact Nat.lt_succ_self _

theorem getElem?_of_closing? {quote : Char} {escaped : Bool} {text : List Char} {size : Nat}
    (known : closing? quote escaped text = some size) : text[size - 1]? = some quote := by
  induction text generalizing escaped size with
  | nil => cases known
  | cons letter rest ih =>
    rw [closing?] at known
    split at known
    next closes =>
      cases known
      simp_all
    next =>
      obtain ⟨shorter, later, rfl⟩ := Option.map_eq_some_iff.mp known
      obtain ⟨before, rfl⟩ := Nat.exists_eq_add_one.mpr (le_of_closing? later).1
      exact ih later

theorem quotes_of_mem_scan {start : Nat} {text : List Char} {literal : Interval} (member : literal ∈ scan start text) :
    start ≤ literal.start ∧ (∃ quote ∈ Grammar.quotes, text[literal.start - start]? = some quote) ∧
      ∃ quote ∈ Grammar.quotes, text[literal.stop - 1 - start]? = some quote := by
  have shift {start count place : Nat} (text : List Char) (above : start + count ≤ place) :
      (text.drop count)[place - (start + count)]? = text[place - start]? := by
    rw [List.getElem?_drop]
    congr 1
    omega
  fun_induction scan start text with
  | case1 => cases member
  | case2 start letter rest size opened ih =>
    obtain ⟨quote, closes⟩ := opened?_eq_some_iff.mp opened
    rcases List.mem_cons.mp member with rfl | later
    · obtain ⟨before, rfl⟩ := Nat.exists_eq_add_one.mpr (le_of_closing? closes).1
      have last : start + (before + 1 + 1) - 1 - start = before + 1 := by omega
      refine ⟨Nat.le_refl _, ⟨letter, quote, by simp⟩, letter, quote, ?_⟩
      simp only [last]
      exact getElem?_of_closing? closes
    · obtain ⟨above, first, last⟩ := ih later
      have nonempty := literal.start_lt_stop
      rw [← List.drop_succ_cons, shift _ (by omega)] at first last
      exact ⟨by omega, first, last⟩
  | case3 start letter rest opened ih =>
    obtain ⟨above, first, last⟩ := ih member
    have nonempty := literal.start_lt_stop
    have behind {place : Nat} (above : start + 1 ≤ place) :
        rest[place - (start + 1)]? = (letter :: rest)[place - start]? := shift (letter :: rest) above
    rw [behind (by omega)] at first last
    exact ⟨by omega, first, last⟩

end Literal

namespace Grammar

open Literal

/-- A character of a literal: one other than its quote and the backslash, or a backslash with what it takes along. -/
def letterWay (quote : Char) : Way :=
  .either (.reading (.compl (oneOf [quote, '\\']))) fun follow =>
    Way.reading (.single '\\') (Way.reading anyChar follow)

theorem reads_letterWay (quote : Char) : (letterWay quote).Reads :=
  Way.reads_either (Way.reads_reading _) ((Way.reads_reading _).comp_left (Way.reads_reading _).forward)

theorem contains_anyChar {letter : Char} (clean : letter ≠ '\n') : anyChar.contains letter = true := by
  rw [anyChar, CharClass.contains_compl, Bool.not_eq_true', ← Bool.not_eq_true, CharClass.contains_single]
  exact clean

theorem contains_unquoted (quote letter : Char) :
    (CharClass.compl (oneOf [quote, '\\'])).contains letter = true ↔ letter ≠ quote ∧ letter ≠ '\\' := by
  rw [CharClass.contains_compl, Bool.not_eq_true', ← Bool.not_eq_true, contains_oneOf]
  simp

theorem not_escape_of_quote {quote : Char} (member : quote ∈ quotes) : quote ≠ '\\' := by
  rintro rfl
  revert member
  decide

theorem again_letterWay_cons (quote : Char) (follow : Sequel) (before : Option Char) (letter : Char)
    (rest : List Char) :
    Way.again true (letterWay quote) follow before (letter :: rest) =
      (((if (CharClass.compl (oneOf [quote, '\\'])).contains letter then
          (Way.again true (letterWay quote) follow (some letter) rest).map Outcome.advance else none) <|>
        if (CharClass.single '\\').contains letter then
          (Way.reading anyChar (Way.again true (letterWay quote) follow) (some letter) rest).map Outcome.advance
        else none) <|>
          follow before (letter :: rest)) :=
  Way.again_eq (reads_letterWay quote) follow before (letter :: rest)

/-- What comes of a literal that is open, up to its closing quote, and what comes of it behind a backslash. -/
theorem again_letterWay {quote : Char} (member : quote ∈ quotes) {text : List Char} (clean : '\n' ∉ text)
    (before : Option Char) :
    Way.again true (letterWay quote) (Way.reading (.single quote) .done) before text =
        (closing? quote false text).map .ofSize ∧
      Way.reading anyChar (Way.again true (letterWay quote) (Way.reading (.single quote) .done)) before text =
        (closing? quote true text).map .ofSize := by
  induction text generalizing before with
  | nil =>
    rw [Way.again_eq (reads_letterWay quote)]
    exact ⟨rfl, rfl⟩
  | cons letter rest ih =>
    obtain ⟨fresh, restClean⟩ := List.ne_and_not_mem_of_not_mem_cons clean
    obtain ⟨plain, escaped⟩ := ih restClean (some letter)
    constructor
    · have closing : Way.reading (.single quote) .done before (letter :: rest) =
          if letter = quote then some (.ofSize 1) else none := by
        simp only [Way.reading_cons, CharClass.contains_single]
        rfl
      rw [again_letterWay_cons, plain, escaped, closing, Option.map_map, Option.map_map,
        Outcome.advance_comp_ofSize, ← Option.map_map, ← Option.map_map]
      simp only [contains_unquoted, CharClass.contains_single, closing?]
      have notEscape := not_escape_of_quote member
      by_cases closes : letter = quote
      · simp [closes, notEscape]
      · by_cases escapes : letter = '\\'
        · have notQuote : '\\' ≠ quote := Ne.symm notEscape
          simp [escapes, notQuote]
        · simp [closes, escapes]
    · rw [Way.reading_cons, if_pos (contains_anyChar (Ne.symm fresh)), plain, Option.map_map,
        Outcome.advance_comp_ofSize, ← Option.map_map]
      rfl

theorem way_quotedExpr {quote : Char} (member : quote ∈ quotes) {letter : Char} {rest : List Char}
    (clean : '\n' ∉ rest) (before : Option Char) :
    (quotedExpr quote).way .done before (letter :: rest) =
      if letter = quote then (closing? quote false rest).map (.ofSize ∘ (· + 1)) else none := by
  have way : (quotedExpr quote).way .done = Way.reading (.single quote)
      (Way.again true (letterWay quote) (Way.reading (.single quote) .done)) := rfl
  rw [way, Way.reading_cons, (again_letterWay member clean _).1, Option.map_map, Outcome.advance_comp_ofSize]
  simp only [CharClass.contains_single]

theorem way_stringExpr (letter : Char) {rest : List Char} (clean : '\n' ∉ rest) (before : Option Char) :
    stringExpr.way .done before (letter :: rest) = (opened? letter rest).map (.ofSize ∘ (· + 1)) := by
  rw [stringExpr, Expr.way_ofBranches, List.findSome?_map, opened?]
  split
  next member =>
    rw [Expr.findSome?_eq member, Function.comp_apply, way_quotedExpr member clean, if_pos rfl]
    intro quote quoteMember other
    rw [Function.comp_apply, way_quotedExpr quoteMember clean, if_neg (Ne.symm other)]
  next unquoted =>
    rw [Option.map_none, List.findSome?_eq_none_iff]
    intro quote quoteMember
    rw [Function.comp_apply, way_quotedExpr quoteMember clean, if_neg]
    rintro rfl
    exact unquoted quoteMember

theorem scan_stringExpr (start : Nat) {text : List Char} (clean : '\n' ∉ text) (before : Option Char) :
    (Pattern.scan 0 start (stringExpr.way.outcomes before text)).map (·.whole) = Literal.scan start text := by
  fun_induction Literal.scan start text generalizing before with
  | case1 => rfl
  | case2 start letter rest size opened ih =>
    have restClean := (List.ne_and_not_mem_of_not_mem_cons clean).2
    have way := way_stringExpr letter restClean before
    rw [opened] at way
    rw [whole_scan_outcomes start way rfl (le_of_closing? (opened?_eq_some_iff.mp opened).2).2,
      ih (fun member => restClean (List.mem_of_mem_drop member))]
  | case3 start letter rest opened ih =>
    have restClean := (List.ne_and_not_mem_of_not_mem_cons clean).2
    have way := way_stringExpr letter restClean before
    rw [opened] at way
    rw [scan_outcomes_of_none start way, ih restClean]

theorem intervals_string {text : List Char} (clean : '\n' ∉ text) :
    (ofExpr quotedString stringExpr).intervals text = Literal.scan 0 text := by
  rw [intervals_ofExpr rfl, search_ofExpr rfl]
  exact scan_stringExpr 0 clean none

theorem Language.filter_string (language : Language) {line : String} (clean : '\n' ∉ line.toList) :
    (Span.ofLine language.rules line).filter (·.kind = .string) =
      (Literal.scan 0 line.toList).map fun literal =>
        Span.between line.toList literal.start literal.stop .string := by
  rw [← intervals_string clean]
  exact Span.filter_ofLine_first language.distinct_kinds line

/-- The strings that a built-in grammar finds in a line are the literals that the scanner reads. -/
theorem strings_eq_scan {grammar : Grammar} (member : grammar ∈ builtIn) {line : String}
    (clean : '\n' ∉ line.toList) :
    (grammar.spans line).filter (·.kind = .string) =
      (Literal.scan 0 line.toList).map fun literal =>
        Span.between line.toList literal.start literal.stop .string := by
  simp only [builtIn, List.mem_cons, List.not_mem_nil, or_false] at member
  rcases member with rfl | rfl
  · rw [Language.spans_javascript]
    exact Language.javascript.filter_string clean
  · rw [Language.spans_python]
    exact Language.python.filter_string clean

/-- An apostrophe that a backslash takes along closes nothing, and the last quote opens nothing. -/
theorem strings_eq_scan_escaped :
    javascript ∈ builtIn ∧ '\n' ∉ "é 'it\\'s' \"".toList ∧
      (javascript.spans "é 'it\\'s' \"").filter (·.kind = .string) = [⟨"'it\\'s'", .string, 3⟩] := by
  have member : javascript ∈ builtIn := List.mem_cons_self ..
  have clean : '\n' ∉ "é 'it\\'s' \"".toList := by decide
  refine ⟨member, clean, (strings_eq_scan member clean).trans ?_⟩
  decide +kernel

end Grammar

end Highlighter
