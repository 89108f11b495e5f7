import Highlighter.Text.Lines
import Mathlib.Data.List.Basic

/-!
The lines of a text. They are free of line feeds, there is one more of them than there are line feeds, and with a
line feed between each two they are the text again but for the carriage returns that belong to line breaks.
-/

namespace Highlighter.Text

/-- A text without the carriage returns that stand right in front of a line feed. -/
def withoutBreakReturns : List Char → List Char
  | [] => []
  | char :: rest =>
    if char = '\r' ∧ rest.head? = some '\n' then withoutBreakReturns rest else char :: withoutBreakReturns rest

theorem length_linesFrom (current text : List Char) : (linesFrom current text).length = 1 + text.count '\n' := by
  fun_induction linesFrom current text with
  | case1 current => rfl
  | case2 current rest ih => simp [ih]; omega
  | case3 current rest ih => simp [ih]; omega
  | case4 current char rest notBreak notFeed ih =>
    have other : char ≠ '\n' := fun same => notFeed same
    simp [ih, other]

theorem not_mem_linesFrom {current : List Char} (text : List Char) (fresh : '\n' ∉ current) :
    ∀ line ∈ linesFrom current text, '\n' ∉ line := by
  fun_induction linesFrom current text with
  | case1 current => simpa using fresh
  | case2 current rest ih => simpa using ⟨fresh, ih (by simp)⟩
  | case3 current rest ih => simpa using ⟨fresh, ih (by simp)⟩
  | case4 current char rest notBreak notFeed ih =>
    have other : char ≠ '\n' := fun same => notFeed same
    exact ih (by simp [fresh, Ne.symm other])

theorem linesFrom_ne_nil (current text : List Char) : linesFrom current text ≠ [] := by
  intro none
  have count := length_linesFrom current text
  rw [none, List.length_nil] at count
  omega

theorem intercalate_linesFrom (current text : List Char) :
    ['\n'].intercalate (linesFrom current text) = current.reverse ++ withoutBreakReturns text := by
  fun_induction linesFrom current text with
  | case1 current => simp [withoutBreakReturns]
  | case2 current rest ih =>
    rw [List.intercalate_cons_of_ne_nil (linesFrom_ne_nil _ _), ih]
    simp [withoutBreakReturns]
  | case3 current rest ih =>
    rw [List.intercalate_cons_of_ne_nil (linesFrom_ne_nil _ _), ih]
    simp [withoutBreakReturns]
  | case4 current char rest notBreak notFeed ih =>
    have kept : ¬(char = '\r' ∧ rest.head? = some '\n') := by
      rintro ⟨isReturn, feed⟩
      obtain ⟨tail, rfl⟩ := List.head?_eq_some_iff.mp feed
      exact notBreak tail isReturn rfl
    rw [ih, withoutBreakReturns, if_neg kept]
    simp

/-- A text without the carriage return that it ends with, if it ends with one. -/
def withoutFinalReturn : List Char → List Char
  | [] => []
  | ['\r'] => []
  | char :: rest => char :: withoutFinalReturn rest

theorem withoutFinalReturn_cons {char : Char} {rest : List Char} (other : ¬(char = '\r' ∧ rest = [])) :
    withoutFinalReturn (char :: rest) = char :: withoutFinalReturn rest :=
  withoutFinalReturn.eq_3 char rest fun isReturn last => other ⟨isReturn, last⟩

theorem head?_withoutFinalReturn {text : List Char} (starts : (withoutFinalReturn text).head? = some '\n') :
    text.head? = some '\n' := by
  fun_cases withoutFinalReturn text with
  | case1 => exact starts
  | case2 => simp [withoutFinalReturn] at starts
  | case3 char rest other =>
    rw [withoutFinalReturn.eq_3 char rest other] at starts
    exact starts

theorem mem_of_mem_withoutFinalReturn {text : List Char} {char : Char} (inside : char ∈ withoutFinalReturn text) :
    char ∈ text := by
  fun_induction withoutFinalReturn text with
  | case1 => exact inside
  | case2 => exact absurd inside List.not_mem_nil
  | case3 first rest other ih =>
    rcases List.mem_cons.mp inside with rfl | later
    · exact List.mem_cons_self
    · exact List.mem_cons_of_mem _ (ih later)

theorem linesFrom_cons (current : List Char) {char : Char} {rest : List Char} (notFeed : char ≠ '\n')
    (notBreak : ¬(char = '\r' ∧ rest.head? = some '\n')) :
    linesFrom current (char :: rest) = linesFrom (char :: current) rest := by
  refine linesFrom.eq_4 current char rest (fun tail isReturn starts => ?_) notFeed
  exact notBreak ⟨isReturn, by rw [starts, List.head?_cons]⟩

/-- A line feed parts the lines in front of it, which lose a carriage return that touches it, from those behind it. -/
theorem linesFrom_append (current first second : List Char) :
    linesFrom current (first ++ '\n' :: second) =
      linesFrom current (withoutFinalReturn first) ++ linesFrom [] second := by
  fun_induction linesFrom current first with
  | case1 current => rfl
  | case2 current rest ih => simp [withoutFinalReturn, linesFrom, ih]
  | case3 current rest ih => simp [withoutFinalReturn, linesFrom, ih]
  | case4 current char rest notBreak notFeed ih =>
    by_cases touches : char = '\r' ∧ rest = []
    · obtain ⟨rfl, rfl⟩ := touches
      rfl
    · have whole : ¬(char = '\r' ∧ (rest ++ '\n' :: second).head? = some '\n') := by
        rintro ⟨isReturn, feed⟩
        cases rest with
        | nil => exact touches ⟨isReturn, rfl⟩
        | cons next tail => exact notBreak tail isReturn (by rw [Option.some.inj feed])
      have cut : ¬(char = '\r' ∧ (withoutFinalReturn rest).head? = some '\n') := by
        rintro ⟨isReturn, feed⟩
        obtain ⟨tail, starts⟩ := List.head?_eq_some_iff.mp (head?_withoutFinalReturn feed)
        exact notBreak tail isReturn starts
      rw [List.cons_append, linesFrom_cons current notFeed whole, withoutFinalReturn_cons touches,
        linesFrom_cons current notFeed cut, ih]

theorem linesFrom_of_not_mem (current : List Char) {text : List Char} (single : '\n' ∉ text) :
    linesFrom current text = [current.reverse ++ text] := by
  fun_induction linesFrom current text with
  | case1 current => simp
  | case2 current rest ih => simp at single
  | case3 current rest ih => simp at single
  | case4 current char rest notBreak notFeed ih =>
    rw [ih fun inside => single (List.mem_cons_of_mem _ inside)]
    simp

theorem lines_append (first second : String) :
    lines (first ++ "\n" ++ second) = lines (.ofList (withoutFinalReturn first.toList)) ++ lines second := by
  have chars : (first ++ "\n" ++ second).toList = first.toList ++ '\n' :: second.toList := by
    simp [String.toList_append]
  rw [lines, chars, linesFrom_append, List.map_append, lines, String.toList_ofList, lines]

theorem lines_of_not_mem {text : String} (single : '\n' ∉ text.toList) : lines text = [text] := by
  rw [lines, linesFrom_of_not_mem [] single]
  simp

theorem length_lines (text : String) : (lines text).length = 1 + text.toList.count '\n' := by
  rw [lines, List.length_map, length_linesFrom]

theorem not_mem_of_mem_lines {text line : String} (member : line ∈ lines text) : '\n' ∉ line.toList := by
  obtain ⟨chars, inLines, rfl⟩ := List.mem_map.mp member
  simpa using not_mem_linesFrom text.toList List.not_mem_nil chars inLines

theorem mem_of_mem_linesFrom {current text line : List Char} {char : Char} (member : line ∈ linesFrom current text)
    (inside : char ∈ line) : char ∈ current ∨ char ∈ text := by
  fun_induction linesFrom current text with
  | case1 current =>
    rw [List.mem_singleton.mp member] at inside
    exact .inl (List.mem_reverse.mp inside)
  | case2 current rest ih =>
    rcases List.mem_cons.mp member with rfl | later
    · exact .inl (List.mem_reverse.mp inside)
    · have found := (ih later).resolve_left List.not_mem_nil
      exact .inr (List.mem_cons_of_mem _ (List.mem_cons_of_mem _ found))
  | case3 current rest ih =>
    rcases List.mem_cons.mp member with rfl | later
    · exact .inl (List.mem_reverse.mp inside)
    · exact .inr (List.mem_cons_of_mem _ ((ih later).resolve_left List.not_mem_nil))
  | case4 current next rest notBreak notFeed ih =>
    rcases ih member with earlier | later
    · rcases List.mem_cons.mp earlier with rfl | older
      · exact .inr List.mem_cons_self
      · exact .inl older
    · exact .inr (List.mem_cons_of_mem _ later)

theorem mem_of_mem_lines {text line : String} {char : Char} (member : line ∈ lines text)
    (inside : char ∈ line.toList) : char ∈ text.toList := by
  obtain ⟨chars, inLines, rfl⟩ := List.mem_map.mp member
  rw [String.toList_ofList] at inside
  exact (mem_of_mem_linesFrom inLines inside).resolve_left List.not_mem_nil

theorem intercalate_lines (text : String) :
    "\n".intercalate (lines text) = .ofList (withoutBreakReturns text.toList) := by
  rw [← String.toList_inj, String.toList_intercalate, lines, List.map_map, String.toList_ofList]
  have chars : (String.toList ∘ String.ofList) = id := funext fun _ => String.toList_ofList
  rw [chars, List.map_id, String.toList_ofList]
  exact intercalate_linesFrom [] text.toList

end Highlighter.Text
