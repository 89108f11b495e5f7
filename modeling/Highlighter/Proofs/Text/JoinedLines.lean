import Highlighter.Proofs.Text.Lines

/-!
Lines that are joined to a text are the lines of that text. A carriage return and a line feed may stand between any two
of them; a line feed alone may stand behind a line that ends with no carriage return, which would go with it.
-/

namespace Highlighter.Text

inductive LineBreak where
  | feed
  | returnFeed
  deriving DecidableEq, Repr

def LineBreak.text : LineBreak → String
  | feed => "\n"
  | returnFeed => "\r\n"

def EndsInReturn (line : String) : Prop := line.toList.getLast? = some '\r'

instance (line : String) : Decidable (EndsInReturn line) :=
  inferInstanceAs (Decidable (line.toList.getLast? = some '\r'))

def joined (last : String) : List (String × LineBreak) → String
  | [] => last
  | (line, lineBreak) :: rest => line ++ lineBreak.text ++ joined last rest

theorem joined_replicated (lineBreak : LineBreak) (front : List String) (last : String) :
    joined last (front.map (·, lineBreak)) = lineBreak.text.intercalate (front ++ [last]) := by
  induction front with
  | nil => simp [joined]
  | cons line rest ih =>
    rw [List.cons_append, String.intercalate_cons_of_ne_nil (by simp), List.map_cons, joined, ih]

theorem withoutFinalReturn_concat (text : List Char) : withoutFinalReturn (text ++ ['\r']) = text := by
  induction text with
  | nil => rfl
  | cons char rest ih =>
    rw [List.cons_append, withoutFinalReturn_cons (by simp), ih]

theorem withoutFinalReturn_of_ne {text : List Char} (other : text.getLast? ≠ some '\r') :
    withoutFinalReturn text = text := by
  fun_induction withoutFinalReturn text with
  | case1 => rfl
  | case2 => exact absurd rfl other
  | case3 char rest notLast ih =>
    cases rest with
    | nil => rfl
    | cons next rest => rw [ih (by simpa using other)]

theorem lines_break {line : String} (single : '\n' ∉ line.toList) (lineBreak : LineBreak)
    (kept : lineBreak = .feed → ¬ EndsInReturn line) (rest : String) :
    lines (line ++ lineBreak.text ++ rest) = line :: lines rest := by
  cases lineBreak with
  | feed =>
    rw [LineBreak.text, lines_append, withoutFinalReturn_of_ne (kept rfl), String.ofList_toList,
      lines_of_not_mem single]
    rfl
  | returnFeed =>
    have parted : line ++ LineBreak.returnFeed.text ++ rest = (line ++ "\r") ++ "\n" ++ rest := by
      simp [LineBreak.text, String.append_assoc]
    have cut : withoutFinalReturn (line ++ "\r").toList = line.toList := by
      rw [String.toList_append]
      exact withoutFinalReturn_concat line.toList
    rw [parted, lines_append, cut, String.ofList_toList, lines_of_not_mem single]
    rfl

/-- The lines of a joined text, where no carriage return stands between a line and a bare line feed. -/
theorem lines_joined {last : String} {front : List (String × LineBreak)}
    (single : ∀ entry ∈ front, '\n' ∉ entry.1.toList) (lastSingle : '\n' ∉ last.toList)
    (kept : ∀ entry ∈ front, entry.2 = .feed → ¬ EndsInReturn entry.1) :
    lines (joined last front) = front.map (·.1) ++ [last] := by
  induction front with
  | nil => exact lines_of_not_mem lastSingle
  | cons entry rest ih =>
    obtain ⟨entrySingle, restSingle⟩ := List.forall_mem_cons.mp single
    obtain ⟨entryKept, restKept⟩ := List.forall_mem_cons.mp kept
    rw [joined, lines_break entrySingle entry.2 entryKept, ih restSingle restKept]
    rfl

theorem lines_ne_nil (text : String) : lines text ≠ [] := by
  intro none
  have count := length_lines text
  rw [none, List.length_nil] at count
  omega

/-- Dividing into lines undoes joining. Lines without line feeds come back if each two have a carriage return and a line
feed between them and, where none but the last ends with a carriage return, also if line feeds stand between them or any
mixture of the two breaks. And what any text is divided into is one line or more, without line feeds. -/
theorem lines_inverts_joining :
    (∀ (front : List String) (last : String), (∀ line ∈ front ++ [last], '\n' ∉ line.toList) →
      lines ("\r\n".intercalate (front ++ [last])) = front ++ [last] ∧
        ((∀ line ∈ front, ¬ EndsInReturn line) →
          lines ("\n".intercalate (front ++ [last])) = front ++ [last] ∧
            ∀ mixed : List (String × LineBreak), mixed.map (·.1) = front →
              lines (joined last mixed) = front ++ [last])) ∧
      ∀ text : String, lines text ≠ [] ∧ ∀ line ∈ lines text, '\n' ∉ line.toList := by
  refine ⟨fun front last single => ?_, fun text => ⟨lines_ne_nil text, fun line => not_mem_of_mem_lines⟩⟩
  obtain ⟨frontSingle, lastSingle⟩ := List.forall_mem_append.mp single
  have mixture (mixed : List (String × LineBreak)) (same : mixed.map (·.1) = front)
      (kept : ∀ entry ∈ mixed, entry.2 = .feed → ¬ EndsInReturn entry.1) :
      lines (joined last mixed) = front ++ [last] := by
    subst same
    exact lines_joined (fun entry member => frontSingle entry.1 (List.mem_map_of_mem member))
      (lastSingle last (List.mem_singleton_self last)) kept
  have alike (lineBreak : LineBreak) : (front.map (·, lineBreak)).map (·.1) = front := by
    rw [List.map_map]
    exact List.map_id front
  constructor
  · have whole := mixture _ (alike .returnFeed) (by simp)
    rwa [joined_replicated] at whole
  · intro noReturn
    have mixtures (mixed : List (String × LineBreak)) (same : mixed.map (·.1) = front) :
        lines (joined last mixed) = front ++ [last] := by
      refine mixture mixed same fun entry member _ => noReturn entry.1 ?_
      rw [← same]
      exact List.mem_map_of_mem member
    have whole := mixtures _ (alike .feed)
    rw [joined_replicated] at whole
    exact ⟨whole, mixtures⟩

/-- An empty line between two breaks of different kinds, and a carriage return that ends the text. -/
theorem lines_inverts_joining_mixed :
    ((∀ line ∈ ["a\rb", ""] ++ ["\r"], '\n' ∉ line.toList) ∧ ∀ line ∈ ["a\rb", ""], ¬ EndsInReturn line) ∧
      lines (joined "\r" [("a\rb", .feed), ("", .returnFeed)]) = ["a\rb", "", "\r"] := by
  have single : ∀ line ∈ ["a\rb", ""] ++ ["\r"], '\n' ∉ line.toList := by decide
  have noReturn : ∀ line ∈ ["a\rb", ""], ¬ EndsInReturn line := by decide
  have mixtures := ((lines_inverts_joining.1 ["a\rb", ""] "\r" single).2 noReturn).2
  exact ⟨⟨single, noReturn⟩, mixtures [("a\rb", .feed), ("", .returnFeed)] rfl⟩

end Highlighter.Text
