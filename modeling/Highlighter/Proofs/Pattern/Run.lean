import Highlighter.Proofs.Pattern.Scan
import Highlighter.Proofs.Unicode.Words
import Mathlib.Data.List.TakeWhile

/-!
Runs of characters of a class. A greedy repetition of a class reads the whole run in front of it if what follows cannot
begin inside the run, since giving characters back then helps nothing. A literal text is read letter by letter.
-/

namespace Highlighter.Pattern

open Unicode

namespace Outcome

def back (count : Nat) (outcome : Outcome) : Outcome where
  size := outcome.size + count
  tokenStart := outcome.tokenStart.map (· + count)
  tokenStop := outcome.tokenStop.map (· + count)

theorem back_zero : back 0 = id := by
  funext outcome
  simp [back]

def ofSize (size : Nat) : Outcome := { size }

theorem match?_ofSize {size : Nat} (positive : 0 < size) (start : Nat) :
    (ofSize size).match? start = some ⟨⟨start, start + size, by omega⟩, none⟩ := by
  simp [match?, ofSize, Interval.between?, positive]

theorem back_empty (count : Nat) : back count {} = ofSize count := by
  simp [back, ofSize]

theorem advance_comp_ofSize : advance ∘ ofSize = ofSize ∘ (· + 1) := rfl

theorem advance_comp_back (count : Nat) : advance ∘ back count = back (count + 1) := by
  funext outcome
  simp [advance, back, Function.comp_def, Nat.add_assoc]

end Outcome

/-- A text, divided into a run of characters of a class in front, as long as can be, and the rest. -/
structure Leading (members : CharClass) (text run after : List Char) : Prop where
  split : text = run ++ after
  letters : ∀ letter ∈ run, members.contains letter = true
  ends : isIn members after.head? = false

namespace Leading

variable {members : CharClass} {text run after : List Char}

theorem leading_takeWhile (members : CharClass) (text : List Char) :
    Leading members text (text.takeWhile members.contains) (text.dropWhile members.contains) where
  split := List.takeWhile_append_dropWhile.symm
  letters := fun letter member => List.mem_takeWhile_imp member
  ends := by
    cases rest : text.dropWhile members.contains with
    | nil => rfl
    | cons letter after =>
      have stopped := List.head?_dropWhile_not members.contains text
      simpa [rest, isIn] using stopped

theorem of_nil (leading : Leading members text [] after) : after = text ∧ isIn members text.head? = false := by
  have same : after = text := leading.split.symm
  exact ⟨same, same ▸ leading.ends⟩

theorem of_cons {letter : Char} (leading : Leading members text (letter :: run) after) :
    ∃ rest, text = letter :: rest ∧ members.contains letter = true ∧ Leading members rest run after := by
  refine ⟨run ++ after, leading.split, leading.letters letter (List.mem_cons_self ..), rfl, ?_, leading.ends⟩
  exact fun other member => leading.letters other (List.mem_cons_of_mem _ member)

theorem isIn_head (leading : Leading members text run after) : isIn members text.head? = true ↔ run ≠ [] := by
  cases run with
  | nil => simp [leading.of_nil.2]
  | cons letter run =>
    obtain ⟨rest, rfl, inside, _⟩ := leading.of_cons
    simpa [isIn] using inside

theorem isIn_getLast (leading : Leading members text run after) (nonempty : run ≠ []) :
    isIn members run.getLast? = true := by
  rw [List.getLast?_eq_some_getLast nonempty]
  exact leading.letters _ (List.getLast_mem nonempty)

theorem unique (leading : Leading members text run after) {otherRun otherAfter : List Char}
    (other : Leading members text otherRun otherAfter) : run = otherRun ∧ after = otherAfter := by
  induction run generalizing text otherRun with
  | nil =>
    obtain ⟨rfl, ends⟩ := leading.of_nil
    cases otherRun with
    | nil => exact ⟨rfl, other.of_nil.1.symm⟩
    | cons letter otherRun =>
      obtain ⟨rest, rfl, inside, _⟩ := other.of_cons
      rw [List.head?_cons, isIn, inside] at ends
      cases ends
  | cons letter run ih =>
    obtain ⟨rest, rfl, inside, restLeading⟩ := leading.of_cons
    cases otherRun with
    | nil =>
      have ends := other.of_nil.2
      rw [List.head?_cons, isIn, inside] at ends
      cases ends
    | cons otherLetter otherRun =>
      obtain ⟨otherRest, same, _, otherLeading⟩ := other.of_cons
      obtain ⟨rfl, rfl⟩ := List.cons.inj same
      obtain ⟨rfl, rfl⟩ := ih restLeading otherLeading
      exact ⟨rfl, rfl⟩

end Leading

namespace Way

section Runs

variable {members : CharClass} {follow : Sequel} {before : Option Char} {text run after : List Char}

theorem again_reading_of_not_isIn (ends : isIn members text.head? = false) :
    again true (reading members) follow before text = follow before text := by
  rw [again_eq (reads_reading members)]
  cases text with
  | nil => rfl
  | cons letter rest =>
    rw [reading, show members.contains letter = false from ends]
    rfl

/-- Where what follows cannot begin inside a run, all of it is read. -/
theorem again_leading
    (front : ∀ letter rest, members.contains letter = true → follow before (letter :: rest) = none)
    (inside : ∀ last letter rest, members.contains last = true → members.contains letter = true →
      follow (some last) (letter :: rest) = none)
    (leading : Leading members text run after) :
    again true (reading members) follow before text =
      (follow (run.getLast?.or before) after).map (Outcome.back run.length) := by
  induction run generalizing before text with
  | nil =>
    obtain ⟨rfl, ends⟩ := leading.of_nil
    simp [again_reading_of_not_isIn ends, Outcome.back_zero]
  | cons letter run ih =>
    obtain ⟨rest, rfl, letterInside, restLeading⟩ := leading.of_cons
    have later := ih (fun other rest => inside letter other rest letterInside) restLeading
    rw [again_eq (reads_reading members), reading, if_pos letterInside, front letter rest letterInside, later,
      Option.map_map, Outcome.advance_comp_back, List.getLast?_cons, List.length_cons]
    cases run.getLast? <;> simp

theorem looping_leading
    (inside : ∀ last letter rest, members.contains last = true → members.contains letter = true →
      follow (some last) (letter :: rest) = none)
    (leading : Leading members text run after) :
    looping true (reading members) follow before text =
      if run = [] then none else (follow run.getLast? after).map (Outcome.back run.length) := by
  rw [looping_eq (reads_reading members)]
  cases run with
  | nil =>
    have ends := leading.of_nil.2
    cases text with
    | nil => rfl
    | cons letter rest =>
      rw [reading, show members.contains letter = false from ends]
      rfl
  | cons letter run =>
    obtain ⟨rest, rfl, letterInside, restLeading⟩ := leading.of_cons
    have later := again_leading (fun other rest => inside letter other rest letterInside) inside restLeading
    rw [reading, if_pos letterInside, later, Option.map_map, Outcome.advance_comp_back, if_neg (by simp),
      List.getLast?_cons, List.length_cons]
    cases run.getLast? <;> simp

theorem again_done (leading : Leading members text run after) :
    again true (reading members) .done before text = some (.ofSize run.length) := by
  induction run generalizing before text with
  | nil => exact again_reading_of_not_isIn leading.of_nil.2
  | cons letter run ih =>
    obtain ⟨rest, rfl, letterInside, restLeading⟩ := leading.of_cons
    rw [again_eq (reads_reading members), reading, if_pos letterInside, ih restLeading]
    rfl

theorem looping_done (leading : Leading members text run after) :
    looping true (reading members) .done before text = if run = [] then none else some (.ofSize run.length) := by
  rw [looping_eq (reads_reading members)]
  cases run with
  | nil =>
    have ends := leading.of_nil.2
    cases text with
    | nil => rfl
    | cons letter rest =>
      rw [reading, show members.contains letter = false from ends]
      rfl
  | cons letter run =>
    obtain ⟨rest, rfl, letterInside, restLeading⟩ := leading.of_cons
    rw [reading_cons, if_pos letterInside, again_done restLeading, if_neg (by simp)]
    rfl

end Runs

def spelling (letters : List Char) : Way := fun follow =>
  letters.foldr (fun letter next => reading (.single letter) next) follow

theorem spelling_append (letters : List Char) (follow : Sequel) (before : Option Char) (rest : List Char) :
    spelling letters follow before (letters ++ rest) =
      (follow (letters.getLast?.or before) rest).map (Outcome.back letters.length) := by
  induction letters generalizing before with
  | nil => simp [spelling, Outcome.back_zero]
  | cons letter letters ih =>
    have same : (CharClass.single letter).contains letter = true := (CharClass.contains_single ..).mpr rfl
    have later := ih (some letter)
    simp only [spelling] at later
    simp only [spelling, List.foldr_cons, List.cons_append, reading, same, ↓reduceIte, later, Option.map_map,
      Outcome.advance_comp_back, List.length_cons, List.getLast?_cons]
    cases letters.getLast? <;> simp

theorem prefix_of_spelling {letters : List Char} {follow : Sequel} {before : Option Char} {text : List Char}
    {outcome : Outcome} (known : spelling letters follow before text = some outcome) : letters <+: text := by
  induction letters generalizing before text outcome with
  | nil => exact List.nil_prefix
  | cons letter letters ih =>
    cases text with
    | nil => cases known
    | cons other rest =>
      simp only [spelling, List.foldr_cons, reading] at known
      split at known
      next same =>
        obtain ⟨behind, known, _⟩ := Option.map_eq_some_iff.mp known
        rw [(CharClass.contains_single ..).mp same]
        exact List.prefix_cons_inj _ |>.mpr (ih known)
      next => cases known

end Way

namespace Expr

theorem way_ofElements (elements : List Expr) (follow : Sequel) :
    (ofElements elements).way follow = elements.foldr (fun element => element.way) follow := by
  induction elements with
  | nil => rfl
  | cons first rest ih =>
    cases rest with
    | nil => rfl
    | cons second rest => exact congrArg first.way ih

/-- Nothing is repeated without a bound but what reads, and no part is a group "token". -/
def Simple (expr : Expr) : Prop := expr.orderly = true ∧ expr.named = false

theorem simple_ofElements {elements : List Expr} (each : ∀ element ∈ elements, element.Simple) :
    (ofElements elements).Simple := by
  induction elements with
  | nil => exact ⟨rfl, rfl⟩
  | cons first rest ih =>
    obtain ⟨firstSimple, restSimple⟩ := List.forall_mem_cons.mp each
    cases rest with
    | nil => exact firstSimple
    | cons second rest =>
      have later := ih restSimple
      exact ⟨Bool.and_eq_true _ _ |>.mpr ⟨firstSimple.1, later.1⟩,
        Bool.or_eq_false_iff.mpr ⟨firstSimple.2, later.2⟩⟩

theorem simple_ofBranches {branches : List Expr} (each : ∀ branch ∈ branches, branch.Simple) :
    (ofBranches branches).Simple := by
  induction branches with
  | nil => exact ⟨rfl, rfl⟩
  | cons first rest ih =>
    obtain ⟨firstSimple, restSimple⟩ := List.forall_mem_cons.mp each
    cases rest with
    | nil => exact firstSimple
    | cons second rest =>
      have later := ih restSimple
      exact ⟨Bool.and_eq_true _ _ |>.mpr ⟨firstSimple.1, later.1⟩,
        Bool.or_eq_false_iff.mpr ⟨firstSimple.2, later.2⟩⟩

theorem way_ofBranches (branches : List Expr) (follow : Sequel) (before : Option Char) (text : List Char) :
    (ofBranches branches).way follow before text = branches.findSome? fun branch => branch.way follow before text := by
  induction branches with
  | nil => cases text <;> rfl
  | cons first rest ih =>
    cases rest with
    | nil =>
      rw [List.findSome?_singleton]
      rfl
    | cons second rest =>
      rw [List.findSome?_cons, ← ih]
      simp only [ofBranches, way, Way.either]
      cases first.way follow before text <;> rfl

theorem findSome?_eq {Item Result : Type} {items : List Item} {item : Item} {result? : Item → Option Result}
    (member : item ∈ items) (others : ∀ other ∈ items, other ≠ item → result? other = none) :
    items.findSome? result? = result? item := by
  cases found : items.findSome? result? with
  | none => exact (List.findSome?_eq_none_iff.mp found item member).symm
  | some result =>
    obtain ⟨other, otherMember, known⟩ := List.exists_of_findSome?_eq_some found
    by_cases same : other = item
    · rw [← same, known]
    · rw [others other otherMember same] at known
      cases known

def literally (text : List Char) : Expr := ofElements (text.map fun letter => char (.single letter))

theorem way_literally (text : List Char) : (literally text).way = Way.spelling text := by
  funext follow
  rw [literally, way_ofElements, List.foldr_map]
  rfl

theorem simple_literally (text : List Char) : (literally text).Simple :=
  simple_ofElements (List.forall_mem_map.mpr fun _ _ => ⟨rfl, rfl⟩)

end Expr

end Highlighter.Pattern
