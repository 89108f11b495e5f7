import Highlighter.Proofs.Grammar.BuiltIn
import Highlighter.Proofs.Span.Taken
import Highlighter.Proofs.Text.Runs

/-!
Operators, brackets and separators of a text. The rule of operators finds the runs of operator signs, each as long as
can be, and the rule of brackets and separators finds each of these by itself.
-/

namespace Highlighter

open Pattern Text Unicode

def Rule.FindsOnly (rule : Rule) (sort : Char → Prop) : Prop :=
  ∀ text, ∀ interval ∈ rule.intervals text, ∀ place, interval.start ≤ place → place < interval.stop →
    ∃ char, text[place]? = some char ∧ sort char

theorem Rule.FindsOnly.overlaps_eq_false {left right : Rule} {leftSort rightSort : Char → Prop}
    (leftOnly : left.FindsOnly leftSort) (rightOnly : right.FindsOnly rightSort)
    (differ : ∀ char, leftSort char → ¬rightSort char) {text : List Char} {leftInterval rightInterval : Interval}
    (leftMember : leftInterval ∈ left.intervals text) (rightMember : rightInterval ∈ right.intervals text) :
    leftInterval.overlaps rightInterval = false := by
  rw [← Bool.not_eq_true, Interval.overlaps_iff]
  rintro ⟨before, behind⟩
  have leftNonempty := leftInterval.start_lt_stop
  have rightNonempty := rightInterval.start_lt_stop
  -- The first character of the one that begins later lies in both.
  obtain ⟨place, within⟩ : ∃ place, (leftInterval.start ≤ place ∧ place < leftInterval.stop) ∧
      rightInterval.start ≤ place ∧ place < rightInterval.stop :=
    ⟨max leftInterval.start rightInterval.start, by omega⟩
  obtain ⟨char, known, inLeft⟩ := leftOnly text _ leftMember place within.1.1 within.1.2
  obtain ⟨other, otherKnown, inRight⟩ := rightOnly text _ rightMember place within.2.1 within.2.2
  cases known.symm.trans otherKnown
  exact differ char inLeft inRight

namespace Grammar

def operatorSigns : List Char := ['+', '-', '*', '/', '%', '=', '<', '>', '!', '&', '|', '^', '~', '?', ':']

def separatorSigns : List Char := ['{', '}', '[', ']', '(', ')', ';', ',']

section

variable {source : String} {signs text : List Char}

theorem outcomeAt_someOf {place : Nat} {run after : List Char}
    (leading : Leading (oneOf signs) (text.drop place) run after) :
    (someOf (oneOf signs)).way.outcomeAt text place = if run = [] then none else some (.ofSize run.length) := by
  have way : (someOf (oneOf signs)).way = Way.looping true (.reading (oneOf signs)) := rfl
  rw [Way.outcomeAt, way, Way.looping_done leading]

theorem exists_getElem?_of_outcomeAt {place : Nat} {outcome : Outcome}
    (known : (someOf (oneOf signs)).way.outcomeAt text place = some outcome) {other : Nat} (above : place ≤ other)
    (below : other < place + outcome.size) : ∃ char, text[other]? = some char ∧ char ∈ signs := by
  obtain ⟨run, after, leading⟩ : ∃ run after, Leading (oneOf signs) (text.drop place) run after :=
    ⟨_, _, Leading.leading_takeWhile _ _⟩
  rw [outcomeAt_someOf leading] at known
  split at known
  · cases known
  · cases known
    obtain ⟨count, rfl⟩ : ∃ count, other = place + count := ⟨other - place, by omega⟩
    have inside : count < run.length := Nat.lt_of_add_lt_add_left below
    refine ⟨run[count], ?_, (contains_oneOf signs _).mp (leading.letters _ (List.getElem_mem inside))⟩
    rw [← List.getElem?_drop, leading.split, List.getElem?_append_left inside, List.getElem?_eq_getElem inside]

theorem mem_intervals_of_isRun {before run after : List Char} (isRun : IsRun (· ∈ signs) text before run after) :
    isRun.interval ∈ (ofExpr source (someOf (oneOf signs))).intervals text := by
  have ends : isIn (oneOf signs) after.head? = false := by
    cases next : after.head? with
    | none => rfl
    | some letter => exact Bool.eq_false_iff.mpr fun inside => isRun.ends letter next ((contains_oneOf _ _).mp inside)
  have leading : Leading (oneOf signs) (text.drop before.length) run after :=
    ⟨by rw [isRun.split, List.append_assoc, List.drop_left],
      fun letter member => (contains_oneOf signs letter).mpr (isRun.inside letter member), ends⟩
  have known : (someOf (oneOf signs)).way.outcomeAt text before.length = some (.ofSize run.length) := by
    rw [outcomeAt_someOf leading, if_neg isRun.nonempty]
  have positive := List.length_pos_iff.mpr isRun.nonempty
  have bound : before.length ≤ text.length :=
    Nat.le_trans (Nat.le_of_lt isRun.interval.start_lt_stop) isRun.splits.stop_le
  rw [intervals_ofExpr rfl, List.mem_map]
  refine ⟨⟨isRun.interval, none⟩, mem_search rfl bound known (Outcome.match?_ofSize positive _) ?_, rfl⟩
  -- A match that reaches the run would have read the character in front of it.
  intro earlier below other found
  by_contra reaches
  obtain ⟨last, next⟩ : ∃ last, last + 1 = before.length := ⟨before.length - 1, by omega⟩
  have above : earlier ≤ last := by omega
  obtain ⟨char, charKnown, inside⟩ := exists_getElem?_of_outcomeAt found above (by omega)
  exact isRun.not_of_getElem?_before next charKnown inside

theorem mem_intervals_someOf {interval : Interval} :
    interval ∈ (ofExpr source (someOf (oneOf signs))).intervals text ↔
      ∃ before run after, ∃ isRun : IsRun (· ∈ signs) text before run after, interval = isRun.interval := by
  constructor
  · intro member
    have searched := member
    rw [intervals_ofExpr rfl, List.mem_map] at searched
    obtain ⟨found, searched, rfl⟩ := searched
    obtain ⟨place, _, outcome, known, matched⟩ := exists_of_mem_search rfl searched
    have start := start_of_match? matched
    have stop := stop_of_match? matched
    have nonempty := found.whole.start_lt_stop
    obtain ⟨char, charKnown, sign⟩ := exists_getElem?_of_outcomeAt known (Nat.le_refl place) (by omega)
    obtain ⟨before, run, after, isRun, begins, ends⟩ := IsRun.exists_of_getElem? charKnown sign
    exact ⟨before, run, after, isRun,
      eq_of_mem_intervals member (mem_intervals_of_isRun isRun) (by omega) (by omega)⟩
  · rintro ⟨before, run, after, isRun, rfl⟩
    exact mem_intervals_of_isRun isRun

theorem outcomeAt_char {place : Nat} {outcome : Outcome} :
    (Expr.char (oneOf signs)).way.outcomeAt text place = some outcome ↔
      (∃ sign ∈ signs, text[place]? = some sign) ∧ outcome = .ofSize 1 := by
  rw [Way.outcomeAt, ← List.head?_drop]
  cases text.drop place with
  | nil => simp [Expr.way, Way.reading]
  | cons letter rest =>
    rw [Expr.way, Way.reading_cons, List.head?_cons]
    by_cases sign : letter ∈ signs
    · have same : (some ({} : Outcome)).map Outcome.advance = some (.ofSize 1) := rfl
      simp [(contains_oneOf signs letter).mpr sign, sign, Sequel.done, same, eq_comm]
    · simp [Bool.eq_false_iff.mpr fun inside => sign ((contains_oneOf signs letter).mp inside), sign]

theorem mem_intervals_char {interval : Interval} :
    interval ∈ (ofExpr source (.char (oneOf signs))).intervals text ↔
      ∃ before sign after, sign ∈ signs ∧ interval.Splits text before [sign] after := by
  rw [intervals_ofExpr rfl, List.mem_map]
  constructor
  · rintro ⟨found, searched, rfl⟩
    obtain ⟨place, inside, outcome, known, matched⟩ := exists_of_mem_search rfl searched
    obtain ⟨⟨sign, member, char⟩, rfl⟩ := outcomeAt_char.mp known
    have bound := (List.getElem?_eq_some_iff.mp char).1
    have front : (text.take place).length = place := List.length_take_of_le inside
    refine ⟨text.take place, sign, text.drop (place + 1), member, ?_, ?_, ?_⟩
    · have split : text.drop place = sign :: text.drop (place + 1) := by
        rw [List.drop_eq_getElem_cons bound, (List.getElem?_eq_some_iff.mp char).2]
      rw [List.append_assoc, List.singleton_append, ← split, List.take_append_drop]
    · rw [start_of_match? matched, front]
    · rw [stop_of_match? matched, front]
      rfl
  · rintro ⟨before, sign, after, member, splits⟩
    have char : text[before.length]? = some sign := by
      rw [splits.split, List.append_assoc, List.getElem?_append_right (Nat.le_refl _), Nat.sub_self]
      rfl
    have known := outcomeAt_char.mpr ⟨⟨sign, member, char⟩, rfl⟩
    have bound := Nat.le_of_lt (List.getElem?_eq_some_iff.mp char).1
    have matched : (Outcome.ofSize 1).match? before.length = some ⟨interval, none⟩ := by
      obtain ⟨start, stop, nonempty⟩ := interval
      cases splits.start_eq
      cases splits.stop_eq
      exact Outcome.match?_ofSize Nat.one_pos _
    refine ⟨⟨interval, none⟩, mem_search rfl bound known matched ?_, rfl⟩
    intro earlier below other found
    rw [(outcomeAt_char.mp found).2]
    exact below

end

namespace Language

theorem mem_intervals_operator {text : List Char} {interval : Interval} :
    interval ∈ operatorRule.intervals text ↔
      ∃ before run after, ∃ isRun : IsRun (· ∈ operatorSigns) text before run after, interval = isRun.interval :=
  mem_intervals_someOf

theorem mem_intervals_separator {text : List Char} {interval : Interval} :
    interval ∈ separatorRule.intervals text ↔
      ∃ before sign after, sign ∈ separatorSigns ∧ interval.Splits text before [sign] after :=
  mem_intervals_char

theorem findsOnly_operator : operatorRule.FindsOnly (· ∈ operatorSigns) := by
  intro text interval member place above below
  obtain ⟨before, run, after, isRun, rfl⟩ := mem_intervals_operator.mp member
  exact isRun.exists_getElem? above below

theorem findsOnly_separator : separatorRule.FindsOnly (· ∈ separatorSigns) := by
  intro text interval member place above below
  obtain ⟨before, sign, after, known, splits⟩ := mem_intervals_separator.mp member
  obtain ⟨char, inside, charKnown⟩ := splits.exists_getElem? above below
  cases List.mem_singleton.mp inside
  exact ⟨sign, charKnown, known⟩

end Language

end Grammar

end Highlighter
