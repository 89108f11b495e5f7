import Highlighter.Proofs.Pattern.Extent
import Highlighter.Proofs.Pattern.Marks

/-!
What a machine finds at each position of a text is what the way through its expression tells there, if the expression
repeats without a bound nothing but what reads a character.
-/

namespace Highlighter.Pattern

namespace Expr

def way : Expr → Way
  | empty => fun follow => follow
  | char members => .reading members
  | assertion condition => .holding condition
  | capture true inner => .capturing inner.way
  | capture false inner => inner.way
  | repetition inner least most greedy => .repeating least most greedy inner.way
  | seq first second => fun follow => first.way (second.way follow)
  | choice first second => .either first.way second.way

def reads : Expr → Bool
  | empty => false
  | char _ => true
  | assertion _ => false
  | capture _ inner => inner.reads
  | repetition inner least _ _ => least ≠ 0 && inner.reads
  | seq first second => first.reads || second.reads
  | choice first second => first.reads && second.reads

def orderly : Expr → Bool
  | empty => true
  | char _ => true
  | assertion _ => true
  | capture _ inner => inner.orderly
  | repetition inner _ most _ => inner.orderly && (most.isSome || inner.reads)
  | seq first second => first.orderly && second.orderly
  | choice first second => first.orderly && second.orderly

def named : Expr → Bool
  | empty => false
  | char _ => false
  | assertion _ => false
  | capture token inner => token || inner.named
  | repetition inner _ _ _ => inner.named
  | seq first second => first.named || second.named
  | choice first second => first.named || second.named

end Expr

namespace Machine

/-- The part that is built, from whatever mark on, goes a way. It has marks of its own, below the first unused one, and
its leaves have learned nothing yet. -/
structure Build.Realizes (build : Build) (way : Way) (reads : Bool) : Prop where
  way_eq : ∀ mark, (build mark).1.way = way
  reads_eq : reads = true → ∀ mark, (build mark).1.reads = true
  orderly : ∀ mark, (build mark).1.Orderly
  known_eq : ∀ mark, (build mark).1.known = []
  distinct : ∀ mark, (build mark).1.marks.Nodup
  range : ∀ mark, ∀ own ∈ (build mark).1.marks, mark ≤ own ∧ own < (build mark).2
  le_next : ∀ mark, mark ≤ (build mark).2

namespace Build

variable {part first second last : Build} {partWay firstWay secondWay lastWay : Way}
  {partReads firstReads secondReads lastReads : Bool}

theorem realizes_leaf (machine : Machine) (orderly : machine.Orderly) (known : machine.known = [])
    (marks : machine.marks = []) : Realizes (fun mark => (machine, mark)) machine.way machine.reads where
  way_eq _ := rfl
  reads_eq reads _ := reads
  orderly _ := orderly
  known_eq _ := known
  distinct mark := by simp [marks]
  range mark own member := by simp [marks] at member
  le_next mark := Nat.le_refl mark

theorem realizes_token (realizes : part.Realizes partWay partReads) :
    Realizes (fun mark => (token (part mark).1, (part mark).2)) (.capturing partWay) partReads where
  way_eq mark := congrArg Way.capturing (realizes.way_eq mark)
  reads_eq := realizes.reads_eq
  orderly := realizes.orderly
  known_eq := realizes.known_eq
  distinct := realizes.distinct
  range := realizes.range
  le_next := realizes.le_next

theorem nodup_append (firstRealizes : first.Realizes firstWay firstReads)
    (secondRealizes : second.Realizes secondWay secondReads) (mark : Nat) :
    ((first mark).1.marks ++ (second (first mark).2).1.marks).Nodup := by
  refine List.nodup_append.mpr ⟨firstRealizes.distinct mark, secondRealizes.distinct _, ?_⟩
  intro left inFirst right inSecond same
  have below := (firstRealizes.range mark left inFirst).2
  have above := (secondRealizes.range _ right inSecond).1
  omega

theorem range_append (firstRealizes : first.Realizes firstWay firstReads)
    (secondRealizes : second.Realizes secondWay secondReads) (mark : Nat) :
    ∀ own ∈ (first mark).1.marks ++ (second (first mark).2).1.marks,
      mark ≤ own ∧ own < (second (first mark).2).2 := by
  intro own member
  have middle := firstRealizes.le_next mark
  have next := secondRealizes.le_next (first mark).2
  rcases List.mem_append.mp member with inFirst | inSecond
  · have bounds := firstRealizes.range mark own inFirst
    omega
  · have bounds := secondRealizes.range _ own inSecond
    omega

theorem realizes_andThen (firstRealizes : first.Realizes firstWay firstReads)
    (secondRealizes : second.Realizes secondWay secondReads) :
    (first.andThen second).Realizes (fun follow => firstWay (secondWay follow)) (firstReads || secondReads) where
  way_eq mark := by
    simp only [andThen, Machine.way]
    rw [firstRealizes.way_eq, secondRealizes.way_eq]
  reads_eq reads mark := by
    refine Bool.or_eq_true _ _ |>.mpr ((Bool.or_eq_true _ _ |>.mp reads).imp ?_ ?_)
    · exact fun reads => firstRealizes.reads_eq reads mark
    · exact fun reads => secondRealizes.reads_eq reads _
  orderly mark := ⟨firstRealizes.orderly mark, secondRealizes.orderly _⟩
  known_eq mark := List.append_eq_nil_iff.mpr ⟨firstRealizes.known_eq mark, secondRealizes.known_eq _⟩
  distinct := nodup_append firstRealizes secondRealizes
  range := range_append firstRealizes secondRealizes
  le_next mark := Nat.le_trans (firstRealizes.le_next mark) (secondRealizes.le_next _)

theorem nodup_cons (realizes : part.Realizes partWay partReads) (mark : Nat) :
    (mark :: (part (mark + 1)).1.marks).Nodup := by
  refine List.nodup_cons.mpr ⟨fun member => ?_, realizes.distinct _⟩
  have bounds := realizes.range (mark + 1) mark member
  omega

theorem range_cons (realizes : part.Realizes partWay partReads) (mark : Nat) :
    ∀ own ∈ mark :: (part (mark + 1)).1.marks, mark ≤ own ∧ own < (part (mark + 1)).2 := by
  intro own member
  have next := realizes.le_next (mark + 1)
  rcases List.mem_cons.mp member with rfl | later
  · omega
  · have bounds := realizes.range (mark + 1) own later
    omega

theorem realizes_either (firstRealizes : first.Realizes firstWay firstReads)
    (secondRealizes : second.Realizes secondWay secondReads) :
    Realizes (fun mark => (marked mark (choice (first (mark + 1)).1 (second (first (mark + 1)).2).1),
      (second (first (mark + 1)).2).2)) (.either firstWay secondWay) (firstReads && secondReads) := by
  have both := realizes_andThen firstRealizes secondRealizes
  exact {
    way_eq := fun mark => by
      simp only [Machine.way]
      rw [firstRealizes.way_eq, secondRealizes.way_eq]
    reads_eq := fun reads mark => by
      obtain ⟨firstReads, secondReads⟩ := Bool.and_eq_true _ _ |>.mp reads
      exact Bool.and_eq_true _ _ |>.mpr ⟨firstRealizes.reads_eq firstReads _, secondRealizes.reads_eq secondReads _⟩
    orderly := fun mark => ⟨firstRealizes.orderly _, secondRealizes.orderly _⟩
    known_eq := fun mark => both.known_eq (mark + 1)
    distinct := nodup_cons both
    range := range_cons both
    le_next := fun mark => Nat.le_trans (Nat.le_succ mark) (both.le_next (mark + 1)) }

theorem realizes_orNothing (greedy : Bool) (realizes : part.Realizes partWay partReads) :
    (orNothing greedy part).Realizes (.orNothing greedy partWay) false where
  way_eq mark := by
    have same := realizes.way_eq (mark + 1)
    cases greedy <;> funext follow before text <;>
      simp [orNothing, optional, Machine.way, same, Way.orNothing, Way.prefer, Way.either]
  reads_eq reads := by cases reads
  orderly mark := by cases greedy <;> simp [orNothing, optional, Orderly, realizes.orderly]
  known_eq mark := by cases greedy <;> simp [orNothing, optional, known, realizes.known_eq]
  distinct mark := by
    have distinct := nodup_cons realizes mark
    cases greedy <;> simpa [orNothing, optional, marks] using distinct
  range mark := by
    have range := range_cons realizes mark
    cases greedy <;> simpa [orNothing, optional, marks] using range
  le_next mark := Nat.le_trans (Nat.le_succ mark) (realizes.le_next (mark + 1))

theorem realizes_looping (greedy : Bool) (realizes : part.Realizes partWay true) :
    (looping greedy part).Realizes (.looping greedy partWay) true where
  way_eq mark := congrArg (Way.looping greedy) (realizes.way_eq (mark + 1))
  reads_eq reads mark := realizes.reads_eq reads (mark + 1)
  orderly mark := ⟨realizes.reads_eq rfl (mark + 1), realizes.orderly (mark + 1)⟩
  known_eq mark := realizes.known_eq (mark + 1)
  distinct := nodup_cons realizes
  range := range_cons realizes
  le_next mark := Nat.le_trans (Nat.le_succ mark) (realizes.le_next (mark + 1))

theorem realizes_copies (count : Nat) (partRealizes : part.Realizes partWay partReads)
    (lastRealizes : last.Realizes lastWay lastReads) :
    (copies count part last).Realizes (.copies count partWay lastWay) (count ≠ 0 && partReads || lastReads) := by
  induction count with
  | zero => simpa [copies, Way.copies] using lastRealizes
  | succ count ih =>
    have next := realizes_andThen partRealizes ih
    refine { next with reads_eq := fun reads mark => next.reads_eq ?_ mark }
    cases partReads <;> simp_all

theorem realizes_upTo (count : Nat) (greedy : Bool) (realizes : part.Realizes partWay partReads) :
    (upTo count greedy part).Realizes (.upTo count greedy partWay) false := by
  induction count with
  | zero => exact realizes_leaf empty trivial rfl rfl
  | succ count ih => exact realizes_orNothing greedy (realizes_andThen realizes ih)

theorem realizes_repeating (least : Nat) (most : Option Nat) (greedy : Bool)
    (realizes : part.Realizes partWay partReads) (bounded : most.isSome = true ∨ partReads = true) :
    (repeating least most greedy part).Realizes (.repeating least most greedy partWay) (least ≠ 0 && partReads) := by
  cases most with
  | some most =>
    simpa [repeating, Way.repeating] using realizes_copies least realizes (realizes_upTo (most - least) greedy realizes)
  | none =>
    have partReads : partReads = true := by simpa using bounded
    subst partReads
    cases least with
    | zero => exact realizes_orNothing greedy (realizes_looping greedy realizes)
    | succ least =>
      simpa [repeating, Way.repeating] using realizes_copies least realizes (realizes_looping greedy realizes)

theorem realizes_ofExpr {expr : Expr} (orderly : expr.orderly = true) :
    (Build.ofExpr expr).Realizes expr.way expr.reads := by
  induction expr with
  | empty => exact realizes_leaf empty trivial rfl rfl
  | char members => exact realizes_leaf (char members none) trivial rfl rfl
  | assertion condition => exact realizes_leaf (assertion condition) trivial rfl rfl
  | capture token inner ih =>
    cases token with
    | true => exact realizes_token (ih orderly)
    | false => exact ih orderly
  | repetition inner least most greedy ih =>
    obtain ⟨innerOrderly, bounded⟩ := Bool.and_eq_true _ _ |>.mp orderly
    exact realizes_repeating least most greedy (ih innerOrderly) (Bool.or_eq_true _ _ |>.mp bounded)
  | seq first second firstIh secondIh =>
    obtain ⟨firstOrderly, secondOrderly⟩ := Bool.and_eq_true _ _ |>.mp orderly
    have both := realizes_andThen (firstIh firstOrderly) (secondIh secondOrderly)
    exact both
  | choice first second firstIh secondIh =>
    obtain ⟨firstOrderly, secondOrderly⟩ := Bool.and_eq_true _ _ |>.mp orderly
    exact realizes_either (firstIh firstOrderly) (secondIh secondOrderly)

/-- The property goes from parts of a machine to the machine; for a group "token" it may fail. -/
structure Composes (holds : Machine → Prop) : Prop where
  empty : holds .empty
  char : ∀ members, holds (.char members none)
  assertion : ∀ condition, holds (.assertion condition)
  seq : ∀ {first second}, holds first → holds second → holds (.seq first second)
  choice : ∀ {first second}, holds first → holds second → holds (.choice first second)
  marked : ∀ {mark inner}, holds inner → holds (.marked mark inner)
  loop : ∀ {mark greedy body}, holds body → holds (.loop mark greedy body)

section Composes

variable {holds : Machine → Prop} (composes : Composes holds)

include composes

theorem holds_andThen (firstHolds : ∀ mark, holds (first mark).1) (secondHolds : ∀ mark, holds (second mark).1)
    (mark : Nat) : holds (first.andThen second mark).1 :=
  composes.seq (firstHolds mark) (secondHolds _)

theorem holds_orNothing (greedy : Bool) (partHolds : ∀ mark, holds (part mark).1) (mark : Nat) :
    holds (orNothing greedy part mark).1 := by
  apply composes.marked
  cases greedy with
  | false => exact composes.choice composes.empty (partHolds _)
  | true => exact composes.choice (partHolds _) composes.empty

theorem holds_copies (count : Nat) (partHolds : ∀ mark, holds (part mark).1)
    (lastHolds : ∀ mark, holds (last mark).1) : ∀ mark, holds (copies count part last mark).1 := by
  induction count with
  | zero => exact lastHolds
  | succ count ih => exact holds_andThen composes partHolds ih

theorem holds_upTo (count : Nat) (greedy : Bool) (partHolds : ∀ mark, holds (part mark).1) :
    ∀ mark, holds (upTo count greedy part mark).1 := by
  induction count with
  | zero => exact fun _ => composes.empty
  | succ count ih => exact holds_orNothing composes greedy (holds_andThen composes partHolds ih)

theorem holds_repeating (least : Nat) (most : Option Nat) (greedy : Bool) (partHolds : ∀ mark, holds (part mark).1) :
    ∀ mark, holds (repeating least most greedy part mark).1 := by
  have looped : ∀ mark, holds (looping greedy part mark).1 := fun mark => composes.loop (partHolds (mark + 1))
  cases most with
  | some most => exact holds_copies composes least partHolds (holds_upTo composes (most - least) greedy partHolds)
  | none =>
    cases least with
    | zero => exact holds_orNothing composes greedy looped
    | succ least => exact holds_copies composes least partHolds looped

/-- A machine that is built of an expression has the property, if groups "token" pass it on or there are none. -/
theorem holds_ofExpr {expr : Expr} (tokens : expr.named = true → ∀ {inner}, holds inner → holds (token inner)) :
    ∀ mark, holds (Build.ofExpr expr mark).1 := by
  induction expr with
  | empty => exact fun _ => composes.empty
  | char members => exact fun _ => composes.char members
  | assertion condition => exact fun _ => composes.assertion condition
  | capture named inner ih =>
    cases named with
    | true => exact fun mark => tokens rfl (ih (fun _ => tokens rfl) mark)
    | false => exact ih tokens
  | repetition inner least most greedy ih => exact holds_repeating composes least most greedy (ih tokens)
  | seq first second firstIh secondIh =>
    exact holds_andThen composes (firstIh fun named => tokens (by simp [Expr.named, named]))
      (secondIh fun named => tokens (by simp [Expr.named, named]))
  | choice first second firstIh secondIh =>
    have firstHolds := firstIh fun named => tokens (by simp [Expr.named, named])
    have secondHolds := secondIh fun named => tokens (by simp [Expr.named, named])
    exact fun mark => composes.marked (composes.choice (firstHolds _) (secondHolds _))

end Composes

def Unnamed (build : Build) : Prop := ∀ mark, (build mark).1.hasToken = false

theorem unnamed_ofExpr {expr : Expr} (unnamed : expr.named = false) : (Build.ofExpr expr).Unnamed := by
  have composes : Composes fun machine => machine.hasToken = false := {
    empty := rfl
    char := fun _ => rfl
    assertion := fun _ => rfl
    seq := fun first second => Bool.or_eq_false_iff.mpr ⟨first, second⟩
    choice := fun first second => Bool.or_eq_false_iff.mpr ⟨first, second⟩
    marked := id
    loop := id }
  refine holds_ofExpr composes fun named => ?_
  rw [unnamed] at named
  cases named

theorem known_ofExpr (expr : Expr) : ∀ mark, (Build.ofExpr expr mark).1.known = [] := by
  have composes : Composes fun machine => machine.known = [] := {
    empty := rfl
    char := fun _ => rfl
    assertion := fun _ => rfl
    seq := fun first second => List.append_eq_nil_iff.mpr ⟨first, second⟩
    choice := fun first second => List.append_eq_nil_iff.mpr ⟨first, second⟩
    marked := id
    loop := id }
  exact holds_ofExpr composes fun _ _ => id

end Build

theorem taught_nil {machine : Machine} (known : machine.known = []) (follow : Sequel) :
    machine.taught follow [] = machine := by
  induction machine generalizing follow with
  | empty => rfl
  | char members next =>
    cases next with
    | none => rfl
    | some outcome => cases known
  | assertion condition => rfl
  | token inner ih => exact congrArg token (ih known _)
  | seq first second firstIh secondIh =>
    obtain ⟨firstKnown, secondKnown⟩ := List.append_eq_nil_iff.mp known
    simp only [taught, firstIh firstKnown, secondIh secondKnown]
  | choice first second firstIh secondIh =>
    obtain ⟨firstKnown, secondKnown⟩ := List.append_eq_nil_iff.mp known
    simp only [taught, firstIh firstKnown, secondIh secondKnown]
  | marked mark inner ih => exact congrArg (marked mark) (ih known _)
  | loop mark greedy body ih => exact congrArg (loop mark greedy) (ih known _)

end Machine

def Way.outcomes (way : Way) (before : Option Char) : List Char → List (Option Outcome)
  | [] => [way .done before []]
  | letter :: rest => way .done before (letter :: rest) :: way.outcomes (some letter) rest

namespace Machine

variable {machine : Machine}

theorem enter_done (distinct : machine.marks.Nodup) (orderly : machine.Orderly) (before : Option Char)
    (text : List Char) :
    ((machine.taught .done text).enter ⟨before, text.head?⟩ .done).outcome = machine.way .done before text := by
  obtain ⟨dead, tells⟩ := exists_tells distinct before text .done
  exact (gives_enter distinct orderly tells (Attempt.gives_settled dead (fun _ => False) (some {}))
    (.inr fun _ _ => id)).outcome

theorem update_done (distinct : machine.marks.Nodup) (orderly : machine.Orderly) (letter : Char) (text : List Char) :
    (machine.taught .done text).update ⟨some letter, text.head?⟩ .done (some {}) =
      machine.taught .done (letter :: text) := by
  obtain ⟨dead, tells⟩ := exists_tells distinct (some letter) text .done
  exact update_taught distinct orderly tells (Attempt.gives_settled dead (fun _ => False) (some {}))
    (clear_of_distinct distinct orderly fun _ _ => id).1

/-- The run over the end of a text, where `before` stands in front of that end: the outcomes are those of the way, and
the machine has learned what it has to know one position before. -/
theorem foldr_step (distinct : machine.marks.Nodup) (orderly : machine.Orderly) (known : machine.known = [])
    (before : Option Char) (text : List Char) :
    let state := (List.zipWith Position.mk (before :: text.map some) (text.map some ++ [none])).foldr step (machine, [])
    state.2 = machine.way.outcomes before text ∧
      ∀ letter ∈ before, state.1 = machine.taught .done (letter :: text) := by
  induction text generalizing before with
  | nil =>
    have entered := enter_done distinct orderly before []
    rw [taught_nil known] at entered
    refine ⟨congrArg (· :: []) entered, ?_⟩
    rintro letter ⟨⟩
    have learned := update_done distinct orderly letter []
    rw [taught_nil known] at learned
    exact learned
  | cons char rest ih =>
    obtain ⟨outcomes, learned⟩ := ih (some char)
    have learned := learned char rfl
    simp only [List.map_cons, List.cons_append, List.zipWith_cons_cons, List.foldr_cons] at outcomes learned ⊢
    generalize List.foldr step (machine, []) _ = state at outcomes learned ⊢
    obtain ⟨next, found⟩ := state
    subst outcomes learned
    refine ⟨congrArg (· :: _) (enter_done distinct orderly before (char :: rest)), ?_⟩
    rintro letter ⟨⟩
    exact update_done distinct orderly letter (char :: rest)

theorem outcomes_ofExpr {expr : Expr} (orderly : expr.orderly = true) (text : List Char) :
    (ofExpr expr).outcomes text = expr.way.outcomes none text := by
  have realizes := Build.realizes_ofExpr orderly
  have run := foldr_step (realizes.distinct 0) (realizes.orderly 0) (realizes.known_eq 0) none text
  exact run.1.trans (congrArg (Way.outcomes · none text) (realizes.way_eq 0))

end Machine

end Highlighter.Pattern
