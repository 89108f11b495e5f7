import Highlighter.Pattern.Search
import Mathlib.Data.List.Basic

/-!
Ways through a pattern. A part of a pattern is a way from what comes of going on behind it to what comes of going on
in front of it; a part that is repeated goes on behind each of its runs with another run or with what follows.
-/

namespace Highlighter.Pattern

/-- What comes of going on at a place, where a character may stand in front and the rest of the text behind. -/
abbrev Sequel := Option Char → List Char → Option Outcome

def Sequel.done : Sequel := fun _ _ => some {}

def Sequel.closing (follow : Sequel) : Sequel := fun before text => (follow before text).map Outcome.closeToken

/-- What comes in front of a part of a pattern, told by what comes behind it. -/
abbrev Way := Sequel → Sequel

namespace Way

def reading (members : Unicode.CharClass) : Way := fun follow _ text =>
  match text with
  | [] => none
  | letter :: rest => if members.contains letter then (follow (some letter) rest).map Outcome.advance else none

def holding (condition : Assertion) : Way := fun follow before text =>
  if condition.holds ⟨before, text.head?⟩ then follow before text else none

def capturing (inner : Way) : Way := fun follow before text => (inner follow.closing before text).map Outcome.openToken

def either (first second : Way) : Way := fun follow before text =>
  first follow before text <|> second follow before text

/-- Of another run and of no more runs the preferred one, if something comes of it. -/
def prefer (greedy : Bool) (run stop : Option Outcome) : Option Outcome :=
  if greedy then run <|> stop else stop <|> run

/-- Behind a run of a part, when at most so many runs follow. -/
def turns (greedy : Bool) (part : Way) (follow : Sequel) : Nat → Sequel
  | 0 => follow
  | count + 1 => fun before text =>
    prefer greedy (part (turns greedy part follow count) before text) (follow before text)

/-- A part once or more. There are no more runs than characters, since each run reads one. -/
def looping (greedy : Bool) (part : Way) : Way := fun follow before text =>
  part (turns greedy part follow text.length) before text

def again (greedy : Bool) (part : Way) (follow : Sequel) : Sequel := fun before text =>
  prefer greedy (looping greedy part follow before text) (follow before text)

def orNothing (greedy : Bool) (part : Way) : Way := fun follow before text =>
  prefer greedy (part follow before text) (follow before text)

def copies (count : Nat) (part last : Way) : Way :=
  match count with
  | 0 => last
  | count + 1 => fun follow => part (copies count part last follow)

def upTo (count : Nat) (greedy : Bool) (part : Way) : Way :=
  match count with
  | 0 => fun follow => follow
  | count + 1 => orNothing greedy fun follow => part (upTo count greedy part follow)

def repeating (least : Nat) (most : Option Nat) (greedy : Bool) (part : Way) : Way :=
  match most, least with
  | some most, least => copies least part (upTo (most - least) greedy part)
  | none, 0 => orNothing greedy (looping greedy part)
  | none, least + 1 => copies least part (looping greedy part)

/-- What comes in front of a part depends on what comes of the text that is not in front of it. -/
def Forward (way : Way) : Prop :=
  ∀ follow other before text, (∀ last rest, rest.length ≤ text.length → follow last rest = other last rest) →
    way follow before text = way other before text

/-- A part that reads a character: what comes in front of it depends on what comes behind that character. -/
def Reads (way : Way) : Prop :=
  ∀ follow other before text, (∀ last rest, rest.length < text.length → follow last rest = other last rest) →
    way follow before text = way other before text

theorem Reads.forward {way : Way} (reads : way.Reads) : way.Forward := fun follow other before text agree =>
  reads follow other before text fun last rest shorter => agree last rest (Nat.le_of_lt shorter)

theorem Forward.comp {first second : Way} (firstForward : first.Forward) (secondForward : second.Forward) :
    Forward fun follow => first (second follow) := by
  intro follow other before text agree
  apply firstForward
  intro last rest bound
  apply secondForward
  intro later remainder within
  exact agree later remainder (by omega)

theorem Reads.comp_left {first second : Way} (reads : first.Reads) (forward : second.Forward) :
    Reads fun follow => first (second follow) := by
  intro follow other before text agree
  apply reads
  intro last rest shorter
  apply forward
  intro later remainder within
  exact agree later remainder (by omega)

theorem Reads.comp_right {first second : Way} (reads : second.Reads) (forward : first.Forward) :
    Reads fun follow => first (second follow) := by
  intro follow other before text agree
  apply forward
  intro last rest bound
  apply reads
  intro later remainder shorter
  exact agree later remainder (by omega)

theorem reading_cons (members : Unicode.CharClass) (follow : Sequel) (before : Option Char) (letter : Char)
    (rest : List Char) :
    reading members follow before (letter :: rest) =
      if members.contains letter then (follow (some letter) rest).map Outcome.advance else none := rfl

theorem reads_reading (members : Unicode.CharClass) : (reading members).Reads := by
  intro follow other before text agree
  cases text with
  | nil => rfl
  | cons letter rest => simp only [reading, agree (some letter) rest (Nat.lt_succ_self _)]

theorem forward_holding (condition : Assertion) : (holding condition).Forward := by
  intro follow other before text agree
  simp only [holding, agree before text (Nat.le_refl _)]

theorem forward_closing : Forward Sequel.closing := by
  intro follow other before text agree
  simp only [Sequel.closing, agree before text (Nat.le_refl _)]

theorem forward_capturing {inner : Way} (forward : inner.Forward) : (capturing inner).Forward :=
  fun follow other before text agree =>
    congrArg (Option.map Outcome.openToken) (forward.comp forward_closing follow other before text agree)

theorem reads_capturing {inner : Way} (reads : inner.Reads) : (capturing inner).Reads :=
  fun follow other before text agree =>
    congrArg (Option.map Outcome.openToken) (reads.comp_left forward_closing follow other before text agree)

theorem forward_either {first second : Way} (firstForward : first.Forward) (secondForward : second.Forward) :
    (either first second).Forward := by
  intro follow other before text agree
  simp only [either]
  rw [firstForward follow other before text agree, secondForward follow other before text agree]

theorem reads_either {first second : Way} (firstReads : first.Reads) (secondReads : second.Reads) :
    (either first second).Reads := by
  intro follow other before text agree
  simp only [either]
  rw [firstReads follow other before text agree, secondReads follow other before text agree]

theorem forward_turns {part : Way} (forward : part.Forward) (greedy : Bool) (count : Nat) :
    Forward fun follow => turns greedy part follow count := by
  induction count with
  | zero =>
    intro follow other before text agree
    exact agree before text (Nat.le_refl _)
  | succ count ih =>
    intro follow other before text agree
    exact congrArg₂ (prefer greedy) (forward.comp ih follow other before text agree)
      (agree before text (Nat.le_refl _))

theorem forward_looping {part : Way} (forward : part.Forward) (greedy : Bool) : (looping greedy part).Forward :=
  fun follow other before text agree => forward.comp (forward_turns forward greedy _) follow other before text agree

theorem reads_looping {part : Way} (reads : part.Reads) (greedy : Bool) : (looping greedy part).Reads :=
  fun follow other before text agree =>
    reads.comp_left (forward_turns reads.forward greedy _) follow other before text agree

/-- With as many turns as characters it makes no difference how many more there are. -/
theorem turns_eq {part : Way} (reads : part.Reads) (greedy : Bool) (follow : Sequel) {left right : Nat}
    {before : Option Char} {text : List Char} (leftEnough : text.length < left) (rightEnough : text.length < right) :
    turns greedy part follow left before text = turns greedy part follow right before text := by
  induction left generalizing right before text with
  | zero => omega
  | succ left ih =>
    cases right with
    | zero => omega
    | succ right =>
      simp only [turns]
      rw [reads _ (turns greedy part follow right) before text fun last rest shorter => ih (by omega) (by omega)]

theorem looping_eq {part : Way} (reads : part.Reads) (greedy : Bool) (follow : Sequel) :
    looping greedy part follow = part (again greedy part follow) := by
  funext before text
  refine reads _ _ before text fun last rest shorter => ?_
  exact turns_eq reads greedy follow shorter (Nat.lt_succ_self rest.length)

theorem again_eq {part : Way} (reads : part.Reads) (follow : Sequel) (before : Option Char) (text : List Char) :
    again true part follow before text = (part (again true part follow) before text <|> follow before text) :=
  congrArg (fun runs : Sequel => runs before text <|> follow before text) (looping_eq reads true follow)

end Way

namespace Machine

def way : Machine → Way
  | empty => fun follow => follow
  | char members _ => .reading members
  | assertion condition => .holding condition
  | token inner => .capturing inner.way
  | seq first second => fun follow => first.way (second.way follow)
  | choice first second => .either first.way second.way
  | marked _ inner => inner.way
  | loop _ greedy body => .looping greedy body.way

def reads : Machine → Bool
  | empty => false
  | char _ _ => true
  | assertion _ => false
  | token inner => inner.reads
  | seq first second => first.reads || second.reads
  | choice first second => first.reads && second.reads
  | marked _ inner => inner.reads
  | loop _ _ body => body.reads

def Orderly : Machine → Prop
  | empty => True
  | char _ _ => True
  | assertion _ => True
  | token inner => inner.Orderly
  | seq first second => first.Orderly ∧ second.Orderly
  | choice first second => first.Orderly ∧ second.Orderly
  | marked _ inner => inner.Orderly
  | loop _ _ body => body.reads = true ∧ body.Orderly

theorem forward_way (machine : Machine) : machine.way.Forward := by
  induction machine with
  | empty => exact fun follow other before text agree => agree before text (Nat.le_refl _)
  | char members next => exact (Way.reads_reading members).forward
  | assertion condition => exact Way.forward_holding condition
  | token inner ih => exact Way.forward_capturing ih
  | seq first second firstIh secondIh => exact firstIh.comp secondIh
  | choice first second firstIh secondIh => exact Way.forward_either firstIh secondIh
  | marked mark inner ih => exact ih
  | loop mark greedy body ih => exact Way.forward_looping ih greedy

theorem reads_way {machine : Machine} (reads : machine.reads = true) : machine.way.Reads := by
  induction machine with
  | empty => cases reads
  | char members next => exact Way.reads_reading members
  | assertion condition => cases reads
  | token inner ih => exact Way.reads_capturing (ih reads)
  | seq first second firstIh secondIh =>
    rcases Bool.or_eq_true _ _ |>.mp reads with firstReads | secondReads
    · exact (firstIh firstReads).comp_left second.forward_way
    · exact (secondIh secondReads).comp_right first.forward_way
  | choice first second firstIh secondIh =>
    obtain ⟨firstReads, secondReads⟩ := Bool.and_eq_true _ _ |>.mp reads
    exact Way.reads_either (firstIh firstReads) (secondIh secondReads)
  | marked mark inner ih => exact ih reads
  | loop mark greedy body ih => exact Way.reads_looping (ih reads) greedy

end Machine

end Highlighter.Pattern
