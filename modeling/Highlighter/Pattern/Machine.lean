import Highlighter.Pattern.Expr

/-!
Machines: expressions that run over a text from its end to its start. At every position each character leaf
knows what comes of the match if it goes on behind the leaf at the next position. Choices are made in order, the
first one that leads to a match is taken, and no mark is passed twice at one position, so the work at a position
is bounded by the size of the machine.
-/

namespace Highlighter.Pattern

open Unicode

/-- A match, measured from the position at which it is looked at: how many characters are left to its end, and
where its group "token" begins and ends. -/
structure Outcome where
  size : Nat := 0
  tokenStart : Option Nat := none
  tokenStop : Option Nat := none
  deriving DecidableEq, Repr

namespace Outcome

def advance (outcome : Outcome) : Outcome where
  size := outcome.size + 1
  tokenStart := outcome.tokenStart.map (· + 1)
  tokenStop := outcome.tokenStop.map (· + 1)

/-- The group begins here, unless it has begun later once more. -/
def openToken (outcome : Outcome) : Outcome :=
  { outcome with tokenStart := outcome.tokenStart <|> some 0 }

/-- The group ends here, unless it has ended later once more. -/
def closeToken (outcome : Outcome) : Outcome :=
  { outcome with tokenStop := outcome.tokenStop <|> some 0 }

end Outcome

abbrev Marks := List Nat

/-- An attempt to reach a match from the current position on, given the marks passed there. -/
abbrev Attempt := Marks → Option Outcome × Marks

namespace Attempt

def done : Attempt := fun marks => (some {}, marks)

def fail : Attempt := fun marks => (none, marks)

def orElse (first second : Attempt) : Attempt := fun marks =>
  match first marks with
  | (some outcome, marks) => (some outcome, marks)
  | (none, marks) => second marks

/-- Passes a mark, which can be done once at a position. -/
def passing (mark : Nat) (next : Attempt) : Attempt := fun marks =>
  if marks.contains mark then (none, marks) else next (mark :: marks)

def map (change : Outcome → Outcome) (attempt : Attempt) : Attempt := fun marks =>
  ((attempt marks).1.map change, (attempt marks).2)

def outcome (attempt : Attempt) : Option Outcome := (attempt []).1

end Attempt

inductive Machine where
  | empty
  /-- Matches a character of a class; `next` is the outcome of going on at the next position. -/
  | char (members : CharClass) (next : Option Outcome)
  | assertion (assertion : Assertion)
  | token (inner : Machine)
  | seq (first second : Machine)
  | choice (first second : Machine)
  /-- Passes a mark and then the machine. -/
  | marked (mark : Nat) (inner : Machine)
  /-- Runs the body once or more; the mark is passed behind each run. -/
  | loop (mark : Nat) (greedy : Bool) (body : Machine)

namespace Machine

/-- What happens behind a run of a loop's body: another run or what follows the loop. A run that comes back
without having read a character ends there. -/
def again (mark : Nat) (greedy : Bool) (run follow : Attempt) : Attempt :=
  .passing mark (if greedy then run.orElse follow else follow.orElse run)

/-- The attempt to pass the machine at a position and go on with `follow`. -/
def enter (here : Position) : Machine → Attempt → Attempt
  | empty, follow => follow
  | char members next, _ => fun marks =>
    (if isIn members here.after then next.map Outcome.advance else none, marks)
  | assertion condition, follow => if condition.holds here then follow else .fail
  | token inner, follow => (inner.enter here (follow.map Outcome.closeToken)).map Outcome.openToken
  | seq first second, follow => first.enter here (second.enter here follow)
  | choice first second, follow => (first.enter here follow).orElse (second.enter here follow)
  | marked mark inner, follow => .passing mark (inner.enter here follow)
  | loop mark greedy body, follow => body.enter here (again mark greedy (body.enter here .fail) follow)

/-- The machine for the position before: each character leaf learns what comes of going on behind it at this
position, where `follow` follows the machine and `outcome` comes of it. -/
def update (here : Position) : Machine → Attempt → Option Outcome → Machine
  | empty, _, _ => empty
  | char members _, _, outcome => char members outcome
  | assertion condition, _, _ => assertion condition
  | token inner, follow, outcome =>
    token (inner.update here (follow.map Outcome.closeToken) (outcome.map Outcome.closeToken))
  | seq first second, follow, outcome =>
    let next := second.enter here follow
    seq (first.update here next next.outcome) (second.update here follow outcome)
  | choice first second, follow, outcome =>
    choice (first.update here follow outcome) (second.update here follow outcome)
  | marked mark inner, follow, outcome => marked mark (inner.update here follow outcome)
  | loop mark greedy body, follow, _ =>
    let next := again mark greedy (body.enter here .fail) follow
    loop mark greedy (body.update here next next.outcome)

def step (here : Position) (state : Machine × List (Option Outcome)) : Machine × List (Option Outcome) :=
  (state.1.update here .done (some {}), (state.1.enter here .done).outcome :: state.2)

def positions (text : List Char) : List Position :=
  List.zipWith Position.mk (none :: text.map some) (text.map some ++ [none])

def outcomes (machine : Machine) (text : List Char) : List (Option Outcome) :=
  ((positions text).foldr step (machine, [])).2

def hasToken : Machine → Bool
  | empty => false
  | char _ _ => false
  | assertion _ => false
  | token _ => true
  | seq first second => first.hasToken || second.hasToken
  | choice first second => first.hasToken || second.hasToken
  | marked _ inner => inner.hasToken
  | loop _ _ body => body.hasToken

def optional (mark : Nat) (greedy : Bool) (inner : Machine) : Machine :=
  marked mark (if greedy then choice inner empty else choice empty inner)

/-- Builds a part of a machine with marks from the given one on, and tells the first unused one. -/
abbrev Build := Nat → Machine × Nat

namespace Build

def andThen (first second : Build) : Build := fun mark =>
  let (first, mark) := first mark
  let (second, mark) := second mark
  (seq first second, mark)

def copies (count : Nat) (part last : Build) : Build :=
  match count with
  | 0 => last
  | count + 1 => part.andThen (copies count part last)

def orNothing (greedy : Bool) (part : Build) : Build := fun mark =>
  let (inner, next) := part (mark + 1)
  (optional mark greedy inner, next)

def upTo (count : Nat) (greedy : Bool) (part : Build) : Build :=
  match count with
  | 0 => fun mark => (empty, mark)
  | count + 1 => orNothing greedy (part.andThen (upTo count greedy part))

def looping (greedy : Bool) (part : Build) : Build := fun mark =>
  let (body, next) := part (mark + 1)
  (loop mark greedy body, next)

def repeating (least : Nat) (most : Option Nat) (greedy : Bool) (part : Build) : Build :=
  match most, least with
  | some most, least => copies least part (upTo (most - least) greedy part)
  | none, 0 => orNothing greedy (looping greedy part)
  | none, least + 1 => copies least part (looping greedy part)

def ofExpr : Expr → Build
  | .empty => fun mark => (empty, mark)
  | .char members => fun mark => (char members none, mark)
  | .assertion condition => fun mark => (assertion condition, mark)
  | .capture true inner => fun mark =>
    let (inner, next) := ofExpr inner mark
    (token inner, next)
  | .capture false inner => ofExpr inner
  | .repetition inner least most greedy => repeating least most greedy (ofExpr inner)
  | .seq first second => (ofExpr first).andThen (ofExpr second)
  | .choice first second => fun mark =>
    let (first, next) := ofExpr first (mark + 1)
    let (second, next) := ofExpr second next
    (marked mark (choice first second), next)

end Build

def ofExpr (expr : Expr) : Machine := (Build.ofExpr expr 0).1

end Machine

end Highlighter.Pattern
