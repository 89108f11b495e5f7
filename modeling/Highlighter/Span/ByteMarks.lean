import Highlighter.Span

/-!
The division of a line by marks on its bytes. A range of bytes is accepted if none of its marks is set, and sets them
all; the accepted ranges are put in order by their starts, and the spans are cut out of the line. Nothing is taken
for granted here: to use a range of marks or of text that the line does not have, or to cut a character apart, fails.
-/

namespace Highlighter

def Rule.byteRanges (rule : Rule) (line : String) : List (Nat × Nat) :=
  (rule.intervals line.toList).map (·.bytes line.toList)

namespace ByteMarks

structure Accepted where
  start : Nat
  stop : Nat
  kind : TokenKind
  deriving DecidableEq, Repr

/-- A mark for each byte of a line, and the ranges accepted so far in the order of their acceptance. -/
structure State where
  marks : List Bool
  accepted : List Accepted
  deriving DecidableEq, Repr

def read? (marks : List Bool) (start stop : Nat) : Option (List Bool) :=
  if start ≤ stop ∧ stop ≤ marks.length then some ((marks.take stop).drop start) else none

def set? (marks : List Bool) (start stop : Nat) : Option (List Bool) :=
  if start ≤ stop ∧ stop ≤ marks.length then
    some (marks.take start ++ List.replicate (stop - start) true ++ marks.drop stop)
  else none

/-- Accepts a range, unless a mark of it is set. -/
def add? (kind : TokenKind) (state : State) (range : Nat × Nat) : Option State := do
  let inside ← read? state.marks range.1 range.2
  if inside.any id then return state
  let marks ← set? state.marks range.1 range.2
  return ⟨marks, state.accepted ++ [⟨range.1, range.2, kind⟩]⟩

def addRule? (line : String) (state : State) (rule : Rule) : Option State :=
  (rule.byteRanges line).foldlM (add? rule.kind) state

def ofRules? (rules : List Rule) (line : String) : Option State :=
  rules.foldlM (addRule? line) ⟨List.replicate line.utf8ByteSize false, []⟩

/-- The text of a range of bytes. Both its ends must be ends of characters. -/
def slice? (line : String) (start stop : Nat) : Option String :=
  if bounds : start ≤ stop ∧ (String.Pos.Raw.mk start).IsValid line ∧ (String.Pos.Raw.mk stop).IsValid line then
    some (String.extract ⟨⟨start⟩, bounds.2.1⟩ ⟨⟨stop⟩, bounds.2.2⟩)
  else none

/-- A way to put ranges in order by their starts. How it orders ranges with one start is left open. -/
structure StartOrder where
  arrange : List Accepted → List Accepted
  perm : ∀ accepted, (arrange accepted).Perm accepted
  starts : ∀ accepted, (arrange accepted).Pairwise fun left right => left.start ≤ right.start

def startsFirst (left right : Accepted) : Bool := left.start ≤ right.start

/-- Merging puts ranges in order, and keeps ranges with one start as they were. -/
instance : Inhabited StartOrder where
  default :=
    { arrange := fun accepted => accepted.mergeSort startsFirst
      perm := fun accepted => List.mergeSort_perm accepted startsFirst
      starts := fun accepted => by
        have trans : ∀ left middle right : Accepted, startsFirst left middle = true →
            startsFirst middle right = true → startsFirst left right = true := by
          simp only [startsFirst, decide_eq_true_eq]
          omega
        have total : ∀ left right : Accepted, (startsFirst left right || startsFirst right left) = true := by
          simp only [startsFirst, Bool.or_eq_true, decide_eq_true_eq]
          omega
        exact (List.pairwise_mergeSort trans total accepted).imp of_decide_eq_true }

def gap? (line : String) (first last : Nat) : Option (List Span) :=
  if first < last then (slice? line first last).map fun text => [⟨text, .plain, first⟩] else some []

/-- The spans of a line from a byte on. The accepted ranges from there on are given in order. -/
def cut? (line : String) (position : Nat) : List Accepted → Option (List Span)
  | [] => gap? line position line.utf8ByteSize
  | first :: rest => do
    let before ← gap? line position first.start
    let text ← slice? line first.start first.stop
    let after ← cut? line first.stop rest
    return before ++ ⟨text, first.kind, first.start⟩ :: after

/-- The spans of a line under rules in order of precedence. An empty line has none. -/
def spans? (order : StartOrder) (rules : List Rule) (line : String) : Option (List Span) :=
  if line.isEmpty then some []
  else do
    let state ← ofRules? rules line
    cut? line 0 (order.arrange state.accepted)

end ByteMarks

end Highlighter
