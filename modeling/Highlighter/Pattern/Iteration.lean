import Highlighter.Pattern.Search

/-!
The iteration over the matches in a text. One search from a place finds the first match at or behind it, empty or not.
Behind a match the next search begins at its end, and an empty match that stands where the last match has ended is not
met: the search is made once more from the next place. Of each match that is met the range is reported, or that of its
group "token" if the pattern has that group, unless the range is empty.
-/

namespace Highlighter.Pattern

/-- A match, empty or not, that begins at a place of a text. -/
structure Hit where
  start : Nat
  outcome : Outcome
  deriving DecidableEq, Repr

namespace Hit

def stop (hit : Hit) : Nat := hit.start + hit.outcome.size

def whole (hit : Hit) : Nat × Nat := (hit.start, hit.stop)

def token? (hit : Hit) : Option (Nat × Nat) :=
  match hit.outcome.tokenStart, hit.outcome.tokenStop with
  | some tokenStart, some tokenStop => some (hit.start + tokenStart, hit.start + tokenStop)
  | _, _ => none

def first? (place : Nat) : List (Option Outcome) → Option Hit
  | [] => none
  | some outcome :: _ => some ⟨place, outcome⟩
  | none :: rest => first? (place + 1) rest

def searchFrom? (outcomes : List (Option Outcome)) (place : Nat) : Option Hit := first? place (outcomes.drop place)

/-- The match that is met behind the end of the last one, or first of all. -/
def next? (outcomes : List (Option Outcome)) (last : Option Nat) : Option Hit :=
  (searchFrom? outcomes (last.getD 0)).bind fun hit =>
    if hit.start = hit.stop ∧ last = some hit.stop then searchFrom? outcomes (hit.stop + 1) else some hit

inductive Iterates (outcomes : List (Option Outcome)) : Option Nat → List Hit → Prop where
  | finished {last : Option Nat} (none : next? outcomes last = none) : Iterates outcomes last []
  | met {last : Option Nat} {hit : Hit} {hits : List Hit} (next : next? outcomes last = some hit)
      (rest : Iterates outcomes (some hit.stop) hits) : Iterates outcomes last (hit :: hits)

def inBytes (text : List Char) (ends : Nat × Nat) : Nat × Nat :=
  (utf8Length (text.take ends.1), utf8Length (text.take ends.2))

def range? (narrowed : Bool) (text : List Char) (hit : Hit) : Option (Nat × Nat) :=
  ((if narrowed then hit.token? else some hit.whole).map (inBytes text)).filter fun range => range.1 < range.2

end Hit

end Highlighter.Pattern
