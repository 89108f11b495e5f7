import Highlighter.Interval
import Highlighter.Pattern.Machine

/-!
Patterns and the search for their matches: from left to right, each match from where the one before it ended, and
at each place the match that the pattern prefers there. Matches of the empty text are passed over.
-/

namespace Highlighter

structure Pattern where
  source : String
  machine : Pattern.Machine

namespace Pattern

/-- The pattern of a text that is well-formed, however large its machine is. A reader of patterns may refuse machines
for their size on top of this. -/
def ofText? (source : String) : Option Pattern :=
  (Expr.ofText? source).map fun expr => ⟨source, .ofExpr expr⟩

def narrowed (pattern : Pattern) : Bool := pattern.machine.hasToken

/-- A match: the whole of it, and its group "token" if that took part and has a character. -/
structure Match where
  whole : Interval
  token : Option Interval

def Outcome.match? (outcome : Outcome) (start : Nat) : Option Match :=
  (Interval.between? start (start + outcome.size)).map fun whole =>
    { whole
      token := match outcome.tokenStart, outcome.tokenStop with
        | some tokenStart, some tokenStop => Interval.between? (start + tokenStart) (start + tokenStop)
        | _, _ => none }

/-- The matches met from a place on, where `skip` more characters belong to the match before. -/
def scan (skip start : Nat) : List (Option Outcome) → List Match
  | [] => []
  | outcome :: rest =>
    match skip with
    | skip + 1 => scan skip (start + 1) rest
    | 0 =>
      match outcome.bind (·.match? start) with
      | some found => found :: scan (found.whole.stop - start - 1) (start + 1) rest
      | none => scan 0 (start + 1) rest

def search (pattern : Pattern) (text : List Char) : List Match :=
  scan 0 0 (pattern.machine.outcomes text)

/-- The intervals that a pattern reports: its matches, or their groups "token" if it has that group. -/
def intervals (pattern : Pattern) (text : List Char) : List Interval :=
  if pattern.narrowed then (pattern.search text).filterMap (·.token)
  else (pattern.search text).map (·.whole)

end Pattern

end Highlighter
