/-! Stretches of a text. -/

namespace Highlighter

/-- A stretch of one character or more, from the character number `start` up to but without the one number
`stop`. -/
structure Interval where
  start : Nat
  stop : Nat
  start_lt_stop : start < stop := by omega
  deriving DecidableEq, Repr

namespace Interval

/-- The interval from one place to another, if it has a character. -/
def between? (start stop : Nat) : Option Interval :=
  if h : start < stop then some ⟨start, stop, h⟩ else none

def overlaps (left right : Interval) : Bool := left.start < right.stop && right.start < left.stop

end Interval

def utf8Length (text : List Char) : Nat := text.foldr (fun char bytes => char.utf8Size + bytes) 0

/-- The numbers of bytes in front of both ends of an interval of a text. -/
def Interval.bytes (interval : Interval) (text : List Char) : Nat × Nat :=
  (utf8Length (text.take interval.start), utf8Length (text.take interval.stop))

end Highlighter
