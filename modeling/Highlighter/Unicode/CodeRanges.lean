/-!
Sets of code points, given as ascending ranges. Tables of character properties are written as lines of
hexadecimal ranges (`"41-5A 61-7A AA"`), which `CodeRanges.ofLines` reads.
-/

namespace Highlighter.Unicode

/-- A set of code points: inclusive ranges, ascending and apart from each other. -/
abbrev CodeRanges := List (Nat × Nat)

namespace CodeRanges

/-- Membership stops at the first range that begins past the code point, since the ranges ascend. -/
def contains : CodeRanges → Nat → Bool
  | [], _ => false
  | (first, last) :: rest, code =>
    if code < first then false else if code ≤ last then true else contains rest code

def digitValue (digit : Char) : Nat :=
  if digit.toNat < 58 then digit.toNat - 48 else digit.toNat - 55

/-- Reads a range text: `first` is the range's first code point once its dash has been passed, and `value`
the number read so far. -/
def readRange : List Char → Option Nat → Nat → Nat × Nat
  | [], first, value => (first.getD value, value)
  | char :: rest, first, value =>
    if char = '-' then readRange rest (some value) 0
    else readRange rest first (value * 16 + digitValue char)

/-- Reads the ranges of one line, which are divided by single blanks; `word` holds the text of the current
range in reverse. -/
def readLine : List Char → List Char → CodeRanges
  | [], word => [readRange word.reverse none 0]
  | char :: rest, word =>
    if char = ' ' then readRange word.reverse none 0 :: readLine rest [] else readLine rest (char :: word)

def ofLines (lines : List String) : CodeRanges :=
  lines.flatMap fun line => readLine line.toList []

def insert (first last : Nat) : CodeRanges → CodeRanges
  | [] => [(first, last)]
  | (low, high) :: rest =>
    if last + 1 < low then (first, last) :: (low, high) :: rest
    else if high + 1 < first then (low, high) :: insert first last rest
    else insert (min first low) (max last high) rest

end CodeRanges

end Highlighter.Unicode
