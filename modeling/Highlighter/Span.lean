import Highlighter.Rule

/-!
Spans: the division of a line into stretches, each with the kind of its token. Rules take stretches in order; a
stretch that meets one taken before is dropped whole, and what no rule takes is plain text.
-/

namespace Highlighter

/-- A stretch of a line with its kind; `start` is the number of bytes in front of it. -/
structure Span where
  text : String
  kind : TokenKind
  start : Nat
  deriving DecidableEq, Repr

structure Taken where
  interval : Interval
  kind : TokenKind
  deriving DecidableEq, Repr

namespace Taken

/-- Takes an interval unless it meets one taken before. -/
def add (kind : TokenKind) (taken : List Taken) (interval : Interval) : List Taken :=
  if taken.any (·.interval.overlaps interval) then taken else ⟨interval, kind⟩ :: taken

def addRule (line : List Char) (taken : List Taken) (rule : Rule) : List Taken :=
  (rule.intervals line).foldl (add rule.kind) taken

def ofRules (rules : List Rule) (line : List Char) : List Taken :=
  rules.foldl (addRule line) []

def sorted (taken : List Taken) : List Taken :=
  taken.mergeSort fun left right => left.interval.start ≤ right.interval.start

end Taken

namespace Span

def stop (span : Span) : Nat := span.start + utf8Length span.text.toList

def ofText (text : List Char) (kind : TokenKind) (start : Nat) : List Span :=
  if text.isEmpty then [] else [⟨.ofList text, kind, start⟩]

/-- The spans of the part of a line from the character number `index` on, which has `start` bytes in front of it;
what is taken of it is given from left to right. -/
def divide (index start : Nat) (line : List Char) : List Taken → List Span
  | [] => ofText line .plain start
  | first :: rest =>
    let (before, line) := line.splitAt (first.interval.start - index)
    let (inside, line) := line.splitAt (first.interval.stop - first.interval.start)
    let inner := start + utf8Length before
    ofText before .plain start ++ ofText inside first.kind inner ++
      divide first.interval.stop (inner + utf8Length inside) line rest

def ofLine (rules : List Rule) (line : String) : List Span :=
  divide 0 0 line.toList (Taken.sorted (Taken.ofRules rules line.toList))

end Span

end Highlighter
