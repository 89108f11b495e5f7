import Highlighter.Text.Digits
import Highlighter.Unicode.CharClass

/-!
Comparison of classes by the characters that they have, in whichever way they are put together. From one code to the
next a class can change at its bounds only, so that it need not be looked at anywhere else.
-/

namespace Highlighter.Unicode

def CaseRun.bounds (run : CaseRun) : List Nat :=
  List.range' run.first (run.last - run.first + 2) ++ List.range' run.target (run.last - run.first + 2)

namespace CharClass

/-- The codes that may be in the class where the one before is not, or the other way round. -/
def bounds : CharClass → List Nat
  | table members => members.flatMap fun (first, last) => [first, last + 1]
  | union left right => left.bounds ++ right.bounds
  | inter left right => left.bounds ++ right.bounds
  | diff left right => left.bounds ++ right.bounds
  | symmDiff left right => left.bounds ++ right.bounds
  | compl inner => inner.bounds
  | caseless inner => inner.bounds ++ Table.foldRuns.flatMap CaseRun.bounds
  | asciiCaseless inner => inner.bounds ++ List.range' 0x41 0x3B
  | bytes inner => inner.bounds

/-- The characters at some bounds and those with no character right before them. -/
def charsAt (bounds : List Nat) : List Char := (0 :: 0xE000 :: bounds).filterMap Text.charOf?

def same (left right : CharClass) : Bool :=
  (charsAt (left.bounds ++ right.bounds)).all fun char => left.contains char == right.contains char

def first? (members : CharClass) : Option Char := (charsAt members.bounds).find? members.contains

def isSingle (members : CharClass) : Bool := members.first?.any fun first => members.same (single first)

def isBytes : CharClass → Bool
  | bytes _ => true
  | _ => false

/-- The classes stand for the same in a pattern. How a class was read does not count if it has one character or
none. -/
def alike (left right : CharClass) : Bool :=
  left.same right && (left.isBytes == right.isBytes || left.isSingle || left.first?.isNone)

/-- The class in a union, where it does not count how it was read. -/
def unmarked : CharClass → CharClass
  | bytes inner => inner
  | other => other

end CharClass

end Highlighter.Unicode
