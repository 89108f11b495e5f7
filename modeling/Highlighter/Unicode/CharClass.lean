import Highlighter.Unicode.Case

/-! Classes of characters: tables and what the operations on sets make of them. -/

namespace Highlighter.Unicode

inductive CharClass where
  | table (members : CodeRanges)
  | union (left right : CharClass)
  | inter (left right : CharClass)
  /-- The characters of the left class that are not in the right one. -/
  | diff (left right : CharClass)
  | symmDiff (left right : CharClass)
  | compl (inner : CharClass)
  /-- All characters that differ from one of the class in case at most. -/
  | caseless (inner : CharClass)
  /-- As `caseless`, where only the letters from a to z have a case. -/
  | asciiCaseless (inner : CharClass)
  /-- The class itself, read without Unicode. Such a class is one of bytes. -/
  | bytes (inner : CharClass)
  deriving DecidableEq, Repr, Inhabited

namespace CharClass

def otherAsciiCase (code : Nat) : Nat :=
  if 0x41 ≤ code ∧ code ≤ 0x5A then code + 32 else if 0x61 ≤ code ∧ code ≤ 0x7A then code - 32 else code

def containsCode : CharClass → Nat → Bool
  | table members, code => members.contains code
  | union left right, code => left.containsCode code || right.containsCode code
  | inter left right, code => left.containsCode code && right.containsCode code
  | diff left right, code => left.containsCode code && !right.containsCode code
  | symmDiff left right, code => left.containsCode code != right.containsCode code
  | compl inner, code => !inner.containsCode code
  | caseless inner, code => (caseVariants code).any inner.containsCode
  | asciiCaseless inner, code => inner.containsCode code || inner.containsCode (otherAsciiCase code)
  | bytes inner, code => inner.containsCode code

def contains (members : CharClass) (char : Char) : Bool :=
  members.containsCode char.toNat

def none : CharClass := table []

def range (first last : Char) : CharClass := table [(first.toNat, last.toNat)]

def single (char : Char) : CharClass := range char char

def unions : List CharClass → CharClass
  | [] => none
  | [only] => only
  | first :: rest => union first (unions rest)

def ofTables (tables : List CodeRanges) : CharClass :=
  unions (tables.map table)

def ascii : CharClass := table [(0, 0x7F)]

def digit : CharClass := table Table.decimalNumber

def space : CharClass := table Table.whiteSpace

/-- Word characters: what is alphabetic, marks, decimal digits, connectors and joiners. -/
def word : CharClass :=
  ofTables [Table.decimalNumber, Table.alphabetic, Table.nonspacingMark, Table.spacingMark,
    Table.enclosingMark, Table.connectorPunctuation, Table.joinControl]

def asciiDigit : CharClass := table [(0x30, 0x39)]

/-- Tab, line feed, vertical tab, form feed, carriage return and blank. -/
def asciiSpace : CharClass := table [(0x09, 0x0D), (0x20, 0x20)]

def asciiWord : CharClass := table [(0x30, 0x39), (0x41, 0x5A), (0x5F, 0x5F), (0x61, 0x7A)]

theorem contains_compl (inner : CharClass) (char : Char) :
    (compl inner).contains char = !inner.contains char := rfl

end CharClass

end Highlighter.Unicode
