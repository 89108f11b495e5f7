import Highlighter.Unicode.Table.CaseMap
import Highlighter.Unicode.Table.Category
import Highlighter.Unicode.Table.Letter
import Highlighter.Unicode.Table.Property

/-! Case conversion of characters and texts, and the classes of characters that differ in case alone. -/

namespace Highlighter.Unicode

namespace CaseRun

def target? (run : CaseRun) (code : Nat) : Option Nat :=
  if run.first ≤ code ∧ code ≤ run.last ∧ (code - run.first) % run.step = 0 then
    some (run.target + (code - run.first))
  else none

def source? (run : CaseRun) (code : Nat) : Option Nat :=
  if run.target ≤ code ∧ code - run.target ≤ run.last - run.first ∧ (code - run.target) % run.step = 0 then
    some (run.first + (code - run.target))
  else none

end CaseRun

def caseRepresentative (code : Nat) : Nat :=
  (Table.foldRuns.findSome? (·.target? code)).getD code

def caseVariants (code : Nat) : List Nat :=
  let representative := caseRepresentative code
  representative :: Table.foldRuns.filterMap (·.source? representative)

/-- The lower-case form. It takes two characters for the capital I with a dot alone. -/
def lowercase (char : Char) : List Char :=
  if char.toNat = 0x130 then ['i', Char.ofNat 0x307]
  else match Table.lowerRuns.findSome? (·.target? char.toNat) with
    | some code => [Char.ofNat code]
    | none => [char]

def uppercase (char : Char) : List Char :=
  match Table.upperSequences.find? (·.1 = char.toNat) with
  | some (_, codes) => codes.map Char.ofNat
  | none => match Table.upperRuns.findSome? (·.target? char.toNat) with
    | some code => [Char.ofNat code]
    | none => [char]

def isCased (char : Char) : Bool :=
  [Table.lowercaseLetter, Table.otherLowercase, Table.uppercaseLetter, Table.otherUppercase,
    Table.titlecaseLetter].any (·.contains char.toNat)

/-- Characters that case conversion looks past when it asks whether a word goes on. -/
def isCaseIgnorable (char : Char) : Bool :=
  [Table.nonspacingMark, Table.enclosingMark, Table.format, Table.modifierLetter, Table.modifierSymbol,
    Table.midWord].any (·.contains char.toNat)

def meetsCased (text : List Char) : Bool :=
  match text.dropWhile isCaseIgnorable with
  | [] => false
  | char :: _ => isCased char

/-- Lower-case conversion behind the text `before`, which is given in reverse. A capital sigma at the end of a
word has a form of its own. -/
def lowercaseBehind (before : List Char) : List Char → List Char
  | [] => []
  | char :: rest =>
    (if char.toNat = 0x3A3 then
      [Char.ofNat (if meetsCased before && !meetsCased rest then 0x3C2 else 0x3C3)]
    else lowercase char) ++ lowercaseBehind (char :: before) rest

def lowercaseText (text : String) : String :=
  .ofList (lowercaseBehind [] text.toList)

end Highlighter.Unicode
