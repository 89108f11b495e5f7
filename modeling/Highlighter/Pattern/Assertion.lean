import Highlighter.Unicode.CharClass

/-! Conditions on a position of a text, which look at the characters on its two sides. -/

namespace Highlighter

open Unicode

structure Position where
  before : Option Char
  after : Option Char

namespace Pattern

/-- A condition on a position. Those on words name the class of word characters. -/
inductive Assertion where
  | textStart
  | textEnd
  /-- The start of the text or behind a line feed. -/
  | lineStart
  /-- The end of the text or in front of a line feed. -/
  | lineEnd
  /-- As `lineStart`, where a carriage return breaks lines too and is one break with a line feed behind it. -/
  | breakStart
  /-- As `lineEnd`, where a carriage return breaks lines too and is one break with a line feed behind it. -/
  | breakEnd
  /-- Between a word character and another or none. -/
  | wordBoundary (word : CharClass)
  | wordInside (word : CharClass)
  | wordStart (word : CharClass)
  | wordEnd (word : CharClass)
  /-- Not behind a word character. -/
  | wordStartHalf (word : CharClass)
  /-- Not in front of a word character. -/
  | wordEndHalf (word : CharClass)
  deriving DecidableEq, Repr

def isIn (members : CharClass) : Option Char → Bool
  | none => false
  | some char => members.contains char

def Assertion.holds (here : Position) : Assertion → Bool
  | textStart => here.before.isNone
  | textEnd => here.after.isNone
  | lineStart => here.before.isNone || here.before = some '\n'
  | lineEnd => here.after.isNone || here.after = some '\n'
  | breakStart =>
    here.before.isNone || here.before = some '\n' || (here.before = some '\r' && here.after ≠ some '\n')
  | breakEnd =>
    here.after.isNone || here.after = some '\r' || (here.after = some '\n' && here.before ≠ some '\r')
  | wordBoundary word => isIn word here.before != isIn word here.after
  | wordInside word => isIn word here.before == isIn word here.after
  | wordStart word => !isIn word here.before && isIn word here.after
  | wordEnd word => isIn word here.before && !isIn word here.after
  | wordStartHalf word => !isIn word here.before
  | wordEndHalf word => !isIn word here.after

end Pattern

end Highlighter
