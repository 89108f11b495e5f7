import Highlighter.Unicode.CharClass

/-! Quoted text, in which characters that do not show stand as escapes. -/

namespace Highlighter.Text

open Unicode

/-- Characters that take part in the character before them or do not show at all. -/
def hidden : CharClass :=
  .union (.ofTables [Table.graphemeExtend, Table.defaultIgnorableCodePoint])
    (.diff (.ofTables [Table.control, Table.format, Table.privateUse, Table.unassigned, Table.lineSeparator,
      Table.paragraphSeparator, Table.spaceSeparator]) (.single ' '))

def hexDigits (number : Nat) : List Char := Nat.toDigits 16 number

def escapeChar (char : Char) : List Char :=
  if char = '\x00' then ['\\', '0']
  else if char = '\t' then ['\\', 't']
  else if char = '\r' then ['\\', 'r']
  else if char = '\n' then ['\\', 'n']
  else if char = '\\' ∨ char = '"' then ['\\', char]
  else if hidden.contains char then ['\\', 'u', '\x7b'] ++ hexDigits char.toNat ++ ['\x7d']
  else [char]

def quoted (text : String) : String := .ofList ('"' :: text.toList.flatMap escapeChar ++ ['"'])

end Highlighter.Text
