import Highlighter.Text.Digits

/-! Quoted text of TOML: on one line or on several, with escapes or without. -/

namespace Highlighter.Toml.Quote

def isPlain (char : Char) : Bool := char = '\t' || (char.toNat ≥ 0x20 && char.toNat ≠ 0x7F)

def put (char : Char) : Option (List Char × List Char) → Option (List Char × List Char) :=
  Option.map fun (text, rest) => (char :: text, rest)

def letterEscape? : Char → Option Char
  | 'b' => some '\x08'
  | 't' => some '\t'
  | 'n' => some '\n'
  | 'f' => some '\x0c'
  | 'r' => some '\r'
  | '"' => some '"'
  | '\\' => some '\\'
  | _ => none

def codeEscape? (digits : List Char) : Option Char := (Text.number? 16 digits).bind Text.charOf?

def readEscaped : List Char → Option (List Char × List Char)
  | [] => none
  | '"' :: rest => some ([], rest)
  | '\\' :: 'U' :: digit1 :: digit2 :: digit3 :: digit4 :: digit5 :: digit6 :: digit7 :: digit8 :: rest =>
    (codeEscape? [digit1, digit2, digit3, digit4, digit5, digit6, digit7, digit8]).bind fun char =>
      put char (readEscaped rest)
  | '\\' :: 'u' :: digit1 :: digit2 :: digit3 :: digit4 :: rest =>
    (codeEscape? [digit1, digit2, digit3, digit4]).bind fun char => put char (readEscaped rest)
  | '\\' :: letter :: rest => (letterEscape? letter).bind fun char => put char (readEscaped rest)
  | char :: rest => if isPlain char && char ≠ '\\' then put char (readEscaped rest) else none

/-- How far a backslash at the end of a line has been read. -/
inductive Joining where
  /-- Outside. -/
  | none
  /-- Behind the backslash, where blanks may stand in front of the line break. -/
  | beforeBreak
  /-- Behind the line break, where blanks and line breaks are skipped. -/
  | behindBreak
  deriving DecidableEq

/-- Reads text with escapes on several lines up to its closing quotes. Up to two quotes in a row belong to the
text, also in front of the closing ones, and a backslash at the end of a line takes all blanks and line breaks
behind it away. -/
def readEscapedLines (joining : Joining) : List Char → Option (List Char × List Char)
  | [] => none
  | '\r' :: '\n' :: rest =>
    if joining = .none then put '\n' (readEscapedLines .none rest) else readEscapedLines .behindBreak rest
  | '\n' :: rest =>
    if joining = .none then put '\n' (readEscapedLines .none rest) else readEscapedLines .behindBreak rest
  | char :: rest =>
    if joining ≠ .none ∧ (char = ' ' ∨ char = '\t') then readEscapedLines joining rest
    else if joining = .beforeBreak then none
    else match char, rest with
      | '"', '"' :: '"' :: '"' :: '"' :: rest => some (['"', '"'], rest)
      | '"', '"' :: '"' :: '"' :: rest => some (['"'], rest)
      | '"', '"' :: '"' :: rest => some ([], rest)
      | '\\', 'U' :: digit1 :: digit2 :: digit3 :: digit4 :: digit5 :: digit6 :: digit7 :: digit8 :: rest =>
        (codeEscape? [digit1, digit2, digit3, digit4, digit5, digit6, digit7, digit8]).bind fun char =>
          put char (readEscapedLines .none rest)
      | '\\', 'u' :: digit1 :: digit2 :: digit3 :: digit4 :: rest =>
        (codeEscape? [digit1, digit2, digit3, digit4]).bind fun char => put char (readEscapedLines .none rest)
      | '\\', ' ' :: rest => readEscapedLines .beforeBreak rest
      | '\\', '\t' :: rest => readEscapedLines .beforeBreak rest
      | '\\', '\n' :: rest => readEscapedLines .behindBreak rest
      | '\\', '\r' :: '\n' :: rest => readEscapedLines .behindBreak rest
      | '\\', letter :: rest => (letterEscape? letter).bind fun char => put char (readEscapedLines .none rest)
      | char, rest => if isPlain char && char ≠ '\\' then put char (readEscapedLines .none rest) else none

def readLiteral : List Char → Option (List Char × List Char)
  | [] => none
  | '\'' :: rest => some ([], rest)
  | char :: rest => if isPlain char then put char (readLiteral rest) else none

def readLiteralLines : List Char → Option (List Char × List Char)
  | [] => none
  | '\r' :: '\n' :: rest => put '\n' (readLiteralLines rest)
  | '\n' :: rest => put '\n' (readLiteralLines rest)
  | '\'' :: '\'' :: '\'' :: '\'' :: '\'' :: rest => some (['\'', '\''], rest)
  | '\'' :: '\'' :: '\'' :: '\'' :: rest => some (['\''], rest)
  | '\'' :: '\'' :: '\'' :: rest => some ([], rest)
  | char :: rest => if isPlain char then put char (readLiteralLines rest) else none

def dropBreak : List Char → List Char
  | '\r' :: '\n' :: rest => rest
  | '\n' :: rest => rest
  | rest => rest

def readLine? : List Char → Option (List Char × List Char)
  | '"' :: rest => readEscaped rest
  | '\'' :: rest => readLiteral rest
  | _ => none

def read? : List Char → Option (List Char × List Char)
  | '"' :: '"' :: '"' :: rest => readEscapedLines .none (dropBreak rest)
  | '\'' :: '\'' :: '\'' :: rest => readLiteralLines (dropBreak rest)
  | text => readLine? text

end Highlighter.Toml.Quote
