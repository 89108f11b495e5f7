import Highlighter.Pattern.Assertion
import Highlighter.Pattern.Flags
import Highlighter.Text.Digits
import Highlighter.Unicode.Property

/-! Escapes of a pattern: what a backslash and the characters behind it stand for. -/

namespace Highlighter.Pattern

open Unicode

inductive Escape where
  /-- A character; `byte` marks one written with two digits, which without Unicode is a byte. -/
  | literal (char : Char) (byte : Bool)
  | members (members : CharClass)
  | assertion (assertion : Assertion)

namespace Escape

def readDigits (flags : Flags) : Nat → List Char → Option (List Char × List Char)
  | 0, text => some ([], text)
  | count + 1, text =>
    match flags.skip text with
    | [] => none
    | char :: rest => (readDigits flags count rest).map fun (digits, rest) => (char :: digits, rest)

/-- Reads the code point behind `\x`, `\u` or `\U`: digits in braces, or as many as the letter asks for. -/
def readCode (flags : Flags) (count : Nat) (text : List Char) : Option (Escape × List Char) :=
  let found : Option (List Char × Bool × List Char) := match flags.skip text with
    | '\x7b' :: rest => (flags.braced? rest).map fun (digits, rest) => (digits, false, rest)
    | rest => (readDigits flags count rest).map fun (digits, rest) => (digits, decide (count = 2), rest)
  found.bind fun (digits, byte, rest) =>
    ((Text.number? 16 digits).bind Text.charOf?).map fun char => (literal char byte, rest)

/-- Divides a property text at its first `!=`, else at its first colon, else at its first `=`. -/
def divide? (text : List Char) : Option (List Char × List Char) :=
  divideAtUnequal [] text <|> divideAt ':' [] text <|> divideAt '=' [] text
where
  /-- Divides at the first `!=`; `before` is the text passed, in reverse. -/
  divideAtUnequal (before : List Char) : List Char → Option (List Char × List Char)
    | '!' :: '=' :: rest => some (before.reverse, rest)
    | char :: rest => divideAtUnequal (char :: before) rest
    | [] => none
  divideAt (mark : Char) (before : List Char) : List Char → Option (List Char × List Char)
    | char :: rest => if char = mark then some (before.reverse, rest) else divideAt mark (char :: before) rest
    | [] => none

def propertyClass? (text : List Char) : Option CharClass :=
  match divide? text with
  | some (property, value) => Property.valueClass? property value
  | none => Property.namedClass? text

def readProperty (flags : Flags) (negated : Bool) (text : List Char) : Option (Escape × List Char) :=
  let found := match flags.skip text with
    | [] => none
    | '\\' :: _ => none
    | '\x7b' :: rest => flags.braced? rest
    | char :: rest => some ([char], rest)
  found.bind fun (text, rest) =>
    if !flags.unicode then none
    else (propertyClass? text).bind fun members =>
      (flags.negate? negated (flags.foldCase members)).map fun members => (Escape.members members, rest)

def isKindChar (char : Char) : Bool := char.isAlpha || char = '-'

def boundaryKind? (word : CharClass) (kind : List Char) : Option Assertion :=
  match String.ofList kind with
  | "start" => some (.wordStart word)
  | "end" => some (.wordEnd word)
  | "start-half" => some (.wordStartHalf word)
  | "end-half" => some (.wordEndHalf word)
  | _ => none

/-- Reads what stands behind `\b`: a word boundary, whose kind may follow in braces. Braces that begin with
neither a letter nor a hyphen are a repetition and stay unread. -/
def readBoundary (flags : Flags) (text : List Char) : Option (Escape × List Char) :=
  match text with
  | '\x7b' :: rest =>
    match flags.span isKindChar false rest with
    | (_, []) => none
    | ([], _ :: _) => some (assertion (.wordBoundary flags.word), text)
    | (kind, char :: rest) =>
      if char = '\x7d' then (boundaryKind? flags.word kind).map fun kind => (assertion kind, rest) else none
  | _ => some (assertion (.wordBoundary flags.word), text)

def letterClass? (flags : Flags) (letter : Char) : Option CharClass :=
  match letter with
  | 'd' => some flags.digit
  | 's' => some flags.space
  | 'w' => some flags.word
  | 'D' => flags.negate? true flags.digit
  | 'S' => flags.negate? true flags.space
  | 'W' => flags.negate? true flags.word
  | _ => none

def control? : Char → Option Char
  | 'a' => some '\x07'
  | 'f' => some '\x0c'
  | 't' => some '\t'
  | 'n' => some '\n'
  | 'r' => some '\r'
  | 'v' => some '\x0b'
  | _ => none

/-- Characters that a backslash makes stand for themselves: ASCII without letters, digits and angle
brackets. -/
def isQuotable (char : Char) : Bool :=
  char.toNat < 128 && !char.isAlphanum && char ≠ '<' && char ≠ '>'

def read? (flags : Flags) : List Char → Option (Escape × List Char)
  | [] => none
  | char :: rest =>
    match char with
    | 'x' => readCode flags 2 rest
    | 'u' => readCode flags 4 rest
    | 'U' => readCode flags 8 rest
    | 'p' => readProperty flags false rest
    | 'P' => readProperty flags true rest
    | 'd' | 's' | 'w' | 'D' | 'S' | 'W' => (letterClass? flags char).map fun members => (.members members, rest)
    | 'A' => some (assertion .textStart, rest)
    | 'z' => some (assertion .textEnd, rest)
    | 'b' => readBoundary flags rest
    | 'B' => some (assertion (.wordInside flags.word), rest)
    | '<' => some (assertion (.wordStart flags.word), rest)
    | '>' => some (assertion (.wordEnd flags.word), rest)
    | _ => if isQuotable char then some (literal char false, rest)
      else (control? char).map fun control => (literal control false, rest)

end Escape

end Highlighter.Pattern
