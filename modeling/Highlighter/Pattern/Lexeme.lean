import Highlighter.Pattern.Bracket

/-!
Lexemes of a pattern. Flags take effect while the lexemes are read, so that a lexeme carries what it matches and
is free of flags.
-/

namespace Highlighter.Pattern

open Unicode

inductive Lexeme where
  /-- One character of a class; a bracketed class has a depth. -/
  | char (members : CharClass) (depth : Nat)
  | assertion (assertion : Assertion)
  /-- A change of flags, which matches the empty text but cannot be repeated. -/
  | flagChange
  | bar
  /-- The beginning of a group that captures nothing. -/
  | openGroup
  /-- The beginning of a group that captures what it matches, under a name if it has one. -/
  | openCapture (name : Option String)
  | closeGroup
  | repetition (least : Nat) (most : Option Nat) (greedy : Bool)

namespace Lexeme

def countLimit : Nat := 0xFFFFFFFF

def readCount (flags : Flags) (text : List Char) : Option (Nat × List Char) :=
  let (digits, rest) := flags.span Char.isDigit false (text.dropWhile CharClass.space.contains)
  ((Text.number? 10 digits).filter (· ≤ countLimit)).map fun count =>
    (count, flags.skip (rest.dropWhile CharClass.space.contains))

def readGreed (flags : Flags) : List Char → Bool × List Char
  | '?' :: rest => (flags.swapGreed, rest)
  | rest => (!flags.swapGreed, rest)

def readBounds (flags : Flags) (text : List Char) : Option (Nat × Option Nat × List Char) :=
  (readCount flags (flags.skip text)).bind fun (least, rest) =>
    match rest with
    | '\x7d' :: rest => some (least, some least, rest)
    | ',' :: rest =>
      match flags.skip rest with
      | '\x7d' :: rest => some (least, none, rest)
      | rest => (readCount flags rest).bind fun (most, rest) =>
        match rest with
        | '\x7d' :: rest => if least ≤ most then some (least, some most, rest) else none
        | _ => none
    | _ => none

def nameStart : CharClass := .union (.single '_') (.table Table.alphabetic)

def nameRest : CharClass :=
  .union nameStart (.union (.ofTables [Table.decimalNumber, Table.letterNumber, Table.otherNumber])
    (.table [(0x2E, 0x2E), (0x5B, 0x5B), (0x5D, 0x5D)]))

def readName (text : List Char) : Option (String × List Char) :=
  match text.span (· ≠ '>') with
  | (first :: more, _ :: rest) =>
    if nameStart.contains first && more.all nameRest.contains then some (.ofList (first :: more), rest) else none
  | _ => none

/-- What an opening parenthesis begins: a lexeme, the flags behind it, and whether it begins a group. -/
structure Opening where
  lexeme : Lexeme
  flags : Flags
  nested : Bool
  rest : List Char

/-- Reads what follows an opening parenthesis. There are no conditions on what stands before or behind. -/
def readOpening (flags : Flags) (text : List Char) : Option Opening :=
  match flags.skip text with
  | '?' :: 'P' :: '<' :: rest => named rest
  | '?' :: '<' :: '=' :: _ => none
  | '?' :: '<' :: '!' :: _ => none
  | '?' :: '<' :: rest => named rest
  | '?' :: rest =>
    (flags.change? [] true false rest).bind fun (changed, behind) =>
      match behind with
      | ':' :: behind => some ⟨openGroup, changed, true, behind⟩
      | ')' :: behind => if behind.length + 1 = rest.length then none else some ⟨flagChange, changed, false, behind⟩
      | _ => none
  | rest => some ⟨openCapture none, flags, true, rest⟩
where
  named (rest : List Char) : Option Opening :=
    (readName rest).map fun (name, rest) => ⟨openCapture (some name), flags, true, rest⟩

def ofEscape? (flags : Flags) : Escape → Option Lexeme
  | .literal value byte =>
    if !flags.unicode && byte && value.toNat ≥ 128 then none else some (char (flags.leaf (flags.literal value)) 0)
  | .members members => some (char (flags.leaf members) 0)
  | .assertion condition => some (assertion condition)

def caret (flags : Flags) : Assertion :=
  if flags.multiLine then if flags.carriageReturn then .breakStart else .lineStart else .textStart

def dollar (flags : Flags) : Assertion :=
  if flags.multiLine then if flags.carriageReturn then .breakEnd else .lineEnd else .textEnd

/-- The lexemes of a text, under flags that hold to the end of the group; `outer` holds the flags of the groups
around it. Every round reads one character at least, so as many rounds as there are characters are enough. -/
def readAll : Nat → Flags → List Flags → List Char → Option (List Lexeme)
  | fuel, flags, outer, text =>
    match flags.skip text with
    | [] => some []
    | first :: rest =>
      match fuel with
      | 0 => none
      | fuel + 1 =>
        let emit (lexeme : Lexeme) (rest : List Char) := (readAll fuel flags outer rest).map (lexeme :: ·)
        let repeated (least : Nat) (most : Option Nat) (rest : List Char) :=
          let (greedy, rest) := readGreed flags rest
          emit (repetition least most greedy) rest
        match first with
        | '(' => (readOpening flags rest).bind fun opening =>
          let outer := if opening.nested then flags :: outer else outer
          (readAll fuel opening.flags outer opening.rest).map (opening.lexeme :: ·)
        | ')' => (readAll fuel (outer.headD flags) outer.tail rest).map (closeGroup :: ·)
        | '|' => emit bar rest
        | '[' => (Bracket.read? flags rest).bind fun (members, depth, rest) =>
          emit (char (flags.leaf members) depth) rest
        | '?' => repeated 0 (some 1) rest
        | '*' => repeated 0 none rest
        | '+' => repeated 1 none rest
        | '\x7b' => (readBounds flags rest).bind fun (least, most, rest) => repeated least most (flags.skip rest)
        | '\\' => (Escape.read? flags rest).bind fun (escape, rest) =>
          (ofEscape? flags escape).bind fun lexeme => emit lexeme rest
        | '.' => flags.dot?.bind fun members => emit (char members 0) rest
        | '^' => emit (assertion (caret flags)) rest
        | '$' => emit (assertion (dollar flags)) rest
        | value => emit (char (flags.leaf (flags.literal value)) 0) rest

def ofText? (text : String) : Option (List Lexeme) :=
  readAll text.length {} [] text.toList

def groupName? : Lexeme → Option String
  | openCapture name => name
  | _ => none

end Lexeme

end Highlighter.Pattern
