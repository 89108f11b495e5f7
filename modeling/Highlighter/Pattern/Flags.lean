import Highlighter.Unicode.CharClass

/-! Flags, which say how the parts of a pattern behind them are read. -/

namespace Highlighter.Pattern

open Unicode

structure Flags where
  /-- Letters match in either case. -/
  caseless : Bool := false
  /-- `^` and `$` match at line breaks too. -/
  multiLine : Bool := false
  /-- `.` matches line breaks too. -/
  dotAll : Bool := false
  /-- Repetitions are lazy unless they are marked with `?`. -/
  swapGreed : Bool := false
  /-- Classes have characters of all scripts. -/
  unicode : Bool := true
  /-- A carriage return breaks lines too. -/
  carriageReturn : Bool := false
  /-- Blanks and comments in the pattern do not count. -/
  ignoreBlanks : Bool := false
  deriving DecidableEq, Repr

namespace Flags

def set? (flags : Flags) (letter : Char) (value : Bool) : Option Flags :=
  match letter with
  | 'i' => some { flags with caseless := value }
  | 'm' => some { flags with multiLine := value }
  | 's' => some { flags with dotAll := value }
  | 'U' => some { flags with swapGreed := value }
  | 'u' => some { flags with unicode := value }
  | 'R' => some { flags with carriageReturn := value }
  | 'x' => some { flags with ignoreBlanks := value }
  | _ => none

/-- Reads flag letters up to a colon or a closing parenthesis, which stays unread. Letters behind a hyphen are
cleared; there is one hyphen at most, a letter follows it, and `seen` holds all that must not come again. -/
def change? : Flags → List Char → Bool → Bool → List Char → Option (Flags × List Char)
  | _, _, _, _, [] => none
  | flags, seen, value, dangling, char :: rest =>
    if char = ':' ∨ char = ')' then if dangling then none else some (flags, char :: rest)
    else if seen.contains char then none
    else if char = '-' then change? flags (char :: seen) false true rest
    else (flags.set? char value).bind fun flags => change? flags (char :: seen) value false rest

/-- Skips blanks and comments, each of which ends with its line; `inComment` is set inside a comment. -/
def skipBlanks (inComment : Bool) : List Char → List Char
  | [] => []
  | char :: rest =>
    if inComment then skipBlanks (char ≠ '\n') rest
    else if char = '#' then skipBlanks true rest
    else if CharClass.space.contains char then skipBlanks false rest
    else char :: rest

def skip (flags : Flags) (text : List Char) : List Char :=
  if flags.ignoreBlanks then skipBlanks false text else text

/-- The characters that count up to the first one outside `keep`, and the text from there. -/
def span (flags : Flags) (keep : Char → Bool) (inComment : Bool) : List Char → List Char × List Char
  | [] => ([], [])
  | char :: rest =>
    if inComment then span flags keep (char ≠ '\n') rest
    else if flags.ignoreBlanks && CharClass.space.contains char then span flags keep false rest
    else if flags.ignoreBlanks && char = '#' then span flags keep true rest
    else if keep char then
      let (kept, rest) := span flags keep false rest
      (char :: kept, rest)
    else ([], char :: rest)

def braced? (flags : Flags) (text : List Char) : Option (List Char × List Char) :=
  match flags.span (· ≠ '\x7d') false text with
  | (inside, _ :: rest) => some (inside, rest)
  | (_, []) => none

/-- Digits of every script under Unicode, else those of ASCII. -/
def digit (flags : Flags) : CharClass := if flags.unicode then .digit else .asciiDigit

def space (flags : Flags) : CharClass := if flags.unicode then .space else .asciiSpace

def word (flags : Flags) : CharClass := if flags.unicode then .word else .asciiWord

def foldCase (flags : Flags) (members : CharClass) : CharClass :=
  if flags.caseless then if flags.unicode then .caseless members else .asciiCaseless members else members

/-- The complement of a class. Without Unicode there is none, since it would take characters apart. -/
def negate? (flags : Flags) (negated : Bool) (members : CharClass) : Option CharClass :=
  if negated then if flags.unicode then some (.compl members) else none else some members

def leaf (flags : Flags) (members : CharClass) : CharClass := if flags.unicode then members else .bytes members

/-- What the dot matches. Without Unicode there is no dot. -/
def dot? (flags : Flags) : Option CharClass :=
  if !flags.unicode then none
  else if flags.dotAll then some (.table [(0, 0x10FFFF)])
  else if flags.carriageReturn then some (.compl (.table [(0x0A, 0x0A), (0x0D, 0x0D)]))
  else some (.compl (.single '\n'))

def literal (flags : Flags) (char : Char) : CharClass :=
  if !flags.caseless then .single char
  else if flags.unicode then .table ((caseVariants char.toNat).foldl (fun set code => set.insert code code) [])
  else if char.toNat < 128 then
    .table (CodeRanges.insert char.toNat char.toNat
      [(CharClass.otherAsciiCase char.toNat, CharClass.otherAsciiCase char.toNat)])
  else .single char

end Flags

end Highlighter.Pattern
