import Highlighter.Text.Digits
import Highlighter.Toml.Value

/-! Numbers, truth values, dates and times of TOML, each of which is written as one bare word. -/

namespace Highlighter.Toml.Scalar

def isBare (char : Char) : Bool :=
  char.isAlphanum || char = '_' || char = '+' || char = '-' || char = '.' || char = ':'

/-- Digits, one at least, in which each low line stands between two of them. The flag tells that a digit stands in
front. -/
def isDigits (base : Nat) (behindDigit : Bool) : List Char → Bool
  | [] => behindDigit
  | char :: rest =>
    if char = '_' then behindDigit && isDigits base false rest
    else (Text.digitValue? base char).isSome && isDigits base true rest

def number (base : Nat) (digits : List Char) : Nat :=
  (Text.number? base (digits.filter (· ≠ '_'))).getD 0

def splitSign : List Char → Bool × List Char
  | '+' :: rest => (false, rest)
  | '-' :: rest => (true, rest)
  | rest => (false, rest)

def isDecimal (digits : List Char) : Bool :=
  isDigits 10 false digits && (digits.head? ≠ some '0' || digits.length = 1)

def bounded? (value : Int) : Option Value :=
  if -0x8000000000000000 ≤ value ∧ value < 0x8000000000000000 then some (.integer value) else none

/-- An integer: decimal with or without a sign, or hexadecimal, octal or binary behind a mark. -/
def integer? (word : List Char) : Option Value :=
  match word with
  | '0' :: 'x' :: digits => if isDigits 16 false digits then bounded? (number 16 digits) else none
  | '0' :: 'o' :: digits => if isDigits 8 false digits then bounded? (number 8 digits) else none
  | '0' :: 'b' :: digits => if isDigits 2 false digits then bounded? (number 2 digits) else none
  | _ =>
    let (negative, digits) := splitSign word
    if isDecimal digits then
      bounded? (if negative then -(number 10 digits : Int) else (number 10 digits : Int))
    else none

def divideAt (condition : Char → Bool) (word : List Char) : List Char × Option (List Char) :=
  match word.span (!condition ·) with
  | (before, []) => (before, none)
  | (before, _ :: rest) => (before, some rest)

/-- The value of digits times a power of ten is no finite float, for it is rounded to the power 1024 of two or
more. -/
def overflows (digits : List Char) (exponent : Int) : Bool :=
  let value := number 10 digits
  let bound := Nat.pow 2 1024 - Nat.pow 2 970
  if value = 0 then false
  else
    let magnitude := (Nat.toDigits 10 value).length + exponent
    if magnitude > 310 then true
    else if magnitude < 300 then false
    else if 0 ≤ exponent then bound ≤ value * Nat.pow 10 exponent.toNat
    else bound * Nat.pow 10 (-exponent).toNat ≤ value

/-- A float: a number with a fraction, an exponent or both, or the name of a value that is no number. A positive
number that is too large is none. -/
def float? (word : List Char) : Option Value :=
  let (negative, unsigned) := splitSign word
  if unsigned = ['i', 'n', 'f'] ∨ unsigned = ['n', 'a', 'n'] then some (.float (.ofList word))
  else
    let (mantissa, exponent) := divideAt (fun char => char = 'e' || char = 'E') unsigned
    let (whole, fraction) := divideAt (· = '.') mantissa
    let exponentDigits := exponent.map splitSign
    if exponent.isNone && fraction.isNone then none
    else if !isDecimal whole || !(fraction.all (isDigits 10 false))
      || !(exponentDigits.all fun (_, digits) => isDigits 10 false digits) then none
    else
      let fractionDigits := (fraction.getD []).filter (· ≠ '_')
      let power : Int := match exponentDigits with
        | none => 0
        | some (below, digits) => if below then -(number 10 digits : Int) else (number 10 digits : Int)
      if !negative && overflows (whole ++ fractionDigits) (power - fractionDigits.length) then none
      else some (.float (.ofList word))

def twoDigits? (first second : Char) : Option Nat :=
  Text.number? 10 [first, second]

def daysOf (year month : Nat) : Nat :=
  if month = 2 then if year % 4 = 0 ∧ (year % 100 ≠ 0 ∨ year % 400 = 0) then 29 else 28
  else if month = 4 ∨ month = 6 ∨ month = 9 ∨ month = 11 then 30
  else 31

def takeDate? : List Char → Option (List Char)
  | year1 :: year2 :: year3 :: year4 :: '-' :: month1 :: month2 :: '-' :: day1 :: day2 :: rest =>
    match twoDigits? year1 year2, twoDigits? year3 year4, twoDigits? month1 month2, twoDigits? day1 day2 with
    | some century, some year, some month, some day =>
      if 1 ≤ month ∧ month ≤ 12 ∧ 1 ≤ day ∧ day ≤ daysOf (century * 100 + year) month then some rest else none
    | _, _, _, _ => none
  | _ => none

def takeMinutes? (lastHour : Nat) : List Char → Option (List Char)
  | hour1 :: hour2 :: ':' :: minute1 :: minute2 :: rest =>
    match twoDigits? hour1 hour2, twoDigits? minute1 minute2 with
    | some hour, some minute => if hour ≤ lastHour ∧ minute ≤ 59 then some rest else none
    | _, _ => none
  | _ => none

/-- Takes a time from the front of a word. A minute may have a leap second, and seconds a fraction. -/
def takeTime? (lastHour : Nat) (word : List Char) : Option (List Char) :=
  (takeMinutes? lastHour word).bind fun rest =>
    match rest with
    | ':' :: second1 :: second2 :: rest =>
      (twoDigits? second1 second2).bind fun second =>
        if second > 60 then none
        else match rest with
          | '.' :: fraction =>
            if (fraction.head?.any Char.isDigit) then some (fraction.dropWhile Char.isDigit) else none
          | rest => some rest
    | _ => none

def isDistance : List Char → Bool
  | sign :: rest => (sign = '+' || sign = '-') && takeMinutes? 23 rest = some []
  | [] => false

/-- As `isDistance`, with any minutes and up to a whole day in all. -/
def isDistanceInText : List Char → Bool
  | [sign, hour1, hour2, ':', minute1, minute2] =>
    (sign = '+' || sign = '-') && match twoDigits? hour1 hour2, twoDigits? minute1 minute2 with
      | some hours, some minutes => 60 * hours + minutes ≤ 24 * 60
      | _, _ => false
  | _ => false

/-- A date, a time, or a date and a time with or without an offset, which is the distance from the universal time or
the sign for that time. -/
def isDateTime (lastHour : Nat) (isDistance : List Char → Bool) (word : List Char) : Bool :=
  let isOffset (rest : List Char) := rest = [] || rest = ['Z'] || rest = ['z'] || isDistance rest
  match takeDate? word with
  | some [] => true
  | some (mark :: rest) => (mark = 'T' || mark = 't' || mark = ' ') && (takeTime? lastHour rest).any isOffset
  | none => takeTime? lastHour word = some []

def dateTime? (word : List Char) : Option Value :=
  if isDateTime 23 isDistance word then some (.dateTime (.ofList word)) else none

/-- The text of a table that passes for a date or time. A day may have an hour more in it than elsewhere. -/
def isDateText (text : List Char) : Bool := isDateTime 24 isDistanceInText text

def ofWord? (word : List Char) : Option Value :=
  if word = ['t', 'r', 'u', 'e'] then some (.boolean true)
  else if word = ['f', 'a', 'l', 's', 'e'] then some (.boolean false)
  else integer? word <|> float? word <|> dateTime? word

/-- Reads a bare word; a blank between a date and a digit belongs to it. -/
def readWord (text : List Char) : List Char × List Char :=
  match text.span isBare with
  | (word, ' ' :: digit :: rest) =>
    if takeDate? word = some [] ∧ digit.isDigit then
      let (time, rest) := (digit :: rest).span isBare
      (word ++ ' ' :: time, rest)
    else (word, ' ' :: digit :: rest)
  | (word, rest) => (word, rest)

def read? (text : List Char) : Option (Value × List Char) :=
  let (word, rest) := readWord text
  (ofWord? word).map fun value => (value, rest)

end Highlighter.Toml.Scalar
