/-! Digits and the numbers that they write. -/

namespace Highlighter.Text

def hexValue? (char : Char) : Option Nat :=
  if '0' ≤ char ∧ char ≤ '9' then some (char.toNat - 48)
  else if 'a' ≤ char ∧ char ≤ 'f' then some (char.toNat - 87)
  else if 'A' ≤ char ∧ char ≤ 'F' then some (char.toNat - 55)
  else none

def digitValue? (base : Nat) (char : Char) : Option Nat := (hexValue? char).filter (· < base)

def number? (base : Nat) (digits : List Char) : Option Nat :=
  if digits.isEmpty then none
  else digits.foldlM (fun value digit => (digitValue? base digit).map (value * base + ·)) 0

/-- The number that digits write with or without a plus sign in front of them, if it is not past a limit. -/
def unsigned? (base limit : Nat) (text : List Char) : Option Nat :=
  let digits := match text with
    | '+' :: digits => digits
    | digits => digits
  (number? base digits).filter (· ≤ limit)

def charOf? (code : Nat) : Option Char := if code.isValidChar then some (Char.ofNat code) else none

end Highlighter.Text
