import Highlighter.Text.Digits
import Mathlib.Data.Nat.Basic
import Mathlib.Tactic.IntervalCases
import Mathlib.Tactic.SplitIfs

/-! Digits and numbers: a number that is written out is read again, to each base up to sixteen. Hexadecimal digits are
small or capital. -/

namespace Highlighter.Text

variable {base : Nat}

theorem hexValue?_digitChar {digit : Nat} (small : digit < 16) : hexValue? digit.digitChar = some digit := by
  interval_cases digit <;> decide

theorem digitValue?_digitChar {digit : Nat} (small : digit < base) (limit : base ≤ 16) :
    digitValue? base digit.digitChar = some digit := by
  rw [digitValue?, hexValue?_digitChar (by omega)]
  simpa using small

theorem number?_concat {digits : List Char} {value digit : Nat} (read : number? base digits = some value)
    (small : digit < base) (limit : base ≤ 16) :
    number? base (digits ++ [digit.digitChar]) = some (value * base + digit) := by
  have written : digits.isEmpty = false := by
    by_contra empty
    rw [number?, if_pos (by simpa using empty)] at read
    cases read
  have front : digits.foldlM (fun value digit => (digitValue? base digit).map (value * base + ·)) 0 = some value := by
    simpa only [number?, written, Bool.false_eq_true, ↓reduceIte] using read
  rw [number?, if_neg (by simp), List.foldlM_append, front]
  simp [digitValue?_digitChar small limit]

theorem number?_toDigits (two : 1 < base) (limit : base ≤ 16) (value : Nat) :
    number? base (base.toDigits value) = some value := by
  induction value using Nat.strongRecOn with
  | _ value ih =>
    rw [Nat.toDigits_eq_if two]
    split
    next small => simp [number?, digitValue?_digitChar small limit]
    next large =>
      have less : value / base < value := Nat.div_lt_self (by omega) two
      rw [number?_concat (ih _ less) (Nat.mod_lt _ (by omega)) limit, Nat.div_add_mod']

theorem number?_toString (value : Nat) : number? 10 (toString value).toList = some value := by
  rw [Nat.toString_eq_ofList_toDigits, String.toList_ofList]
  exact number?_toDigits (by decide) (by decide) value

theorem exists_digitValue?_of_mem_toDigits (two : 1 < base) (limit : base ≤ 16) {value : Nat} {char : Char}
    (member : char ∈ base.toDigits value) : ∃ digit, digitValue? base char = some digit := by
  induction value using Nat.strongRecOn with
  | _ value ih =>
    rw [Nat.toDigits_eq_if two] at member
    split at member
    next small =>
      rw [List.mem_singleton.mp member]
      exact ⟨value, digitValue?_digitChar small limit⟩
    next large =>
      rcases List.mem_append.mp member with front | last
      · exact ih _ (Nat.div_lt_self (by omega) two) front
      · rw [List.mem_singleton.mp last]
        exact ⟨value % base, digitValue?_digitChar (Nat.mod_lt _ (by omega)) limit⟩

theorem not_mem_toDigits (two : 1 < base) (limit : base ≤ 16) {char : Char} (other : digitValue? base char = none)
    (value : Nat) : char ∉ base.toDigits value := by
  intro member
  obtain ⟨digit, found⟩ := exists_digitValue?_of_mem_toDigits two limit member
  rw [other] at found
  cases found

theorem not_mem_toString {char : Char} (other : digitValue? 10 char = none) (value : Nat) :
    char ∉ (toString value).toList := by
  rw [Nat.toString_eq_ofList_toDigits, String.toList_ofList]
  exact not_mem_toDigits (by decide) (by decide) other value

def IsHexDigit (char : Char) (value : Nat) : Prop :=
  "0123456789abcdef".toList[value]? = some char ∨ "0123456789ABCDEF".toList[value]? = some char

instance (char : Char) (value : Nat) : Decidable (IsHexDigit char value) := inferInstanceAs (Decidable (_ ∨ _))

section HexDigits

variable {char : Char} {value : Nat}

theorem IsHexDigit.lt (digit : IsHexDigit char value) : value < 16 := by
  rcases digit with small | capital
  · exact (List.getElem?_eq_some_iff.mp small).1
  · exact (List.getElem?_eq_some_iff.mp capital).1

theorem IsHexDigit.hexValue?_eq (digit : IsHexDigit char value) : hexValue? char = some value := by
  have bound := digit.lt
  rcases digit with small | capital
  · interval_cases value <;> cases small <;> decide
  · interval_cases value <;> cases capital <;> decide

theorem IsHexDigit.toNat_lt (digit : IsHexDigit char value) : char.toNat < 128 := by
  have bound := digit.lt
  rcases digit with small | capital
  · interval_cases value <;> cases small <;> decide
  · interval_cases value <;> cases capital <;> decide

theorem isHexDigit_of_hexValue? (found : hexValue? char = some value) : IsHexDigit char value := by
  unfold hexValue? at found
  simp only [Char.le_def, UInt32.le_iff_toNat_le, Char.toNat_val] at found
  rw [← Char.ofNat_toNat char]
  generalize char.toNat = code at found ⊢
  split_ifs at found with decimal small capital <;> cases found
  · obtain ⟨first, last⟩ : 48 ≤ code ∧ code ≤ 57 := decimal
    interval_cases code <;> decide
  · obtain ⟨first, last⟩ : 97 ≤ code ∧ code ≤ 102 := small
    interval_cases code <;> decide
  · obtain ⟨first, last⟩ : 65 ≤ code ∧ code ≤ 70 := capital
    interval_cases code <;> decide

theorem digitValue?_sixteen : digitValue? 16 char = some value ↔ IsHexDigit char value := by
  rw [digitValue?, Option.filter_eq_some_iff]
  constructor
  · rintro ⟨found, -⟩
    exact isHexDigit_of_hexValue? found
  · intro digit
    exact ⟨digit.hexValue?_eq, decide_eq_true digit.lt⟩

end HexDigits

theorem number?_single (base : Nat) (digit : Char) : number? base [digit] = digitValue? base digit := by
  simp [number?]

theorem number?_pair (base : Nat) (first second : Char) (value : Nat) :
    number? base [first, second] = some value ↔ ∃ high low, digitValue? base first = some high ∧
      digitValue? base second = some low ∧ value = high * base + low := by
  simp only [number?, List.isEmpty_cons, Bool.false_eq_true, ↓reduceIte, List.foldlM_cons, List.foldlM_nil,
    Nat.zero_mul, Nat.zero_add, Option.bind_eq_bind, Option.pure_def, Option.bind_eq_some_iff, Option.map_eq_some_iff]
  constructor
  · rintro ⟨_, ⟨high, isHigh, rfl⟩, _, ⟨low, isLow, rfl⟩, ⟨⟩⟩
    exact ⟨high, low, isHigh, isLow, rfl⟩
  · rintro ⟨high, low, isHigh, isLow, rfl⟩
    exact ⟨high, ⟨high, isHigh, rfl⟩, _, ⟨low, isLow, rfl⟩, rfl⟩

theorem unsigned?_of_head {text : List Char} (noPlus : text.head? ≠ some '+') (base limit : Nat) :
    unsigned? base limit text = (number? base text).filter (· ≤ limit) := by
  unfold unsigned?
  split
  next => exact absurd rfl noPlus
  next => rfl

theorem unsigned?_toString (limit value : Nat) :
    unsigned? 10 limit (toString value).toList = if value ≤ limit then some value else none := by
  have noPlus : (toString value).toList.head? ≠ some '+' := fun head =>
    not_mem_toString (by decide) value (List.mem_of_head? head)
  rw [unsigned?_of_head noPlus, number?_toString, Option.filter_some]
  simp only [decide_eq_true_eq]

theorem charOf?_toNat (char : Char) : charOf? char.toNat = some char := by
  unfold charOf?
  exact (if_pos char.valid).trans (by rw [Char.ofNat_toNat])

end Highlighter.Text
