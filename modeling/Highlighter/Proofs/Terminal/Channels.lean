import Highlighter.Proofs.Span.ByteMarks
import Highlighter.Proofs.Text.Digits
import Highlighter.Terminal.ColorBytes

/-!
Colors by their channels. Behind a number sign the text of three channels is cut at characters only, and two
hexadecimal digits are a channel; but so is a plus sign with one digit behind it.
-/

namespace Highlighter.TerminalColor

open Text (IsHexDigit)

def IsPair (digits : List Char) (value : Nat) : Prop :=
  ∃ first second high low, digits = [first, second] ∧ IsHexDigit first high ∧ IsHexDigit second low ∧
    value = high * 16 + low

/-- What is read as a channel: two digits, or one behind a plus sign. -/
def IsChannel (digits : List Char) (value : Nat) : Prop :=
  IsPair digits value ∨ ∃ digit, digits = ['+', digit] ∧ IsHexDigit digit value

def Writes (isChannel : List Char → Nat → Prop) (text : List Char) (color : TerminalColor) : Prop :=
  ∃ red green blue r g b, text = red ++ green ++ blue ∧ isChannel red r ∧ isChannel green g ∧ isChannel blue b ∧
    color = rgb r g b

theorem not_isHexDigit_plus (value : Nat) : ¬ IsHexDigit '+' value := by
  intro digit
  have found := digit.hexValue?_eq
  cases found

section Channels

variable {digits : List Char} {value : Nat}

theorem IsPair.lt (pair : IsPair digits value) : value ≤ channelLimit := by
  obtain ⟨first, second, high, low, -, isHigh, isLow, rfl⟩ := pair
  have highBound := isHigh.lt
  have lowBound := isLow.lt
  unfold channelLimit
  omega

theorem channel?_pair {first second : Char} (noPlus : first ≠ '+') :
    channel? [first, second] = some value ↔ IsPair [first, second] value := by
  unfold channel?
  rw [Text.unsigned?_of_head (by simpa using noPlus), Option.filter_eq_some_iff, Text.number?_pair]
  simp only [Text.digitValue?_sixteen]
  constructor
  · rintro ⟨⟨high, low, isHigh, isLow, same⟩, -⟩
    exact ⟨first, second, high, low, rfl, isHigh, isLow, same⟩
  · intro pair
    have bound := pair.lt
    obtain ⟨_, _, high, low, ⟨⟩, isHigh, isLow, same⟩ := pair
    exact ⟨⟨high, low, isHigh, isLow, same⟩, decide_eq_true bound⟩

theorem channel?_plus {digit : Char} : channel? ['+', digit] = some value ↔ IsHexDigit digit value := by
  change (Text.number? 16 [digit]).filter (· ≤ channelLimit) = some value ↔ _
  rw [Option.filter_eq_some_iff, Text.number?_single, Text.digitValue?_sixteen]
  constructor
  · exact And.left
  · intro isDigit
    have bound := isDigit.lt
    have small : value ≤ channelLimit := by
      unfold channelLimit
      omega
    exact ⟨isDigit, decide_eq_true small⟩

theorem channel?_eq_some_iff {first second : Char} :
    channel? [first, second] = some value ↔ IsChannel [first, second] value := by
  by_cases plus : first = '+'
  · subst plus
    rw [channel?_plus]
    constructor
    · intro isDigit
      exact .inr ⟨second, rfl, isDigit⟩
    · rintro (⟨_, _, high, low, ⟨⟩, isHigh, -⟩ | ⟨_, ⟨⟩, isDigit⟩)
      · exact absurd isHigh (not_isHexDigit_plus high)
      · exact isDigit
  · rw [channel?_pair plus]
    constructor
    · exact .inl
    · rintro (pair | ⟨_, ⟨⟩, -⟩)
      · exact pair
      · exact absurd rfl plus

theorem IsChannel.exists_eq (channel : IsChannel digits value) : ∃ first second, digits = [first, second] := by
  rcases channel with ⟨first, second, -, -, same, -⟩ | ⟨digit, same, -⟩
  · exact ⟨first, second, same⟩
  · exact ⟨'+', digit, same⟩

theorem isPair_iff : IsPair digits value ↔ IsChannel digits value ∧ '+' ∉ digits := by
  constructor
  · intro pair
    refine ⟨.inl pair, ?_⟩
    obtain ⟨first, second, high, low, rfl, isHigh, isLow, -⟩ := pair
    intro member
    simp only [List.mem_cons, List.not_mem_nil, or_false] at member
    rcases member with rfl | rfl
    · exact not_isHexDigit_plus high isHigh
    · exact not_isHexDigit_plus low isLow
  · rintro ⟨pair | ⟨digit, rfl, -⟩, unsigned⟩
    · exact pair
    · exact absurd List.mem_cons_self unsigned

end Channels

section Colors

variable {chars : List Char} {color : TerminalColor}

theorem ofChannels?_eq_some_iff : ofChannels? chars = some color ↔ Writes IsChannel chars color := by
  constructor
  · intro found
    unfold ofChannels? at found
    split at found
    next red1 red2 green1 green2 blue1 blue2 =>
      split at found
      next r g b red green blue =>
        cases found
        exact ⟨[red1, red2], [green1, green2], [blue1, blue2], r, g, b, rfl, channel?_eq_some_iff.mp red,
          channel?_eq_some_iff.mp green, channel?_eq_some_iff.mp blue, rfl⟩
      next => cases found
    next => cases found
  · rintro ⟨red, green, blue, r, g, b, rfl, isRed, isGreen, isBlue, rfl⟩
    obtain ⟨red1, red2, rfl⟩ := isRed.exists_eq
    obtain ⟨green1, green2, rfl⟩ := isGreen.exists_eq
    obtain ⟨blue1, blue2, rfl⟩ := isBlue.exists_eq
    rw [← channel?_eq_some_iff] at isRed isGreen isBlue
    simp only [List.cons_append, List.nil_append, ofChannels?, isRed, isGreen, isBlue]

theorem writes_isPair_iff : Writes IsPair chars color ↔ Writes IsChannel chars color ∧ '+' ∉ chars := by
  unfold Writes
  simp only [isPair_iff]
  constructor
  · rintro ⟨red, green, blue, r, g, b, rfl, isRed, isGreen, isBlue, same⟩
    refine ⟨⟨red, green, blue, r, g, b, rfl, isRed.1, isGreen.1, isBlue.1, same⟩, ?_⟩
    simp only [List.mem_append, not_or]
    exact ⟨⟨isRed.2, isGreen.2⟩, isBlue.2⟩
  · rintro ⟨⟨red, green, blue, r, g, b, rfl, isRed, isGreen, isBlue, same⟩, unsigned⟩
    simp only [List.mem_append, not_or] at unsigned
    exact ⟨red, green, blue, r, g, b, rfl, ⟨isRed, unsigned.1.1⟩, ⟨isGreen, unsigned.1.2⟩, ⟨isBlue, unsigned.2⟩, same⟩

theorem ofId?_sign (text : String) : ofId? ("#" ++ text) = ofChannels? text.toList := by
  unfold ofId?
  rw [String.toList_append]
  rfl

end Colors

section Bytes

theorem IsChannel.single {digits : List Char} {value : Nat} (channel : IsChannel digits value) :
    ∀ char ∈ digits, char.toNat < 128 := by
  rcases channel with ⟨first, second, high, low, rfl, isHigh, isLow, -⟩ | ⟨digit, rfl, isDigit⟩
  · simpa using ⟨isHigh.toNat_lt, isLow.toNat_lt⟩
  · simpa using isDigit.toNat_lt

theorem IsChannel.length_eq {digits : List Char} {value : Nat} (channel : IsChannel digits value) :
    digits.length = 2 := by
  obtain ⟨first, second, rfl⟩ := channel.exists_eq
  rfl

theorem Writes.utf8Length_eq {chars : List Char} {color : TerminalColor} (writes : Writes IsChannel chars color) :
    utf8Length chars = 6 ∧ ∀ char ∈ chars, char.toNat < 128 := by
  obtain ⟨red, green, blue, r, g, b, rfl, isRed, isGreen, isBlue, -⟩ := writes
  have single : ∀ char ∈ red ++ green ++ blue, char.toNat < 128 := by
    simp only [List.mem_append]
    rintro char ((inRed | inGreen) | inBlue)
    · exact isRed.single char inRed
    · exact isGreen.single char inGreen
    · exact isBlue.single char inBlue
  refine ⟨?_, single⟩
  rw [utf8Length_of_single single, List.length_append, List.length_append, isRed.length_eq, isGreen.length_eq,
    isBlue.length_eq]

variable {text : String}

theorem channelAt?_eq (single : ∀ char ∈ text.toList, char.toNat < 128) {start : Nat}
    (inside : start + 2 ≤ text.toList.length) :
    channelAt? text start = some (channel? ((text.toList.take (start + 2)).drop start)) := by
  have place {count : Nat} (within : count ≤ text.toList.length) : utf8Length (text.toList.take count) = count := by
    rw [utf8Length_of_single fun char member => single char (List.mem_of_mem_take member), List.length_take]
    omega
  have cut := ByteMarks.slice?_take text (Nat.le_add_right start 2)
  rw [place (by omega), place inside] at cut
  rw [channelAt?, cut, Option.map_some, String.toList_ofList]

theorem exists_of_length_eq_six : ∀ chars : List Char, chars.length = 6 →
    ∃ red1 red2 green1 green2 blue1 blue2, chars = [red1, red2, green1, green2, blue1, blue2]
  | [red1, red2, green1, green2, blue1, blue2], _ => ⟨red1, red2, green1, green2, blue1, blue2, rfl⟩

/-- No text is cut where it has no characters of its own. -/
theorem ofBytes?_eq (text : String) : ofBytes? text = some (ofChannels? text.toList) := by
  unfold ofBytes?
  split_ifs with refused
  · rw [Option.some.injEq, eq_comm, Option.eq_none_iff_forall_ne_some]
    intro color found
    obtain ⟨size, single⟩ := (ofChannels?_eq_some_iff.mp found).utf8Length_eq
    rw [utf8Length_toList] at size
    simp only [List.any_eq_true, decide_eq_true_eq] at refused
    rcases refused with other | ⟨char, member, long⟩
    · exact other size
    · have short := single char member
      omega
  · simp only [List.any_eq_true, decide_eq_true_eq] at refused
    push Not at refused
    obtain ⟨size, single⟩ := refused
    rw [← utf8Length_toList, utf8Length_of_single single] at size
    rw [channelAt?_eq single (by omega), channelAt?_eq single (by omega), channelAt?_eq single (by omega)]
    obtain ⟨red1, red2, green1, green2, blue1, blue2, chars⟩ := exists_of_length_eq_six _ size
    rw [chars]
    simp only [List.take, List.drop, ofChannels?]
    cases channel? [red1, red2] <;> cases channel? [green1, green2] <;> cases channel? [blue1, blue2] <;> rfl

end Bytes

/-- Behind a number sign, six hexadecimal digits are the color of the three channels that they write, and no other
text is one. -/
def ReadsDigits (text : String) : Prop := ∀ color, ofId? ("#" ++ text) = some color ↔ Writes IsPair text.toList color

/-- A text is cut at characters only, and is a color if it writes three channels. These are pairs of digits unless one
of them begins with a plus sign. -/
theorem readsDigits_iff_unsigned (text : String) :
    ofBytes? text = some (ofId? ("#" ++ text)) ∧
      (∀ color, ofId? ("#" ++ text) = some color ↔ Writes IsChannel text.toList color) ∧
      (ReadsDigits text ↔ ¬ ('+' ∈ text.toList ∧ ∃ color, Writes IsChannel text.toList color)) := by
  have reads (color : TerminalColor) : ofId? ("#" ++ text) = some color ↔ Writes IsChannel text.toList color := by
    rw [ofId?_sign, ofChannels?_eq_some_iff]
  refine ⟨by rw [ofBytes?_eq, ofId?_sign], reads, ?_⟩
  unfold ReadsDigits
  simp only [reads, writes_isPair_iff]
  constructor
  · rintro same ⟨plus, color, writes⟩
    exact ((same color).mp writes).2 plus
  · intro unsigned color
    refine ⟨fun writes => ⟨writes, fun plus => unsigned ⟨plus, color, writes⟩⟩, And.left⟩

/-- Three plus signs with a digit behind each are a color. -/
theorem exists_signed_channels : ¬ ∀ text, ReadsDigits text := by
  intro digits
  have writes : Writes IsPair "+f+f+f".toList (rgb 15 15 15) := (digits "+f+f+f" (rgb 15 15 15)).mp (by decide +kernel)
  exact (writes_isPair_iff.mp writes).2 (by decide)

end Highlighter.TerminalColor
