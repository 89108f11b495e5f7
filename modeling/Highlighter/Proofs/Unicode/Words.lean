import Highlighter.Proofs.Unicode.CodeRanges
import Highlighter.Unicode.CharClass

/-!
Word characters. They have no white space among them, no quote, bracket, separator or operator, and all letters from a
to z and all digits are among them. Tables are read line by line here, each line as the characters that it is made of.
-/

namespace Highlighter.Unicode

namespace CodeRanges

def isApart (ranges : CodeRanges) (range : Nat × Nat) : Bool :=
  ranges.all fun other => range.2 < other.1 || other.2 < range.1

theorem contains_eq_false_of_apart {ranges others : CodeRanges} (apart : ranges.all (isApart others) = true)
    {code : Nat} {other : Nat × Nat} (member : other ∈ others) (bounds : other.1 ≤ code ∧ code ≤ other.2) :
    ranges.contains code = false := by
  rw [← Bool.not_eq_true]
  intro shared
  obtain ⟨range, rangeMember, rangeBounds⟩ := exists_of_contains shared
  have missed := List.all_eq_true.mp (List.all_eq_true.mp apart range rangeMember) other member
  simp only [Bool.or_eq_true, decide_eq_true_eq] at missed
  omega

theorem ofLines_cons (letters : List Char) (lines : List String) :
    ofLines (.ofList letters :: lines) = readLine letters [] ++ ofLines lines := by
  simp only [ofLines, List.flatMap_cons, String.toList_ofList]

theorem all_ofLines_cons {condition : Nat × Nat → Bool} (letters : List Char) {lines : List String}
    (first : (readLine letters []).all condition = true) (rest : (ofLines lines).all condition = true) :
    (ofLines (.ofList letters :: lines)).all condition = true := by
  rw [ofLines_cons, List.all_append, first, rest]
  rfl

end CodeRanges

namespace CharClass

theorem contains_unions (classes : List CharClass) (char : Char) :
    (unions classes).contains char = classes.any (·.contains char) := by
  induction classes with
  | nil => rfl
  | cons first rest ih =>
    cases rest with
    | nil => simp [unions]
    | cons second rest => exact congrArg (first.contains char || ·) ih

theorem contains_single (letter other : Char) : (single letter).contains other = true ↔ other = letter := by
  rw [← Char.toNat_inj]
  simp only [single, range, contains, containsCode, CodeRanges.contains]
  grind

def wordTables : List CodeRanges :=
  [Table.decimalNumber, Table.alphabetic, Table.nonspacingMark, Table.spacingMark, Table.enclosingMark,
    Table.connectorPunctuation, Table.joinControl]

theorem contains_word (char : Char) : word.contains char = wordTables.any (·.contains char.toNat) := by
  rw [show word = unions (wordTables.map table) from rfl, contains_unions, List.any_map]
  rfl

theorem word_of_digit {char : Char} (inside : digit.contains char = true) : word.contains char = true := by
  rw [contains_word]
  exact List.any_eq_true.mpr ⟨Table.decimalNumber, List.mem_cons_self .., inside⟩

/-- White space, and in front of it in the code all characters other than letters, digits and the low line. -/
def betweenWords : CodeRanges :=
  [(0x0, 0x2F), (0x3A, 0x40), (0x5B, 0x5E), (0x60, 0x60), (0x7B, 0xA0), (0x1680, 0x1680), (0x2000, 0x200A),
    (0x2028, 0x2029), (0x202F, 0x202F), (0x205F, 0x205F), (0x3000, 0x3000)]

theorem apart_of_mem_wordTables : ∀ ranges ∈ wordTables, ranges.all (CodeRanges.isApart betweenWords) = true := by
  simp only [wordTables, List.forall_mem_cons]
  refine ⟨?_, ?_, ?_, ?_, ?_, ?_, ?_, fun _ member => nomatch member⟩ <;>
    (repeat' refine CodeRanges.all_ofLines_cons _ (by decide +kernel) ?_) <;> rfl

theorem not_word_of_within {ranges : CodeRanges}
    (within : ∀ range ∈ ranges, ∃ other ∈ betweenWords, other.1 ≤ range.1 ∧ range.2 ≤ other.2) {char : Char}
    (inside : ranges.contains char.toNat = true) : word.contains char = false := by
  obtain ⟨range, member, bounds⟩ := CodeRanges.exists_of_contains inside
  obtain ⟨other, otherMember, wider⟩ := within range member
  rw [contains_word, List.any_eq_false]
  intro table tableMember
  rw [Bool.not_eq_true]
  exact CodeRanges.contains_eq_false_of_apart (apart_of_mem_wordTables table tableMember) otherMember (by omega)

theorem not_word_of_between {char : Char} (between : betweenWords.contains char.toNat = true) :
    word.contains char = false :=
  not_word_of_within (fun range member => ⟨range, member, Nat.le_refl _, Nat.le_refl _⟩) between

theorem whiteSpace_eq : Table.whiteSpace =
    [(0x9, 0xD), (0x20, 0x20), (0x85, 0x85), (0xA0, 0xA0), (0x1680, 0x1680), (0x2000, 0x200A), (0x2028, 0x2029),
      (0x202F, 0x202F), (0x205F, 0x205F), (0x3000, 0x3000)] := by
  refine (CodeRanges.ofLines_cons _ _).trans ?_
  decide +kernel

theorem not_word_of_space {char : Char} (inside : space.contains char = true) : word.contains char = false := by
  refine not_word_of_within ?_ inside
  rw [whiteSpace_eq]
  decide

theorem not_space_of_bracket : space.contains '(' = false := by
  simp only [contains, space, containsCode, whiteSpace_eq]
  decide

theorem word_of_letter {char : Char} (letter : char.isAlpha = true) : word.contains char = true := by
  obtain ⟨rest, alphabetic⟩ : ∃ rest, Table.alphabetic = (0x41, 0x5A) :: (0x61, 0x7A) :: rest :=
    ⟨_, CodeRanges.ofLines_cons _ _⟩
  rw [contains_word]
  refine List.any_eq_true.mpr ⟨Table.alphabetic, by simp [wordTables], ?_⟩
  rw [alphabetic]
  rcases Bool.or_eq_true _ _ |>.mp letter with upper | lower
  · have decided := of_decide_eq_true upper
    have bounds : 0x41 ≤ char.toNat ∧ char.toNat ≤ 0x5A := decided
    rw [CodeRanges.contains, if_neg (by omega), if_pos bounds.2]
  · have decided := Bool.and_eq_true _ _ |>.mp lower
    have bounds : 0x61 ≤ char.toNat ∧ char.toNat ≤ 0x7A := decided.imp of_decide_eq_true of_decide_eq_true
    rw [CodeRanges.contains, if_neg (by omega), if_neg (by omega), CodeRanges.contains, if_neg (by omega),
      if_pos bounds.2]

end CharClass

end Highlighter.Unicode
