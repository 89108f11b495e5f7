import Highlighter.Proofs.Pattern.Run
import Highlighter.Proofs.Text.Runs

/-!
Words: runs of word characters that are as long as can be. A pattern that looks at whole words, and behind a word at no
character of another one, finds each word of a text that it asks for, since none of its matches reaches the next one.
-/

namespace Highlighter.Pattern

open Text Unicode

/-- A word of a text, with what stands before and after it. -/
structure IsWord (text before word after : List Char) : Prop where
  split : text = before ++ word ++ after
  nonempty : word ≠ []
  letters : ∀ letter ∈ word, CharClass.word.contains letter = true
  begins : isIn .word before.getLast? = false
  ends : isIn .word after.head? = false

def InsideWord (text : List Char) (place : Nat) : Prop :=
  isIn .word (text.take place).getLast? = true ∧ isIn .word text[place]? = true

theorem not_insideWord_of_next {text : List Char} {place : Nat} (next : isIn .word text[place]? = false) :
    ¬InsideWord text place := by
  rintro ⟨_, inside⟩
  rw [next] at inside
  cases inside

theorem not_insideWord_of_last {text : List Char} {last : Nat} (inside : last < text.length)
    (letter : isIn .word text[last]? = false) : ¬InsideWord text (last + 1) := by
  rintro ⟨before, _⟩
  rw [getLast?_take_succ inside, letter] at before
  cases before

namespace IsWord

variable {text before word after : List Char}

theorem of_leading {place : Nat} (leading : Leading .word (text.drop place) word after)
    (nonempty : word ≠ []) (begins : isIn .word (text.take place).getLast? = false) :
    IsWord text (text.take place) word after where
  split := by rw [List.append_assoc, ← leading.split, List.take_append_drop]
  nonempty := nonempty
  letters := leading.letters
  begins := begins
  ends := leading.ends

variable (isWord : IsWord text before word after)
include isWord

theorem isRun : IsRun (CharClass.word.contains · = true) text before word after where
  split := isWord.split
  nonempty := isWord.nonempty
  inside := isWord.letters
  begins := by
    intro letter last
    have begins := isWord.begins
    rw [Option.mem_def.mp last] at begins
    exact ne_true_of_eq_false begins
  ends := by
    intro letter next
    have ends := isWord.ends
    rw [Option.mem_def.mp next] at ends
    exact ne_true_of_eq_false ends

omit isWord in
def interval (isWord : IsWord text before word after) : Interval :=
  ⟨before.length, before.length + word.length, isWord.isRun.interval.start_lt_stop⟩

theorem splits : isWord.interval.Splits text before word after := isWord.isRun.splits

theorem take : text.take before.length = before := isWord.splits.take_start

theorem take_stop : text.take (before.length + word.length) = before ++ word := isWord.splits.take_stop

theorem length_le : before.length + word.length ≤ text.length := isWord.splits.stop_le

theorem leading : Leading .word (text.drop before.length) word after where
  split := by rw [isWord.split, List.append_assoc, List.drop_left]
  letters := isWord.letters
  ends := isWord.ends

theorem length_pos : 0 < word.length := List.length_pos_iff.mpr isWord.nonempty

theorem getElem? {place : Nat} (above : before.length ≤ place) (below : place < before.length + word.length) :
    isIn .word text[place]? = true := by
  obtain ⟨letter, known, inside⟩ := isWord.isRun.exists_getElem? above below
  rwa [known]

theorem insideWord {place : Nat} (above : before.length < place) (below : place < before.length + word.length) :
    InsideWord text place := by
  have bound := isWord.length_le
  obtain ⟨last, rfl⟩ : ∃ last, place = last + 1 := ⟨place - 1, by omega⟩
  rw [InsideWord, getLast?_take_succ (by omega)]
  exact ⟨isWord.getElem? (by omega) (by omega), isWord.getElem? (by omega) below⟩

theorem not_insideWord_start : ¬InsideWord text before.length := by
  rintro ⟨last, _⟩
  rw [isWord.take, isWord.begins] at last
  cases last

theorem not_insideWord_stop : ¬InsideWord text (before.length + word.length) := by
  rintro ⟨_, next⟩
  rw [isWord.split, List.getElem?_append_right (by simp), List.length_append, Nat.sub_self, ← List.head?_eq_getElem?,
    isWord.ends] at next
  cases next

theorem eq_of_overlaps {otherBefore otherWord otherAfter : List Char}
    (other : IsWord text otherBefore otherWord otherAfter) (overlap : isWord.interval.overlaps other.interval = true) :
    before = otherBefore ∧ word = otherWord ∧ after = otherAfter :=
  isWord.isRun.eq_of_overlaps other.isRun overlap

end IsWord

namespace Way

def edge : Way := .holding (.wordBoundary .word)

variable {inner : Sequel} {before : Option Char} {text word after : List Char}

theorem edge_apply : edge inner before text =
    if isIn .word before != isIn .word text.head? then inner before text else none := rfl

theorem edge_eq_some_iff (leading : Leading .word text word after) {asked : Outcome → Prop}
    (known : ∀ outcome, inner before text = some outcome ↔ word ≠ [] ∧ asked outcome) {outcome : Outcome} :
    edge inner before text = some outcome ↔ isIn .word before = false ∧ word ≠ [] ∧ asked outcome := by
  rw [← known, edge_apply]
  by_cases empty : word = []
  · have missed : inner before text ≠ some outcome := fun same => ((known outcome).mp same).1 empty
    simp [missed]
  · rw [leading.isIn_head.mpr empty]
    cases isIn .word before <;> simp

theorem edge_done (last : isIn .word before = true) :
    edge .done before text = if isIn .word text.head? then none else some {} := by
  rw [edge_apply, last]
  cases isIn .word text.head? <;> rfl

end Way

/-- An expression that matches at the beginning of a word alone. It is asked about the word and what comes after it,
and what it reads behind the word has no word characters. -/
structure FindsWords (expr : Expr) (asked : List Char → List Char → Prop) (result : List Char → List Char → Outcome) :
    Prop where
  way_eq_some_iff : ∀ {before text word after}, Leading .word text word after → ∀ {outcome},
    expr.way .done before text = some outcome ↔
      isIn .word before = false ∧ word ≠ [] ∧ asked word after ∧ outcome = result word after
  gap : ∀ {word after}, asked word after → ∃ gap rest, after = gap ++ rest ∧
    (∀ letter ∈ gap, CharClass.word.contains letter = false) ∧ (result word after).size = word.length + gap.length

namespace FindsWords

variable {expr : Expr} {asked : List Char → List Char → Prop} {result : List Char → List Char → Outcome}
  (finds : FindsWords expr asked result) {text : List Char}
include finds

theorem outcomeAt_eq_some_iff {place : Nat} (inside : place ≤ text.length) {outcome : Outcome} :
    expr.way.outcomeAt text place = some outcome ↔
      ∃ word after, IsWord text (text.take place) word after ∧ asked word after ∧ outcome = result word after := by
  have leading := Leading.leading_takeWhile .word (text.drop place)
  rw [Way.outcomeAt, finds.way_eq_some_iff leading]
  constructor
  · rintro ⟨begins, nonempty, asks, rfl⟩
    exact ⟨_, _, .of_leading leading nonempty begins, asks, rfl⟩
  · rintro ⟨otherWord, otherAfter, isWord, asks, rfl⟩
    have other := isWord.leading
    rw [List.length_take, Nat.min_eq_left inside] at other
    obtain ⟨rfl, rfl⟩ := leading.unique other
    exact ⟨isWord.begins, isWord.nonempty, asks, rfl⟩

theorem le_of_isWord {place : Nat} {outcome : Outcome} (known : expr.way.outcomeAt text place = some outcome)
    {before word after : List Char} (isWord : IsWord text before word after) (first : place < before.length) :
    place + outcome.size ≤ before.length := by
  have bound := isWord.length_le
  have inside : place ≤ text.length := by omega
  obtain ⟨otherWord, otherAfter, other, asks, rfl⟩ := (finds.outcomeAt_eq_some_iff inside).mp known
  obtain ⟨gap, rest, rfl, letters, size⟩ := finds.gap asks
  have front : (text.take place).length = place := by rw [List.length_take, Nat.min_eq_left inside]
  by_contra behind
  by_cases within : before.length ≤ place + otherWord.length
  · -- The last character of the match in front of the word is a word character.
    obtain ⟨last, same⟩ : ∃ last, before.length = last + 1 := ⟨before.length - 1, by omega⟩
    have begins := isWord.begins
    rw [← isWord.take, same, getLast?_take_succ (by omega), other.getElem? (by omega) (by omega)] at begins
    cases begins
  · have positive := isWord.length_pos
    have letter := isWord.getElem? (Nat.le_refl _) (by omega)
    rw [other.split, ← List.append_assoc, List.getElem?_append_left (by simp only [List.length_append]; omega),
      List.getElem?_append_right (by simp only [List.length_append]; omega), List.getElem?_eq_getElem
        (by simp only [List.length_append]; omega), isIn, letters _ (List.getElem_mem _)] at letter
    cases letter

theorem mem_search_iff {source : String} (orderly : expr.orderly = true) {found : Match} :
    found ∈ (ofExpr source expr).search text ↔
      ∃ before word after, IsWord text before word after ∧ asked word after ∧
        found ∈ (result word after).match? before.length := by
  constructor
  · intro searched
    obtain ⟨place, inside, outcome, known, matched⟩ := exists_of_mem_search orderly searched
    obtain ⟨word, after, isWord, asks, rfl⟩ := (finds.outcomeAt_eq_some_iff inside).mp known
    refine ⟨_, word, after, isWord, asks, ?_⟩
    rwa [List.length_take, Nat.min_eq_left inside]
  · rintro ⟨before, word, after, isWord, asks, matched⟩
    have inside : before.length ≤ text.length := by
      have bound := isWord.length_le
      omega
    have known : expr.way.outcomeAt text before.length = some (result word after) := by
      refine (finds.outcomeAt_eq_some_iff inside).mpr ⟨word, after, ?_, asks, rfl⟩
      rw [isWord.take]
      exact isWord
    exact mem_search orderly inside known matched fun earlier below other knownOther =>
      finds.le_of_isWord knownOther isWord below

end FindsWords

end Highlighter.Pattern
