import Highlighter.Proofs.Grammar.BuiltIn
import Highlighter.Proofs.Pattern.Word

/-!
What the built-in grammars ask about words: whether a word is a keyword, whether it is called, and whether it has
digits alone.
-/

namespace Highlighter.Grammar

open Pattern Unicode

def Called (after : List Char) : Prop := (after.dropWhile CharClass.space.contains).head? = some '('

instance (after : List Char) : Decidable (Called after) := inferInstanceAs (Decidable (_ = _))

def IsNumber (word : List Char) : Prop := ∀ letter ∈ word, CharClass.digit.contains letter = true

instance (word : List Char) : Decidable (IsNumber word) := inferInstanceAs (Decidable (∀ _ ∈ _, _))

theorem isIn_word_of_digit {letter : Option Char} (digit : isIn .digit letter = true) : isIn .word letter = true := by
  cases letter with
  | none => cases digit
  | some letter => exact CharClass.word_of_digit digit

theorem edge_between {last letter : Char} (left : CharClass.word.contains last = true)
    (right : CharClass.word.contains letter = true) (follow : Sequel) (rest : List Char) :
    Way.edge follow (some last) (letter :: rest) = none := by
  rw [Way.edge_apply, List.head?_cons, isIn, isIn, left, right]
  rfl

theorem looping_digit_eq_some_iff {before : Option Char} {text word after : List Char}
    (leading : Leading .word text word after) (outcome : Outcome) :
    Way.looping true (Way.reading .digit) (Way.edge .done) before text = some outcome ↔
      word ≠ [] ∧ IsNumber word ∧ outcome = .ofSize word.length := by
  have digits := Leading.leading_takeWhile .digit text
  generalize text.takeWhile CharClass.digit.contains = run at digits
  generalize text.dropWhile CharClass.digit.contains = rest at digits
  rw [Way.looping_leading (fun last letter rest left right =>
    edge_between (CharClass.word_of_digit left) (CharClass.word_of_digit right) .done rest) digits]
  constructor
  · intro known
    split at known
    next => cases known
    next nonempty =>
      rw [Way.edge_done (isIn_word_of_digit (digits.isIn_getLast nonempty))] at known
      split at known
      next => cases known
      next stop =>
        have whole : Leading .word text run rest :=
          ⟨digits.split, fun letter member => CharClass.word_of_digit (digits.letters letter member),
            Bool.not_eq_true _ |>.mp stop⟩
        obtain ⟨rfl, rfl⟩ := leading.unique whole
        exact ⟨nonempty, digits.letters, (Option.some.inj known).symm.trans (Outcome.back_empty word.length)⟩
  · rintro ⟨nonempty, isNumber, rfl⟩
    have ends : isIn .digit after.head? = false := by
      rw [← Bool.not_eq_true]
      intro digit
      exact absurd (isIn_word_of_digit digit) (by simp [leading.ends])
    obtain ⟨rfl, rfl⟩ := digits.unique ⟨leading.split, isNumber, ends⟩
    rw [if_neg nonempty, Way.edge_done (isIn_word_of_digit (digits.isIn_getLast nonempty)), leading.ends]
    exact congrArg some (Outcome.back_empty run.length)

theorem finds_number :
    FindsWords numberExpr (fun word _ => IsNumber word) (fun word _ => .ofSize word.length) where
  way_eq_some_iff leading := Way.edge_eq_some_iff leading (looping_digit_eq_some_iff leading)
  gap := fun {word after} _ => ⟨[], after, rfl, by simp, rfl⟩

theorem spelling_eq_some_iff {keyword : List Char} (nonempty : keyword ≠ [])
    (letters : ∀ letter ∈ keyword, CharClass.word.contains letter = true) {before : Option Char}
    {text word after : List Char} (leading : Leading .word text word after) {outcome : Outcome} :
    Way.spelling keyword (Way.edge .done) before text = some outcome ↔
      keyword = word ∧ outcome = .ofSize word.length := by
  have spelled (rest : List Char) : Way.spelling keyword (Way.edge .done) before (keyword ++ rest) =
      if isIn .word rest.head? then none else some (.ofSize keyword.length) := by
    have last : isIn .word (keyword.getLast?.or before) = true := by
      rw [List.getLast?_eq_some_getLast nonempty]
      exact letters _ (List.getLast_mem nonempty)
    rw [Way.spelling_append, Way.edge_done last]
    split
    · rfl
    · exact congrArg some (Outcome.back_empty keyword.length)
  constructor
  · intro known
    obtain ⟨rest, rfl⟩ := Way.prefix_of_spelling known
    rw [spelled] at known
    split at known
    next => cases known
    next stop =>
      obtain ⟨rfl, rfl⟩ := leading.unique ⟨rfl, letters, Bool.not_eq_true _ |>.mp stop⟩
      exact ⟨rfl, (Option.some.inj known).symm⟩
  · rintro ⟨rfl, rfl⟩
    rw [leading.split, spelled, leading.ends]
    rfl

theorem branches_eq_some_iff {keywords : List String} (nonempty : ∀ keyword ∈ keywords, keyword.toList ≠ [])
    (letters : ∀ keyword ∈ keywords, ∀ letter ∈ keyword.toList, CharClass.word.contains letter = true)
    {before : Option Char} {text word after : List Char} (leading : Leading .word text word after)
    (outcome : Outcome) :
    (Expr.ofBranches (keywords.map fun keyword => .literally keyword.toList)).way (Way.edge .done) before text =
        some outcome ↔
      word ≠ [] ∧ String.ofList word ∈ keywords ∧ outcome = .ofSize word.length := by
  rw [Expr.way_ofBranches, List.findSome?_map]
  have branch {keyword : String} (member : keyword ∈ keywords) {outcome : Outcome} :
      ((fun branch : Expr => branch.way (Way.edge .done) before text) ∘ fun keyword => .literally keyword.toList)
          keyword = some outcome ↔ keyword.toList = word ∧ outcome = .ofSize word.length := by
    rw [Function.comp_apply, Expr.way_literally]
    exact spelling_eq_some_iff (nonempty keyword member) (letters keyword member) leading
  constructor
  · intro known
    obtain ⟨keyword, member, found⟩ := List.exists_of_findSome?_eq_some known
    obtain ⟨rfl, rfl⟩ := (branch member).mp found
    exact ⟨nonempty keyword member, by rwa [String.ofList_toList], rfl⟩
  · rintro ⟨_, member, rfl⟩
    rw [Expr.findSome?_eq member]
    · exact (branch member).mpr ⟨String.toList_ofList .., rfl⟩
    · intro other otherMember different
      rw [Option.eq_none_iff_forall_ne_some]
      intro outcome found
      exact different (by rw [← ((branch otherMember).mp found).1, String.ofList_toList])

theorem finds_keyword {keywords : List String} (nonempty : ∀ keyword ∈ keywords, keyword.toList ≠ [])
    (letters : ∀ keyword ∈ keywords, ∀ letter ∈ keyword.toList, CharClass.word.contains letter = true) :
    FindsWords (keywordExpr keywords) (fun word _ => String.ofList word ∈ keywords)
      (fun word _ => .ofSize word.length) where
  way_eq_some_iff leading := Way.edge_eq_some_iff leading (branches_eq_some_iff nonempty letters leading)
  gap := fun {word after} _ => ⟨[], after, rfl, by simp, rfl⟩

theorem again_space {after spaces rest : List Char} (leading : Leading .space after spaces rest)
    (before : Option Char) :
    Way.again true (Way.reading .space) (Way.reading (.single '(') .done) before after =
      if rest.head? = some '(' then some (.ofSize (spaces.length + 1)) else none := by
  have blocked (last : Option Char) (letter : Char) (rest : List Char)
      (space : CharClass.space.contains letter = true) :
      Way.reading (.single '(') .done last (letter :: rest) = none := by
    rw [Way.reading_cons, if_neg]
    rw [CharClass.contains_single]
    rintro rfl
    rw [CharClass.not_space_of_bracket] at space
    cases space
  rw [Way.again_leading (fun letter rest => blocked _ letter rest)
    (fun last letter rest _ => blocked _ letter rest) leading]
  cases rest with
  | nil => rfl
  | cons letter rest =>
    simp only [Way.reading_cons, CharClass.contains_single, List.head?_cons, Option.some.injEq]
    split
    · simp [Sequel.done, Outcome.advance, Outcome.back, Outcome.ofSize, Nat.add_comm]
    · rfl

def calledOutcome (word after : List Char) : Outcome where
  size := word.length + ((after.takeWhile CharClass.space.contains).length + 1)
  tokenStart := some 0
  tokenStop := some word.length

theorem again_space_word {before : Option Char} {letter : Char} (inside : CharClass.word.contains letter = true)
    (rest : List Char) :
    Way.again true (Way.reading .space) (Way.reading (.single '(') .done) before (letter :: rest) = none := by
  have solid : CharClass.space.contains letter = false := by
    rw [← Bool.not_eq_true]
    intro space
    rw [CharClass.not_word_of_space space] at inside
    cases inside
  have bracket : CharClass.word.contains '(' = false := CharClass.not_word_of_between (by decide)
  have leading : Leading .space (letter :: rest) [] (letter :: rest) := ⟨rfl, by simp, solid⟩
  rw [again_space leading, if_neg]
  rintro ⟨⟩
  rw [bracket] at inside
  cases inside

theorem capturing_eq_some_iff {before : Option Char} {text word after : List Char}
    (leading : Leading .word text word after) (outcome : Outcome) :
    Way.capturing (Way.looping true (Way.reading .word)) (Way.again true (Way.reading .space)
        (Way.reading (.single '(') .done)) before text = some outcome ↔
      word ≠ [] ∧ Called after ∧ outcome = calledOutcome word after := by
  have blocked (last letter : Char) (rest : List Char) (_ : CharClass.word.contains last = true)
      (inside : CharClass.word.contains letter = true) :
      Sequel.closing (Way.again true (Way.reading .space) (Way.reading (.single '(') .done)) (some last)
        (letter :: rest) = none := by
    rw [Sequel.closing, again_space_word inside]
    rfl
  have closed := again_space (Leading.leading_takeWhile .space after) word.getLast?
  rw [Way.capturing, Way.looping_leading blocked leading, Sequel.closing, closed]
  by_cases empty : word = []
  · simp [empty]
  · by_cases called : Called after
    · have bracket : (after.dropWhile CharClass.space.contains).head? = some '(' := called
      simp [empty, called, bracket, calledOutcome, Outcome.ofSize, Outcome.closeToken, Outcome.back,
        Outcome.openToken, Nat.add_comm, eq_comm]
    · have silent : (after.dropWhile CharClass.space.contains).head? ≠ some '(' := called
      simp [called, silent]

theorem finds_function : FindsWords functionExpr (fun _ after => Called after) calledOutcome where
  way_eq_some_iff leading := Way.edge_eq_some_iff leading (capturing_eq_some_iff leading)
  gap := by
    intro word after called
    have spaces := Leading.leading_takeWhile .space after
    have bracket : CharClass.word.contains '(' = false := CharClass.not_word_of_between (by decide)
    obtain ⟨rest, behind⟩ := List.head?_eq_some_iff.mp called
    refine ⟨after.takeWhile CharClass.space.contains ++ ['('], rest, ?_, ?_, ?_⟩
    · rw [List.append_assoc, List.singleton_append, ← behind]
      exact spaces.split
    · intro letter member
      rcases List.mem_append.mp member with space | last
      · exact CharClass.not_word_of_space (spaces.letters letter space)
      · rwa [List.mem_singleton.mp last]
    · rw [List.length_append, List.length_singleton]
      rfl

end Highlighter.Grammar
