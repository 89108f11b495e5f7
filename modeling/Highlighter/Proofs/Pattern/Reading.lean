import Highlighter.Pattern.Search
import Mathlib.Data.List.Basic
import Mathlib.Data.List.TakeDrop
import Mathlib.Data.List.TakeWhile

/-!
Reading a pattern in front of a closing parenthesis. What is read of a pattern is read in the same way if one stands
behind the pattern: nothing waits for it, and only a comment can take it in.
-/

namespace Highlighter.Pattern

open Unicode

section Span

variable {keep : Char → Bool} {text kept rest : List Char}

theorem span_append_of_cons {char : Char} (spanned : text.span keep = (kept, char :: rest)) (more : List Char) :
    (text ++ more).span keep = (kept, char :: (rest ++ more)) := by
  rw [List.span_eq_takeWhile_dropWhile, Prod.mk.injEq] at spanned ⊢
  obtain ⟨taken, dropped⟩ := spanned
  have parts := congrArg List.length (List.takeWhile_append_dropWhile (p := keep) (l := text))
  rw [List.length_append, dropped, List.length_cons] at parts
  rw [List.takeWhile_append, if_neg (by omega), List.dropWhile_append, dropped]
  exact ⟨taken, rfl⟩

theorem span_append_of_nil (spanned : text.span keep = (kept, [])) (more : List Char) :
    (text ++ more).span keep = (text ++ (more.span keep).1, (more.span keep).2) := by
  simp only [List.span_eq_takeWhile_dropWhile, Prod.mk.injEq] at spanned ⊢
  have all := List.dropWhile_eq_nil_iff.mp spanned.2
  exact ⟨List.takeWhile_append_of_pos all, List.dropWhile_append_of_pos all⟩

theorem dropWhile_append_of_cons {char : Char} (dropped : text.dropWhile keep = char :: rest) (more : List Char) :
    (text ++ more).dropWhile keep = char :: (rest ++ more) := by
  rw [List.dropWhile_append, dropped]
  rfl

end Span

theorem exists_of_closed {text rest : List Char} (front : List Char) (unclosed : ')' ∉ front)
    (same : text ++ [')'] = front ++ rest) : ∃ left, text = front ++ left := by
  rcases List.prefix_concat_iff.mp ⟨rest, same.symm⟩ with whole | ⟨left, found⟩
  · exact absurd (whole ▸ List.mem_append_right text (List.mem_singleton_self ')')) unclosed
  · exact ⟨left, found.symm⟩

/-- What is left to read of a text and of the same text in front of a closing parenthesis. A comment at the end of the
text takes the parenthesis in. -/
inductive Closed : List Char → List Char → Prop where
  | behind (rest : List Char) : Closed rest (rest ++ [')'])
  | commented : Closed [] []

namespace Flags

variable {flags : Flags}

theorem change?_append {changed : Flags} {seen : List Char} {value dangling : Bool} {text rest : List Char}
    (known : flags.change? seen value dangling text = some (changed, rest)) (more : List Char) :
    flags.change? seen value dangling (text ++ more) = some (changed, rest ++ more) := by
  induction text generalizing flags seen value dangling with
  | nil => cases known
  | cons char text ih =>
    rw [List.cons_append, change?]
    rw [change?] at known
    split at known
    next ends =>
      rw [if_pos ends]
      split at known
      · cases known
      next closed =>
        rw [if_neg closed]
        cases known
        rfl
    next goesOn =>
      rw [if_neg goesOn]
      split at known
      · cases known
      next fresh =>
        rw [if_neg fresh]
        split at known
        next hyphen =>
          rw [if_pos hyphen]
          exact ih known
        next letter =>
          rw [if_neg letter]
          obtain ⟨set, found, later⟩ := Option.bind_eq_some_iff.mp known
          rw [found, Option.bind_some]
          exact ih later

theorem skipBlanks_append {inComment : Bool} {text rest : List Char} {char : Char}
    (known : skipBlanks inComment text = char :: rest) (more : List Char) :
    skipBlanks inComment (text ++ more) = char :: (rest ++ more) := by
  fun_induction skipBlanks inComment text with
  | case1 => cases known
  | case2 first text ih =>
    rw [List.cons_append, skipBlanks, if_pos rfl]
    exact ih known
  | case3 inComment text outside ih =>
    rw [List.cons_append, skipBlanks, if_neg outside, if_pos rfl]
    exact ih known
  | case4 inComment first text outside notComment blank ih =>
    rw [List.cons_append, skipBlanks, if_neg outside, if_neg notComment, if_pos blank]
    exact ih known
  | case5 inComment first text outside notComment notBlank =>
    rw [List.cons_append, skipBlanks, if_neg outside, if_neg notComment, if_neg notBlank]
    cases known
    rfl

theorem skipBlanks_closed {inComment : Bool} {text : List Char} (known : skipBlanks inComment text = []) :
    skipBlanks inComment (text ++ [')']) = [')'] ∨ skipBlanks inComment (text ++ [')']) = [] := by
  fun_induction skipBlanks inComment text with
  | case1 inComment =>
    cases inComment with
    | false => exact .inl rfl
    | true => exact .inr rfl
  | case2 first text ih =>
    rw [List.cons_append, skipBlanks, if_pos rfl]
    exact ih known
  | case3 inComment text outside ih =>
    rw [List.cons_append, skipBlanks, if_neg outside, if_pos rfl]
    exact ih known
  | case4 inComment first text outside notComment blank ih =>
    rw [List.cons_append, skipBlanks, if_neg outside, if_neg notComment, if_pos blank]
    exact ih known
  | case5 inComment first text outside notComment notBlank => cases known

theorem skip_append {text rest : List Char} {char : Char} (known : flags.skip text = char :: rest) (more : List Char) :
    flags.skip (text ++ more) = char :: (rest ++ more) := by
  unfold skip at known ⊢
  split at known
  next blanks => rw [if_pos blanks, skipBlanks_append known]
  next counts =>
    rw [if_neg counts, known]
    rfl

/-- A closing parenthesis behind a text stays there unless a comment takes it in. -/
theorem skip_closed (flags : Flags) (text : List Char) : Closed (flags.skip text) (flags.skip (text ++ [')'])) := by
  cases skipped : flags.skip text with
  | cons first rest =>
    rw [skip_append skipped]
    exact .behind (first :: rest)
  | nil =>
    unfold skip at skipped ⊢
    split at skipped
    next blanks =>
      rw [if_pos blanks]
      rcases skipBlanks_closed skipped with kept | taken
      · rw [kept]
        exact .behind []
      · rw [taken]
        exact .commented
    next counts =>
      rw [if_neg counts, skipped]
      exact .behind []

theorem skip_nil (flags : Flags) : flags.skip [] = [] := by
  unfold skip
  split <;> rfl

theorem length_skipBlanks_le (inComment : Bool) (text : List Char) :
    (skipBlanks inComment text).length ≤ text.length := by
  fun_induction skipBlanks inComment text with
  | case1 inComment => exact Nat.le_refl _
  | case2 first text ih => exact Nat.le_succ_of_le ih
  | case3 inComment text outside ih => exact Nat.le_succ_of_le ih
  | case4 inComment first text outside notComment blank ih => exact Nat.le_succ_of_le ih
  | case5 inComment first text outside notComment notBlank => exact Nat.le_refl _

theorem length_skip_le (flags : Flags) (text : List Char) : (flags.skip text).length ≤ text.length := by
  unfold skip
  split
  · exact length_skipBlanks_le false text
  · exact Nat.le_refl _

theorem span_append {keep : Char → Bool} {inComment : Bool} {text kept rest : List Char} {char : Char}
    (known : flags.span keep inComment text = (kept, char :: rest)) (more : List Char) :
    flags.span keep inComment (text ++ more) = (kept, char :: (rest ++ more)) := by
  induction text generalizing inComment kept with
  | nil => cases known
  | cons first text ih =>
    rw [List.cons_append, span]
    rw [span] at known
    split at known
    next inside => rw [if_pos inside, ih known]
    next outside =>
      rw [if_neg outside]
      split at known
      next blank => rw [if_pos blank, ih known]
      next notBlank =>
        rw [if_neg notBlank]
        split at known
        next comment => rw [if_pos comment, ih known]
        next notComment =>
          rw [if_neg notComment]
          split at known
          next keeps =>
            obtain ⟨rfl, behind⟩ := Prod.mk.inj known
            rw [if_pos keeps, ih (Prod.ext rfl behind)]
          next stops =>
            rw [if_neg stops]
            cases known
            rfl

theorem braced?_append {text inside rest : List Char} (known : flags.braced? text = some (inside, rest))
    (more : List Char) : flags.braced? (text ++ more) = some (inside, rest ++ more) := by
  unfold braced? at known ⊢
  split at known
  next spanned =>
    cases known
    rw [span_append spanned]
  next => cases known

end Flags

namespace Escape

variable {flags : Flags}

theorem readDigits_append {count : Nat} {text digits rest : List Char}
    (known : readDigits flags count text = some (digits, rest)) (more : List Char) :
    readDigits flags count (text ++ more) = some (digits, rest ++ more) := by
  induction count generalizing text digits with
  | zero =>
    cases known
    rfl
  | succ count ih =>
    unfold readDigits at known ⊢
    split at known
    next => cases known
    next char behind skipped =>
      obtain ⟨⟨later, left⟩, found, same⟩ := Option.map_eq_some_iff.mp known
      cases same
      simp only [Flags.skip_append skipped, ih found, Option.map_some]

theorem readCode_append {count : Nat} {text rest : List Char} {escape : Escape} (positive : 0 < count)
    (known : readCode flags count text = some (escape, rest)) (more : List Char) :
    readCode flags count (text ++ more) = some (escape, rest ++ more) := by
  unfold readCode at known ⊢
  obtain ⟨⟨digits, byte, behind⟩, found, valued⟩ := Option.bind_eq_some_iff.mp known
  obtain ⟨char, valid, same⟩ := Option.map_eq_some_iff.mp valued
  cases same
  cases skipped : flags.skip text with
  | nil =>
    obtain ⟨less, rfl⟩ := Nat.exists_eq_succ_of_ne_zero (Nat.ne_of_gt positive)
    simp [skipped, readDigits, Flags.skip_nil] at found
  | cons first inner =>
    have skippedMore := Flags.skip_append skipped more
    by_cases brace : first = '\x7b'
    · subst brace
      simp only [skipped] at found
      obtain ⟨⟨inside, left⟩, braced, same⟩ := Option.map_eq_some_iff.mp found
      cases same
      simp only [skippedMore, Flags.braced?_append braced, Option.map_some, Option.bind_some, valid]
    · simp only [skipped, brace, imp_false, List.cons.injEq, false_and, not_false_eq_true, implies_true] at found
      obtain ⟨⟨inside, left⟩, read, same⟩ := Option.map_eq_some_iff.mp found
      cases same
      have readMore := readDigits_append read more
      rw [List.cons_append] at readMore
      simp only [skippedMore, brace, imp_false, List.cons.injEq, false_and, not_false_eq_true, implies_true, readMore,
        Option.map_some, Option.bind_some, valid]

theorem readProperty_append {negated : Bool} {text rest : List Char} {escape : Escape}
    (known : readProperty flags negated text = some (escape, rest)) (more : List Char) :
    readProperty flags negated (text ++ more) = some (escape, rest ++ more) := by
  unfold readProperty at known ⊢
  obtain ⟨⟨inside, left⟩, found, classed⟩ := Option.bind_eq_some_iff.mp known
  simp only [Option.ite_none_left_eq_some] at classed
  obtain ⟨unicode, classed⟩ := classed
  obtain ⟨members, property, turned⟩ := Option.bind_eq_some_iff.mp classed
  obtain ⟨result, negates, same⟩ := Option.map_eq_some_iff.mp turned
  cases same
  split at found
  next => cases found
  next => cases found
  next inner skipped =>
    simp only [Flags.skip_append skipped, Flags.braced?_append found, Option.bind_some, if_neg unicode, property,
      negates, Option.map_some]
  next char behind notEscape notBraced skipped =>
    cases found
    simp only [Flags.skip_append skipped, Option.bind_some, if_neg unicode, property, negates, Option.map_some]

theorem readBoundary_closed {text rest : List Char} {escape : Escape}
    (known : readBoundary flags text = some (escape, rest)) :
    readBoundary flags (text ++ [')']) = some (escape, rest ++ [')']) := by
  unfold readBoundary at known
  split at known
  next behind =>
    simp only [List.cons_append, readBoundary]
    split at known
    next => cases known
    next spanned =>
      cases known
      simp only [Flags.span_append spanned, List.cons_append]
    next kind char left nonempty spanned =>
      simp only [Flags.span_append spanned]
      split at known
      next closes =>
        obtain ⟨condition, named, same⟩ := Option.map_eq_some_iff.mp known
        cases same
        rw [if_pos closes, named, Option.map_some]
      next => cases known
  next notBraced =>
    cases known
    cases text with
    | nil => rfl
    | cons char behind =>
      have other : char ≠ '\x7b' := fun same => notBraced behind (same ▸ rfl)
      simp [readBoundary, other]

theorem read?_closed {text rest : List Char} {escape : Escape} (known : read? flags text = some (escape, rest)) :
    read? flags (text ++ [')']) = some (escape, rest ++ [')']) := by
  cases text with
  | nil => cases known
  | cons char text =>
    simp only [List.cons_append, read?] at known ⊢
    have mapped {α : Type} {found : Option α} {make : α → Escape}
        (known : found.map (fun value => (make value, text)) = some (escape, rest)) :
        found.map (fun value => (make value, text ++ [')'])) = some (escape, rest ++ [')']) := by
      obtain ⟨value, same, made⟩ := Option.map_eq_some_iff.mp known
      cases made
      rw [same, Option.map_some]
    have single {value : Escape} (known : some (value, text) = some (escape, rest)) :
        some (value, text ++ [')']) = some (escape, rest ++ [')']) := by
      cases known
      rfl
    split at known
    iterate 3 exact readCode_append (by decide) known _
    iterate 2 exact readProperty_append known _
    iterate 6 exact mapped known
    iterate 2 exact single known
    · exact readBoundary_closed known
    iterate 3 exact single known
    · split at known
      next quotable =>
        rw [if_pos quotable]
        exact single known
      next letter =>
        rw [if_neg letter]
        exact mapped known

end Escape

namespace Bracket

variable {flags : Flags}

theorem readHyphens_closed {fuel other : Nat} {items found : Items} {text rest : List Char}
    (known : readHyphens flags fuel items text = (found, rest)) (nonempty : rest ≠ []) (enough : text.length < fuel)
    (enoughOther : text.length + 1 < other) :
    readHyphens flags other items (text ++ [')']) = (found, rest ++ [')']) := by
  induction fuel generalizing other items text with
  | zero => omega
  | succ fuel ih =>
    obtain ⟨other, rfl⟩ := Nat.exists_eq_succ_of_ne_zero (Nat.ne_of_gt (Nat.zero_lt_of_lt enoughOther))
    cases skipped : flags.skip text with
    | nil =>
      simp only [readHyphens, skipped, Prod.mk.injEq] at known
      exact absurd known.2.symm nonempty
    | cons first behind =>
      have shorter := Flags.length_skip_le flags text
      rw [skipped, List.length_cons] at shorter
      by_cases hyphen : first = '-'
      · subst hyphen
        simp only [readHyphens, skipped] at known
        simp only [readHyphens, Flags.skip_append skipped]
        exact ih known (by omega) (by omega)
      · simp only [readHyphens, skipped, List.cons.injEq, hyphen, false_and, imp_false, not_false_eq_true,
          implies_true] at known
        cases known
        simp [readHyphens, Flags.skip_append skipped, hyphen]

def readFirst (flags : Flags) (negated : Bool) (text : List Char) : Bool × Items × List Char :=
  match readHyphens flags (text.length + 1) {} text with
  | (items, ']' :: rest) =>
    if items.count = 0 then (negated, items.addRange ']' ']', rest) else (negated, items, ']' :: rest)
  | (items, rest) => (negated, items, rest)

theorem readOpening_eq (flags : Flags) (text : List Char) :
    readOpening flags text =
      match flags.skip text with
      | '^' :: rest => readFirst flags true rest
      | rest => readFirst flags false rest := by
  unfold readOpening
  cases flags.skip text with
  | nil => rfl
  | cons first rest =>
    by_cases sign : first = '^'
    · subst sign
      rfl
    · simp only [List.cons.injEq, sign, false_and, imp_false, not_false_eq_true, implies_true]
      rfl

theorem readFirst_closed {negated turned : Bool} {items : Items} {text rest : List Char}
    (known : readFirst flags negated text = (turned, items, rest)) (nonempty : rest ≠ []) :
    readFirst flags negated (text ++ [')']) = (turned, items, rest ++ [')']) := by
  unfold readFirst at known ⊢
  have closed {found : Items} {behind : List Char}
      (read : readHyphens flags (text.length + 1) {} text = (found, behind)) (more : behind ≠ []) :
      readHyphens flags ((text ++ [')']).length + 1) {} (text ++ [')']) = (found, behind ++ [')']) :=
    readHyphens_closed read more (by omega) (by simp)
  split at known
  next found behind read =>
    rw [closed read (by simp)]
    simp only [List.cons_append]
    split at known
    next first =>
      cases known
      rw [if_pos first]
    next later =>
      cases known
      rw [if_neg later]
      rfl
  next found behind notBracket read =>
    cases known
    cases rest with
    | nil => exact absurd rfl nonempty
    | cons first rest =>
      have other : first ≠ ']' := fun same => notBracket rest (by rw [same])
      rw [closed read nonempty]
      simp [other]

theorem readOpening_closed {negated : Bool} {items : Items} {text rest : List Char}
    (known : readOpening flags text = (negated, items, rest)) (nonempty : rest ≠ []) :
    readOpening flags (text ++ [')']) = (negated, items, rest ++ [')']) := by
  rw [readOpening_eq] at known ⊢
  cases skipped : flags.skip text with
  | nil =>
    simp only [skipped, readFirst, readHyphens, Flags.skip_nil, Prod.mk.injEq] at known
    exact absurd known.2.2.symm nonempty
  | cons first behind =>
    rw [skipped] at known
    rw [Flags.skip_append skipped]
    by_cases sign : first = '^'
    · subst sign
      exact readFirst_closed known nonempty
    · simp only [List.cons.injEq, sign, false_and, imp_false, not_false_eq_true, implies_true] at known ⊢
      exact readFirst_closed known nonempty

def readRanges? (negated : Bool) (text : List Char) : Option (CodeRanges × Bool × List Char) :=
  match text.span (· ≠ ':') with
  | (name, ':' :: ']' :: rest) => (namedRanges? name).map fun ranges => (ranges, negated, rest)
  | _ => none

theorem readNamed?_colon (text : List Char) :
    readNamed? (':' :: text) =
      match text with
      | '^' :: rest => readRanges? true rest
      | rest => readRanges? false rest := by
  cases text with
  | nil => rfl
  | cons first rest =>
    by_cases sign : first = '^'
    · subst sign
      rfl
    · simp only [readNamed?, List.cons.injEq, sign, false_and, imp_false, not_false_eq_true, implies_true]
      rfl

theorem readRanges?_closed (negated : Bool) (text : List Char) :
    readRanges? negated (text ++ [')']) =
      (readRanges? negated text).map fun (ranges, negated, rest) => (ranges, negated, rest ++ [')']) := by
  unfold readRanges?
  cases spanned : text.span (· ≠ ':') with
  | mk name behind =>
    cases behind with
    | nil =>
      rw [span_append_of_nil spanned]
      rfl
    | cons colon behind =>
      rw [span_append_of_cons spanned]
      by_cases closes : colon = ':'
      · subst closes
        cases behind with
        | nil => rfl
        | cons bracket behind =>
          by_cases bracketed : bracket = ']'
          · subst bracketed
            simp only [List.cons_append, Option.map_map]
            rfl
          · simp [bracketed]
      · simp [closes]

theorem readNamed?_closed (text : List Char) :
    readNamed? (text ++ [')']) =
      (readNamed? text).map fun (ranges, negated, rest) => (ranges, negated, rest ++ [')']) := by
  cases text with
  | nil => rfl
  | cons colon text =>
    rw [List.cons_append]
    by_cases opens : colon = ':'
    · subst opens
      rw [readNamed?_colon, readNamed?_colon]
      cases text with
      | nil => rfl
      | cons first text =>
        by_cases sign : first = '^'
        · subst sign
          exact readRanges?_closed true text
        · simp only [List.cons_append, List.cons.injEq, sign, false_and, imp_false, not_false_eq_true, implies_true]
          exact readRanges?_closed false (first :: text)
    · simp [readNamed?, opens]

theorem readItem?_closed {text rest : List Char} {item : Escape} (known : readItem? flags text = some (item, rest)) :
    readItem? flags (text ++ [')']) = some (item, rest ++ [')']) := by
  cases text with
  | nil => cases known
  | cons first text =>
    by_cases escaped : first = '\\'
    · subst escaped
      exact Escape.read?_closed known
    · simp only [readItem?, List.cons_append] at known ⊢
      cases known
      rfl

theorem peek?_closed {char : Char} (notSpace : CharClass.space.contains char = false) (notComment : char ≠ '#')
    (notClosing : char ≠ ')') (text : List Char) :
    peek? flags (text ++ [')']) = some char ↔ peek? flags text = some char := by
  have unclosed : some ')' ≠ some char := fun same => notClosing (Option.some.inj same).symm
  have front (starts : text.head? = some char) : ∃ rest, text.dropWhile CharClass.space.contains = char :: rest := by
    obtain ⟨rest, rfl⟩ := List.head?_eq_some_iff.mp starts
    exact ⟨rest, List.dropWhile_cons_of_neg (by simp [notSpace])⟩
  unfold peek?
  split
  · cases text with
    | nil => simp [unclosed]
    | cons first text => rfl
  · cases behind : text.dropWhile CharClass.space.contains with
    | nil =>
      have closing : (text ++ [')']).dropWhile CharClass.space.contains = [')'] := by
        rw [List.dropWhile_append, behind]
        rfl
      have other : text.head? ≠ some char := fun starts => by
        obtain ⟨rest, same⟩ := front starts
        cases behind.symm.trans same
      simp [closing, unclosed, other]
    | cons first later =>
      rw [dropWhile_append_of_cons behind]
      by_cases comment : first = '#'
      · subst comment
        have other : text.head? ≠ some char := fun starts => by
          obtain ⟨rest, same⟩ := front starts
          exact notComment (List.cons.inj (behind.symm.trans same)).1.symm
        simp only [List.find?_append]
        cases later.find? (!CharClass.space.contains ·) with
        | some next => simp
        | none =>
          have counts : [')'].find? (!CharClass.space.contains ·) = some ')' := rfl
          simp [other, counts, unclosed]
      · simp

theorem readRange?_closed {items found : Items} {text rest : List Char}
    (known : readRange? flags items text = some (found, rest)) :
    readRange? flags items (text ++ [')']) = some (found, rest ++ [')']) := by
  unfold readRange? at known ⊢
  obtain ⟨⟨item, behind⟩, read, known⟩ := Option.bind_eq_some_iff.mp known
  rw [readItem?_closed read, Option.bind_some]
  have ends (behind : List Char) : peek? flags (behind ++ [')']) = some ']' ∨ peek? flags (behind ++ [')']) = some '-' ↔
      peek? flags behind = some ']' ∨ peek? flags behind = some '-' := by
    rw [peek?_closed (by rfl) (by decide) (by decide), peek?_closed (by rfl) (by decide) (by decide)]
  cases skipped : flags.skip behind with
  | nil => simp [skipped] at known
  | cons first later =>
    simp only [skipped] at known
    simp only [Flags.skip_append skipped]
    by_cases hyphen : first = '-'
    · subst hyphen
      simp only [ends] at known ⊢
      split at known
      next single =>
        obtain ⟨added, adds, same⟩ := Option.map_eq_some_iff.mp known
        cases same
        rw [if_pos single, adds, Option.map_some]
        rfl
      next range =>
        obtain ⟨⟨last, left⟩, readLast, known⟩ := Option.bind_eq_some_iff.mp known
        rw [if_neg range]
        cases spaced : flags.skip later with
        | nil =>
          simp [spaced, readItem?] at readLast
        | cons next more =>
          rw [spaced] at readLast
          rw [Flags.skip_append spaced, ← List.cons_append, readItem?_closed readLast, Option.bind_some]
          simp only at known ⊢
          split at known
          next start stop startKnown stopKnown =>
            split at known
            next ordered =>
              cases known
              rw [if_pos ordered]
            next => cases known
          next => cases known
    · simp only [List.cons.injEq, hyphen, false_and, imp_false, not_false_eq_true, implies_true] at known ⊢
      obtain ⟨added, adds, same⟩ := Option.map_eq_some_iff.mp known
      cases same
      rw [adds, Option.map_some]
      rfl

/-- The parenthesis behind a text makes no operator, a sign that stands twice, out of what is none without it. -/
theorem no_operator_of_closed {char : Char} {text : List Char} (notParenthesis : ')' ≠ char)
    (none : ∀ rest, text ≠ char :: char :: rest) (rest : List Char) : text ++ [')'] ≠ char :: char :: rest := by
  intro same
  obtain ⟨left, same⟩ := exists_of_closed [char, char] (by simp [notParenthesis]) same
  exact none left same

theorem readContent_closed {fuel other : Nat} {opened : Opened} {around : List Opened} {items : Items}
    {text rest : List Char} {members : CharClass} {depth : Nat}
    (known : readContent flags fuel opened around items text = some (members, depth, rest)) (more : fuel ≤ other) :
    readContent flags other opened around items (text ++ [')']) = some (members, depth, rest ++ [')']) := by
  induction fuel generalizing other opened around items text with
  | zero => cases known
  | succ fuel ih =>
    obtain ⟨other, rfl⟩ : ∃ less, other = less + 1 := ⟨other - 1, by omega⟩
    have enough : fuel ≤ other := Nat.le_of_succ_le_succ more
    cases skipped : flags.skip text with
    | nil => simp [readContent, skipped] at known
    | cons first behind =>
      simp only [readContent, skipped] at known
      simp only [readContent, Flags.skip_append skipped]
      split at known
      next => cases known
      next closes =>
        cases closes
        obtain ⟨class', negates, known⟩ := Option.bind_eq_some_iff.mp known
        simp only [negates, Option.bind_some]
        cases around with
        | nil =>
          cases known
          rfl
        | cons outer around => exact ih known enough
      iterate 3
        next operator =>
          cases operator
          exact ih known enough
      next opens =>
        cases opens
        simp only [readNamed?_closed]
        cases named : readNamed? behind with
        | some found =>
          obtain ⟨ranges, negated, left⟩ := found
          simp only [named] at known
          obtain ⟨class', negates, known⟩ := Option.bind_eq_some_iff.mp known
          simp only [Option.map_some, negates, Option.bind_some]
          exact ih known enough
        | none =>
          simp only [named] at known
          cases read : readOpening flags behind with
          | mk negated found =>
            obtain ⟨inner, left⟩ := found
            simp only [read] at known
            -- A bracket that is opened at the end of the text is never closed.
            have nonempty : left ≠ [] := by
              rintro rfl
              cases fuel with
              | zero => cases known
              | succ fuel => simp [readContent, Flags.skip_nil] at known
            simp only [Option.map_none, readOpening_closed read nonempty]
            exact ih known enough
      next nonempty notClosing notInter notDiff notSymmDiff notOpening =>
        -- An item begins, and the parenthesis behind the text makes no other sign of it.
        obtain ⟨⟨added, left⟩, read, known⟩ := Option.bind_eq_some_iff.mp known
        rw [← List.cons_append]
        split
        next same => cases same
        next same => exact absurd (by rw [(List.cons.inj same).1]) (notClosing behind)
        next same => exact absurd same (no_operator_of_closed (by decide) notInter _)
        next same => exact absurd same (no_operator_of_closed (by decide) notDiff _)
        next same => exact absurd same (no_operator_of_closed (by decide) notSymmDiff _)
        next same => exact absurd (by rw [(List.cons.inj same).1]) (notOpening behind)
        next =>
          rw [readRange?_closed read, Option.bind_some]
          exact ih known enough

theorem read?_closed {text rest : List Char} {members : CharClass} {depth : Nat}
    (known : read? flags text = some (members, depth, rest)) :
    read? flags (text ++ [')']) = some (members, depth, rest ++ [')']) := by
  unfold read? at known ⊢
  cases read : readOpening flags text with
  | mk negated found =>
    obtain ⟨items, left⟩ := found
    simp only [read] at known
    have nonempty : left ≠ [] := by
      rintro rfl
      simp [readContent, Flags.skip_nil] at known
    simp only [readOpening_closed read nonempty]
    exact readContent_closed known (by simp)

end Bracket

end Highlighter.Pattern
