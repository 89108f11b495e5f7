import Highlighter.Proofs.Pattern.Reading

/-!
The lexemes of a pattern in front of a closing parenthesis: they are those of the pattern, and the end of a group behind
them unless a comment takes the parenthesis in.
-/

namespace Highlighter.Pattern

/-- The text of a pattern in a group "token". -/
def tokenGroup (source : String) : String := "(?P<token>" ++ source ++ ")"

namespace Lexeme

open Unicode

variable {flags : Flags}

theorem readCount_append {text rest : List Char} {count : Nat} {char : Char}
    (known : readCount flags text = some (count, char :: rest)) (more : List Char) :
    readCount flags (text ++ more) = some (count, char :: (rest ++ more)) := by
  unfold readCount at known ⊢
  cases digits : text.dropWhile CharClass.space.contains with
  | nil => simp [digits, Flags.span, Flags.skip_nil] at known
  | cons first left =>
    rw [digits] at known
    rw [dropWhile_append_of_cons digits, ← List.cons_append]
    cases spanned : flags.span Char.isDigit false (first :: left) with
    | mk written behind =>
      simp only [spanned] at known
      obtain ⟨value, read, same⟩ := Option.map_eq_some_iff.mp known
      obtain ⟨rfl, skipped⟩ := Prod.mk.inj same
      cases behind with
      | nil =>
        rw [List.dropWhile_nil, Flags.skip_nil] at skipped
        cases skipped
      | cons next behind =>
        rw [Flags.span_append spanned]
        simp only [read, Option.map_some]
        cases blanks : (next :: behind).dropWhile CharClass.space.contains with
        | nil =>
          rw [blanks, Flags.skip_nil] at skipped
          cases skipped
        | cons counts later =>
          rw [blanks] at skipped
          rw [← List.cons_append, dropWhile_append_of_cons blanks, ← List.cons_append, Flags.skip_append skipped]

theorem readCount_nil (flags : Flags) : readCount flags [] = none := rfl

theorem readCount_skip_append {text rest : List Char} {count : Nat} {char : Char}
    (known : readCount flags (flags.skip text) = some (count, char :: rest)) (more : List Char) :
    readCount flags (flags.skip (text ++ more)) = some (count, char :: (rest ++ more)) := by
  cases skipped : flags.skip text with
  | nil =>
    rw [skipped, readCount_nil] at known
    cases known
  | cons next left =>
    rw [skipped] at known
    rw [Flags.skip_append skipped, ← List.cons_append, readCount_append known]

def readMost (flags : Flags) (least : Nat) (text : List Char) : Option (Nat × Option Nat × List Char) :=
  match flags.skip text with
  | '\x7d' :: rest => some (least, none, rest)
  | rest => (readCount flags rest).bind fun (most, rest) =>
    match rest with
    | '\x7d' :: rest => if least ≤ most then some (least, some most, rest) else none
    | _ => none

theorem readBounds_eq (flags : Flags) (text : List Char) :
    readBounds flags text = (readCount flags (flags.skip text)).bind fun (least, rest) =>
      match rest with
      | '\x7d' :: rest => some (least, some least, rest)
      | ',' :: rest => readMost flags least rest
      | _ => none := rfl

theorem readMost_append {text rest : List Char} {least found : Nat} {most : Option Nat}
    (known : readMost flags least text = some (found, most, rest)) (more : List Char) :
    readMost flags least (text ++ more) = some (found, most, rest ++ more) := by
  unfold readMost at known ⊢
  cases skipped : flags.skip text with
  | nil =>
    rw [skipped] at known
    cases known
  | cons first behind =>
    by_cases closes : first = '\x7d'
    · subst closes
      simp only [skipped] at known
      cases known
      simp only [Flags.skip_append skipped]
    · simp only [skipped, List.cons.injEq, closes, false_and, imp_false, not_false_eq_true, implies_true] at known
      simp only [Flags.skip_append skipped, List.cons.injEq, closes, false_and, imp_false, not_false_eq_true,
        implies_true]
      rw [← skipped] at known
      obtain ⟨⟨value, later⟩, read, known⟩ := Option.bind_eq_some_iff.mp known
      have readMore (last : Char) (behind : List Char) (same : later = last :: behind) :=
        readCount_skip_append (same ▸ read) more
      rw [Flags.skip_append skipped] at readMore
      simp only at known
      split at known
      next =>
        rw [readMore _ _ rfl, Option.bind_some]
        split at known
        next ordered =>
          cases known
          exact if_pos ordered
        next => cases known
      next => cases known

theorem readBounds_append {text rest : List Char} {least : Nat} {most : Option Nat}
    (known : readBounds flags text = some (least, most, rest)) (more : List Char) :
    readBounds flags (text ++ more) = some (least, most, rest ++ more) := by
  rw [readBounds_eq] at known ⊢
  obtain ⟨⟨count, behind⟩, read, known⟩ := Option.bind_eq_some_iff.mp known
  simp only at known
  split at known
  next =>
    cases known
    rw [readCount_skip_append read]
    rfl
  next =>
    rw [readCount_skip_append read, Option.bind_some]
    exact readMost_append known more
  next => cases known

theorem readName_append {text rest : List Char} {name : String} (known : readName text = some (name, rest))
    (more : List Char) : readName (text ++ more) = some (name, rest ++ more) := by
  unfold readName at known ⊢
  split at known
  next first inside closing behind spanned =>
    rw [span_append_of_cons spanned]
    simp only at known ⊢
    split at known
    next valid =>
      cases known
      rw [if_pos valid]
    next => cases known
  next => cases known

theorem readOpening_named_append {text : List Char} {opening : Opening}
    (known : readOpening.named flags text = some opening) (more : List Char) :
    readOpening.named flags (text ++ more) = some { opening with rest := opening.rest ++ more } := by
  unfold readOpening.named at known ⊢
  obtain ⟨⟨name, behind⟩, read, same⟩ := Option.map_eq_some_iff.mp known
  cases same
  rw [readName_append read, Option.map_some]

def readChange (flags : Flags) (text : List Char) : Option Opening :=
  (flags.change? [] true false text).bind fun (changed, behind) =>
    match behind with
    | ':' :: behind => some ⟨openGroup, changed, true, behind⟩
    | ')' :: behind => if behind.length + 1 = text.length then none else some ⟨flagChange, changed, false, behind⟩
    | _ => none

theorem readChange_append {text : List Char} {opening : Opening} (known : readChange flags text = some opening)
    (more : List Char) : readChange flags (text ++ more) = some { opening with rest := opening.rest ++ more } := by
  unfold readChange at known ⊢
  obtain ⟨⟨changed, behind⟩, changes, known⟩ := Option.bind_eq_some_iff.mp known
  rw [Flags.change?_append changes, Option.bind_some]
  simp only at known ⊢
  split at known
  next =>
    cases known
    rfl
  next behind =>
    split at known
    next => cases known
    next several =>
      cases known
      have severalMore : (behind ++ more).length + 1 ≠ (text ++ more).length := by
        rw [List.length_append, List.length_append]
        omega
      simp only [List.cons_append]
      rw [if_neg severalMore]
  next => cases known

/-- What an opening parenthesis begins does not depend on a closing one behind the text. -/
theorem readOpening_closed {text : List Char} {opening : Opening} (known : readOpening flags text = some opening) :
    ∃ left, Closed opening.rest left ∧ readOpening flags (text ++ [')']) = some { opening with rest := left } := by
  cases skipped : flags.skip text with
  | nil =>
    have closed := flags.skip_closed text
    rw [skipped] at closed
    simp only [readOpening, skipped, Option.some.injEq] at known
    subst known
    refine ⟨_, closed, ?_⟩
    unfold readOpening
    generalize flags.skip (text ++ [')']) = left at closed
    cases closed <;> rfl
  | cons first behind =>
    refine ⟨_, .behind _, ?_⟩
    have skippedMore := Flags.skip_append skipped [')']
    by_cases question : first = '?'
    · subst question
      simp only [readOpening, skipped] at known
      simp only [readOpening, skippedMore]
      split at known
      next named =>
        cases named
        exact readOpening_named_append known _
      next => cases known
      next => cases known
      next notBehind notBehindNot named =>
        -- A name behind `<`, which is none of the conditions even with the parenthesis at its end.
        cases named
        split
        next same => cases same
        next same =>
          obtain ⟨left, rfl⟩ := exists_of_closed ['='] (by decide) (List.cons.inj (List.cons.inj same).2).2
          exact (notBehind left rfl).elim
        next same =>
          obtain ⟨left, rfl⟩ := exists_of_closed ['!'] (by decide) (List.cons.inj (List.cons.inj same).2).2
          exact (notBehindNot left rfl).elim
        next same =>
          cases same
          exact readOpening_named_append known _
        next unnamed same =>
          cases same
          exact (unnamed _ rfl).elim
        next plain => exact (plain _ rfl).elim
      next notNamed notBehind notBehindNot notAngled change =>
        -- A change of flags, which does not become one of the forms before it.
        cases change
        split
        next same =>
          obtain ⟨left, rfl⟩ := exists_of_closed ['P', '<'] (by decide) (List.cons.inj same).2
          exact (notNamed left rfl).elim
        next same =>
          obtain ⟨left, rfl⟩ := exists_of_closed ['<', '='] (by decide) (List.cons.inj same).2
          exact (notBehind left rfl).elim
        next same =>
          obtain ⟨left, rfl⟩ := exists_of_closed ['<', '!'] (by decide) (List.cons.inj same).2
          exact (notBehindNot left rfl).elim
        next same =>
          obtain ⟨left, rfl⟩ := exists_of_closed ['<'] (by decide) (List.cons.inj same).2
          exact (notAngled left rfl).elim
        next same =>
          cases same
          exact readChange_append known _
        next plain => exact (plain _ rfl).elim
      next plain => exact (plain _ rfl).elim
    · simp only [readOpening, skipped, List.cons.injEq, question, false_and, imp_false, not_false_eq_true,
        implies_true] at known
      simp only [readOpening, skippedMore, List.cons.injEq, question, false_and, imp_false, not_false_eq_true,
        implies_true]
      cases known
      rfl

theorem readGreed_closed (flags : Flags) {text more : List Char} (closed : Closed text more) :
    (readGreed flags more).1 = (readGreed flags text).1 ∧ Closed (readGreed flags text).2 (readGreed flags more).2 := by
  cases closed with
  | commented => exact ⟨rfl, .commented⟩
  | behind =>
    cases text with
    | nil => exact ⟨rfl, .behind []⟩
    | cons first text =>
      by_cases mark : first = '?'
      · subst mark
        exact ⟨rfl, .behind text⟩
      · simp only [readGreed, List.cons_append, List.cons.injEq, mark, false_and, imp_false, not_false_eq_true,
          implies_true, true_and]
        exact .behind (first :: text)

structure Reading where
  lexeme : Lexeme
  flags : Flags
  outer : List Flags
  rest : List Char

def readOne (flags : Flags) (outer : List Flags) (first : Char) (rest : List Char) : Option Reading :=
  let repeated (least : Nat) (most : Option Nat) (rest : List Char) : Reading :=
    ⟨repetition least most (readGreed flags rest).1, flags, outer, (readGreed flags rest).2⟩
  match first with
  | '(' => (readOpening flags rest).map fun opening =>
    ⟨opening.lexeme, opening.flags, if opening.nested then flags :: outer else outer, opening.rest⟩
  | ')' => some ⟨closeGroup, outer.headD flags, outer.tail, rest⟩
  | '|' => some ⟨bar, flags, outer, rest⟩
  | '[' => (Bracket.read? flags rest).map fun (members, depth, rest) =>
    ⟨char (flags.leaf members) depth, flags, outer, rest⟩
  | '?' => some (repeated 0 (some 1) rest)
  | '*' => some (repeated 0 none rest)
  | '+' => some (repeated 1 none rest)
  | '\x7b' => (readBounds flags rest).map fun (least, most, rest) => repeated least most (flags.skip rest)
  | '\\' => (Escape.read? flags rest).bind fun (escape, rest) =>
    (ofEscape? flags escape).map fun lexeme => ⟨lexeme, flags, outer, rest⟩
  | '.' => flags.dot?.map fun members => ⟨char members 0, flags, outer, rest⟩
  | '^' => some ⟨assertion (caret flags), flags, outer, rest⟩
  | '$' => some ⟨assertion (dollar flags), flags, outer, rest⟩
  | value => some ⟨char (flags.leaf (flags.literal value)) 0, flags, outer, rest⟩

theorem readAll_of_skip_nil {text : List Char} (skipped : flags.skip text = []) (fuel : Nat) (outer : List Flags) :
    readAll fuel flags outer text = some [] := by
  rw [readAll.eq_def]
  simp only [skipped]

theorem readAll_zero_of_skip {text rest : List Char} {first : Char} (skipped : flags.skip text = first :: rest)
    (outer : List Flags) : readAll 0 flags outer text = none := by
  rw [readAll.eq_def]
  simp only [skipped]

theorem readAll_succ_of_skip {text rest : List Char} {first : Char} (skipped : flags.skip text = first :: rest)
    (fuel : Nat) (outer : List Flags) :
    readAll (fuel + 1) flags outer text =
      (readOne flags outer first rest).bind fun reading =>
        (readAll fuel reading.flags reading.outer reading.rest).map (reading.lexeme :: ·) := by
  rw [readAll.eq_def]
  simp only [skipped]
  unfold readOne
  split
  -- The lexemes that have to be read on, and may not be well-formed.
  case h_1 | h_4 | h_8 | h_10 => simp only [Option.bind_map, Function.comp_def]
  case h_9 => simp only [Option.bind_assoc, Option.bind_map, Function.comp_def]
  -- Any other character stands for itself.
  case h_13 => simp
  all_goals rfl

def depthBehind? (depth : Nat) : Lexeme → Option Nat
  | openGroup => some (depth + 1)
  | openCapture _ => some (depth + 1)
  | closeGroup => if depth = 0 then none else some (depth - 1)
  | _ => some depth

/-- Lexemes close all groups that they open, and as many as are open in front of them. -/
def Balanced : Nat → List Lexeme → Prop
  | depth, [] => depth = 0
  | depth, lexeme :: rest => ∃ behind, lexeme.depthBehind? depth = some behind ∧ Balanced behind rest

theorem depthBehind?_of_readOpening {text : List Char} {opening : Opening}
    (known : readOpening flags text = some opening) (depth : Nat) :
    opening.lexeme.depthBehind? depth = some (if opening.nested then depth + 1 else depth) := by
  unfold readOpening at known
  have named {rest : List Char} (known : readOpening.named flags rest = some opening) :
      opening.lexeme.depthBehind? depth = some (if opening.nested then depth + 1 else depth) := by
    obtain ⟨found, read, same⟩ := Option.map_eq_some_iff.mp known
    subst same
    rfl
  split at known
  next => exact named known
  next => cases known
  next => cases known
  next => exact named known
  next =>
    obtain ⟨⟨changed, left⟩, changes, known⟩ := Option.bind_eq_some_iff.mp known
    simp only at known
    split at known
    next =>
      cases known
      rfl
    next =>
      split at known
      next => cases known
      next =>
        cases known
        rfl
    next => cases known
  next =>
    cases known
    rfl

theorem depthBehind?_of_ofEscape? {escape : Escape} {lexeme : Lexeme} (known : ofEscape? flags escape = some lexeme)
    (depth : Nat) : lexeme.depthBehind? depth = some depth := by
  cases escape with
  | literal value byte =>
    simp only [ofEscape?, Option.ite_none_left_eq_some] at known
    cases known.2
    rfl
  | members members =>
    cases known
    rfl
  | assertion condition =>
    cases known
    rfl

theorem readOne_closed {outer : List Flags} {first : Char} {rest : List Char} {reading : Reading} {depth : Nat}
    (known : readOne flags outer first rest = some reading)
    (valid : reading.lexeme.depthBehind? outer.length = some depth) (around : Flags) :
    depth = reading.outer.length ∧ ∃ left, Closed reading.rest left ∧
      readOne flags (outer ++ [around]) first (rest ++ [')']) =
        some { reading with outer := reading.outer ++ [around], rest := left } := by
  have repeated {least : Nat} {most : Option Nat} {text more : List Char} (closed : Closed text more)
      (known : some (Reading.mk (repetition least most (readGreed flags text).1) flags outer (readGreed flags text).2) =
        some reading) :
      depth = reading.outer.length ∧ ∃ left, Closed reading.rest left ∧
        some (Reading.mk (repetition least most (readGreed flags more).1) flags (outer ++ [around])
          (readGreed flags more).2) = some { reading with outer := reading.outer ++ [around], rest := left } := by
    cases known
    cases valid
    obtain ⟨greed, left⟩ := readGreed_closed flags closed
    exact ⟨rfl, _, left, by rw [greed]⟩
  unfold readOne at known ⊢
  simp only at known ⊢
  -- One case for each character that begins a lexeme of its own. Only the parentheses change the groups around.
  split at known
  next =>
    obtain ⟨opening, read, same⟩ := Option.map_eq_some_iff.mp known
    subst same
    obtain ⟨left, closed, readMore⟩ := readOpening_closed read
    rw [depthBehind?_of_readOpening read] at valid
    cases valid
    refine ⟨?_, left, closed, ?_⟩
    · simp only
      split <;> rfl
    · rw [readMore, Option.map_some]
      simp only
      split <;> rfl
  next =>
    cases known
    cases outer with
    | nil => cases valid
    | cons inner outer =>
      cases valid
      exact ⟨rfl, _, .behind rest, rfl⟩
  next =>
    cases known
    cases valid
    exact ⟨rfl, _, .behind rest, rfl⟩
  next =>
    obtain ⟨⟨members, level, left⟩, read, same⟩ := Option.map_eq_some_iff.mp known
    cases same
    cases valid
    rw [Bracket.read?_closed read]
    exact ⟨rfl, _, .behind left, rfl⟩
  iterate 3 exact repeated (.behind rest) known
  next =>
    obtain ⟨⟨least, most, left⟩, read, same⟩ := Option.map_eq_some_iff.mp known
    rw [readBounds_append read, Option.map_some]
    exact repeated (flags.skip_closed left) (congrArg some same)
  next =>
    obtain ⟨⟨escape, left⟩, read, known⟩ := Option.bind_eq_some_iff.mp known
    obtain ⟨lexeme, escaped, same⟩ := Option.map_eq_some_iff.mp known
    cases same
    rw [Escape.read?_closed read, Option.bind_some]
    rw [depthBehind?_of_ofEscape? escaped] at valid
    cases valid
    exact ⟨rfl, _, .behind left, by simp only [escaped, Option.map_some]⟩
  next =>
    obtain ⟨members, dot, same⟩ := Option.map_eq_some_iff.mp known
    cases same
    cases valid
    rw [dot]
    exact ⟨rfl, _, .behind rest, rfl⟩
  iterate 3
    next =>
      cases known
      cases valid
      exact ⟨rfl, _, .behind rest, rfl⟩

theorem readAll_closed_of_skip_nil {fuel : Nat} {text more : List Char} (skipped : flags.skip text = [])
    (closed : Closed text more) (positive : 0 < fuel) (outer : List Flags) :
    ∃ last, (last = [closeGroup] ∨ last = []) ∧ readAll fuel flags outer more = some last := by
  obtain ⟨fuel, rfl⟩ := Nat.exists_eq_add_one_of_ne_zero (Nat.ne_of_gt positive)
  cases closed with
  | commented => exact ⟨[], .inr rfl, readAll_of_skip_nil flags.skip_nil _ _⟩
  | behind =>
    have left := flags.skip_closed text
    rw [skipped] at left
    generalize skippedMore : flags.skip (text ++ [')']) = found at left
    cases left with
    | commented => exact ⟨[], .inr rfl, readAll_of_skip_nil skippedMore _ _⟩
    | behind =>
      refine ⟨[closeGroup], .inl rfl, ?_⟩
      rw [readAll_succ_of_skip skippedMore]
      simp only [readOne, Option.bind_some, readAll_of_skip_nil (Flags.skip_nil _), Option.map_some]

/-- The lexemes of a text are read in the same way with one more group around them, which a closing parenthesis behind
the text closes unless a comment takes it in. -/
theorem readAll_closed {fuel other : Nat} {outer : List Flags} {text more : List Char} {lexemes : List Lexeme}
    (known : readAll fuel flags outer text = some lexemes) (balanced : Balanced outer.length lexemes)
    (closed : Closed text more) (enough : fuel < other) (around : Flags) :
    ∃ last, (last = [closeGroup] ∨ last = []) ∧
      readAll other flags (outer ++ [around]) more = some (lexemes ++ last) := by
  -- Every lexeme takes a step of its own in both texts; the longer one takes one more for the last parenthesis.
  induction fuel generalizing other flags outer text more lexemes with
  | zero =>
    cases skipped : flags.skip text with
    | nil =>
      rw [readAll_of_skip_nil skipped] at known
      cases known
      exact readAll_closed_of_skip_nil skipped closed enough _
    | cons first rest =>
      rw [readAll_zero_of_skip skipped] at known
      cases known
  | succ fuel ih =>
    cases skipped : flags.skip text with
    | nil =>
      rw [readAll_of_skip_nil skipped] at known
      cases known
      exact readAll_closed_of_skip_nil skipped closed (Nat.zero_lt_of_lt enough) _
    | cons first rest =>
      rw [readAll_succ_of_skip skipped] at known
      obtain ⟨reading, read, known⟩ := Option.bind_eq_some_iff.mp known
      obtain ⟨later, readLater, same⟩ := Option.map_eq_some_iff.mp known
      subst same
      obtain ⟨depth, valid, balanced⟩ := balanced
      obtain ⟨rfl, left, leftClosed, readMore⟩ := readOne_closed read valid around
      obtain ⟨other, rfl⟩ := Nat.exists_eq_add_one_of_ne_zero (Nat.ne_of_gt (Nat.zero_lt_of_lt enough))
      obtain ⟨last, ends, all⟩ := ih readLater balanced leftClosed (Nat.lt_of_succ_lt_succ enough)
      refine ⟨last, ends, ?_⟩
      cases closed with
      | commented =>
        rw [flags.skip_nil] at skipped
        cases skipped
      | behind =>
        rw [readAll_succ_of_skip (Flags.skip_append skipped _), readMore, Option.bind_some]
        simp only [all, Option.map_some, List.cons_append]

theorem readName_token (rest : List Char) : readName ("token>".toList ++ rest) = some ("token", rest) := by
  have spanned : ("token>".toList ++ rest).span (· ≠ '>') = ("token".toList, '>' :: rest) := by
    rw [List.span_eq_takeWhile_dropWhile]
    rfl
  have valid : nameStart.contains 't' && ['o', 'k', 'e', 'n'].all nameRest.contains := by decide +kernel
  unfold readName
  rw [spanned]
  exact if_pos valid

/-- The lexemes of a pattern in a group "token" are those of the pattern behind an opening one, and the end of the group
unless a comment at the end of the pattern takes it in. -/
theorem ofText?_tokenGroup {source : String} {lexemes : List Lexeme} (known : ofText? source = some lexemes)
    (balanced : Balanced 0 lexemes) :
    ∃ last, (last = [closeGroup] ∨ last = []) ∧
      ofText? (tokenGroup source) = some (openCapture (some "token") :: (lexemes ++ last)) := by
  obtain ⟨last, ends, inside⟩ := readAll_closed known balanced (.behind source.toList)
    (show source.length < source.length + 10 by omega) {}
  refine ⟨last, ends, ?_⟩
  have chars : (tokenGroup source).toList =
      '(' :: '?' :: 'P' :: '<' :: ("token>".toList ++ (source.toList ++ [')'])) := by
    rw [tokenGroup, String.toList_append, String.toList_append, List.append_assoc]
    rfl
  have size : (tokenGroup source).length = source.length + 10 + 1 := by
    rw [← String.length_toList, chars, ← String.length_toList]
    simp
  have opened : readOpening {} ('?' :: 'P' :: '<' :: ("token>".toList ++ (source.toList ++ [')']))) =
      some ⟨openCapture (some "token"), {}, true, source.toList ++ [')']⟩ := by
    have named := readName_token (source.toList ++ [')'])
    show readOpening.named _ _ = _
    rw [readOpening.named, named]
    rfl
  rw [ofText?, size, chars, readAll_succ_of_skip rfl]
  simp only [readOne, opened, Option.map_some, Option.bind_some]
  rw [if_pos trivial]
  exact congrArg (Option.map _) inside

end Lexeme

end Highlighter.Pattern
