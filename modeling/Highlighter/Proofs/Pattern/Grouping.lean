import Highlighter.Proofs.Pattern.Closing
import Highlighter.Proofs.Pattern.Outcomes
import Highlighter.Proofs.Unicode.Comparison

/-!
The expression of a pattern in a group. Lexemes that are read by themselves are read inside a group in the same way, so
that the expression of the group is a capture of theirs. Where no lexeme opens a group "token", no part of the
expression is one.
-/

namespace Highlighter.Pattern

open Unicode

namespace Expr

theorem length_of_readLexeme {group read : Group} {around outer : List Group} {lexeme : Lexeme}
    (known : readLexeme group around lexeme = some (read, outer)) :
    lexeme.depthBehind? around.length = some outer.length := by
  cases lexeme with
  | closeGroup =>
    cases around with
    | nil => cases known
    | cons next around =>
      cases known
      rfl
  | repetition least most greedy =>
    simp only [readLexeme] at known
    split at known
    next => cases known
    next =>
      split at known
      next =>
        cases known
        rfl
      next => cases known
  | char | assertion | flagChange | bar | openGroup | openCapture =>
    cases known
    rfl

theorem balanced_of_readLexemes {group : Group} {around : List Group} {lexemes : List Lexeme} {part : Part}
    (known : readLexemes group around lexemes = some part) : Lexeme.Balanced around.length lexemes := by
  induction lexemes generalizing group around with
  | nil =>
    simp only [readLexemes, Option.ite_none_right_eq_some] at known
    exact List.length_eq_zero_iff.mpr (List.isEmpty_iff.mp known.1)
  | cons lexeme rest ih =>
    obtain ⟨⟨read, outer⟩, step, later⟩ := Option.bind_eq_some_iff.mp known
    exact ⟨outer.length, length_of_readLexeme step, ih later⟩

section Nested

variable (capture : Option Bool) (outer : Group)

/-- The groups that are open inside another one, which is around them. The outermost of them captures as said. -/
def nested (group : Group) : List Group → Group × List Group
  | [] => ({ group with capture }, [outer])
  | next :: around => (group, (nested next around).1 :: (nested next around).2)

variable {capture outer}

theorem parts_nested (group : Group) (around : List Group) :
    (nested capture outer group around).1.parts = group.parts := by
  cases around <;> rfl

theorem nested_change (change : Group → Group)
    (keeps : ∀ group capture, change { group with capture } = { change group with capture }) (group : Group)
    (around : List Group) :
    (change (nested capture outer group around).1, (nested capture outer group around).2) =
      nested capture outer (change group) around := by
  cases around with
  | nil => exact Prod.ext (keeps group capture) rfl
  | cons next around => rfl

theorem readLexeme_nested {group read : Group} {around left : List Group} {lexeme : Lexeme}
    (known : readLexeme group around lexeme = some (read, left)) :
    readLexeme (nested capture outer group around).1 (nested capture outer group around).2 lexeme =
      some (nested capture outer read left) := by
  cases lexeme with
  | char members depth =>
    cases known
    exact congrArg some (nested_change (·.push ⟨char members, depth, true⟩) (fun _ _ => rfl) group _)
  | assertion condition =>
    cases known
    exact congrArg some (nested_change (·.push ⟨assertion condition, 0, true⟩) (fun _ _ => rfl) group _)
  | flagChange =>
    cases known
    exact congrArg some (nested_change (·.push ⟨empty, 0, false⟩) (fun _ _ => rfl) group _)
  | bar =>
    cases known
    rw [← nested_change (fun group =>
      { group with branches := .concat group.parts.reverse :: group.branches, parts := [] }) (fun _ _ => rfl) group]
    rfl
  | openGroup | openCapture =>
    cases known
    rfl
  | closeGroup =>
    cases around with
    | nil => cases known
    | cons next around =>
      cases known
      exact congrArg some (nested_change (·.push group.close) (fun _ _ => rfl) next _)
  | repetition least most greedy =>
    simp only [readLexeme, parts_nested] at known ⊢
    split at known
    next => cases known
    next part parts first =>
      split at known
      next repeatable =>
        cases known
        rw [if_pos repeatable, ← nested_change (fun group =>
          { group with parts := ⟨part.expr.repeated least most greedy, part.depth + 1, true⟩ :: parts })
          (fun _ _ => rfl) group]
      next => cases known

/-- Lexemes that are read by themselves up to an end are read inside a group up to the end of its content. -/
theorem readLexemes_nested {group : Group} {around : List Group} {lexemes : List Lexeme} {part : Part}
    (known : readLexemes group around lexemes = some part) (capture : Option Bool) (outer : Group) :
    ∃ inner : Group, inner.content = part ∧ ∀ more,
      readLexemes (nested capture outer group around).1 (nested capture outer group around).2 (lexemes ++ more) =
        readLexemes { inner with capture } [outer] more := by
  induction lexemes generalizing group around with
  | nil =>
    simp only [readLexemes, Option.ite_none_right_eq_some, Option.some.injEq] at known
    obtain ⟨closed, same⟩ := known
    obtain rfl := List.isEmpty_iff.mp closed
    exact ⟨group, same, fun more => rfl⟩
  | cons lexeme rest ih =>
    obtain ⟨⟨read, left⟩, step, later⟩ := Option.bind_eq_some_iff.mp known
    obtain ⟨inner, content, goesOn⟩ := ih later
    refine ⟨inner, content, fun more => ?_⟩
    rw [List.cons_append, readLexemes, readLexeme_nested step, Option.bind_some]
    exact goesOn more

end Nested

theorem readLexemes_token {lexemes : List Lexeme} {part whole : Part}
    (known : readLexemes { capture := none } [] lexemes = some part) {last : List Lexeme}
    (ends : last = [.closeGroup] ∨ last = [])
    (read : readLexemes { capture := none } [] (.openCapture (some "token") :: (lexemes ++ last)) = some whole) :
    whole.expr = capture true part.expr := by
  obtain ⟨inner, rfl, goesOn⟩ := readLexemes_nested known (some true) { capture := none }
  have opened : readLexemes { capture := none } [] (.openCapture (some "token") :: (lexemes ++ last)) =
      readLexemes { inner with capture := some true } [{ capture := none }] last := goesOn last
  rw [opened] at read
  rcases ends with rfl | rfl
  · cases read
    rfl
  · cases read

/-- Expressions that are built alike match alike, so that any of them can stand for the others where branches share
them. -/
theorem way_eq_of_same {left right : Expr} (known : left.same right = true) : left.way = right.way := by
  fun_induction same left right with
  | case1 => rfl
  | case2 left right =>
    have agree := CharClass.contains_eq_of_same (Bool.and_eq_true_iff.mp known).1
    funext follow before text
    simp only [way, Way.reading, agree]
  | case3 left right => rw [of_decide_eq_true known]
  | case4 left leftLeast leftMost leftGreedy right rightLeast rightMost rightGreedy ih =>
    simp only [Bool.and_eq_true, decide_eq_true_eq] at known
    obtain ⟨⟨⟨rfl, rfl⟩, rfl⟩, inner⟩ := known
    simp only [way, ih inner]
  | case5 leftFirst leftSecond rightFirst rightSecond firstIh secondIh
  | case6 leftFirst leftSecond rightFirst rightSecond firstIh secondIh =>
    obtain ⟨first, second⟩ := Bool.and_eq_true_iff.mp known
    simp only [way, firstIh first, secondIh second]
  | case7 => cases known

section Named

variable {expr : Expr} {parts : List Expr}

theorem named_of_mem_elements (unnamed : expr.named = false) : ∀ part ∈ expr.elements, part.named = false := by
  induction expr with
  | empty => exact fun part member => absurd member List.not_mem_nil
  | seq first second firstIh secondIh =>
    obtain ⟨firstUnnamed, secondUnnamed⟩ := Bool.or_eq_false_iff.mp unnamed
    exact List.forall_mem_append.mpr ⟨firstIh firstUnnamed, secondIh secondUnnamed⟩
  | char | assertion | capture | repetition | choice => exact List.forall_mem_singleton.mpr unnamed

theorem named_of_mem_branches (unnamed : expr.named = false) : ∀ part ∈ expr.branches, part.named = false := by
  induction expr with
  | choice first second firstIh secondIh =>
    obtain ⟨firstUnnamed, secondUnnamed⟩ := Bool.or_eq_false_iff.mp unnamed
    exact List.forall_mem_append.mpr ⟨firstIh firstUnnamed, secondIh secondUnnamed⟩
  | empty | char | assertion | capture | repetition | seq => exact List.forall_mem_singleton.mpr unnamed

theorem named_ofElements (unnamed : ∀ part ∈ parts, part.named = false) : (ofElements parts).named = false := by
  fun_induction ofElements parts with
  | case1 => rfl
  | case2 only => exact unnamed only (List.mem_singleton_self only)
  | case3 first rest several ih =>
    obtain ⟨firstUnnamed, restUnnamed⟩ := List.forall_mem_cons.mp unnamed
    exact Bool.or_eq_false_iff.mpr ⟨firstUnnamed, ih restUnnamed⟩

theorem named_ofBranches (unnamed : ∀ part ∈ parts, part.named = false) : (ofBranches parts).named = false := by
  fun_induction ofBranches parts with
  | case1 => rfl
  | case2 only => exact unnamed only (List.mem_singleton_self only)
  | case3 first rest several ih =>
    obtain ⟨firstUnnamed, restUnnamed⟩ := List.forall_mem_cons.mp unnamed
    exact Bool.or_eq_false_iff.mpr ⟨firstUnnamed, ih restUnnamed⟩

theorem named_concat (unnamed : ∀ part ∈ parts, part.named = false) : (concat parts).named = false := by
  refine named_ofElements fun element member => ?_
  obtain ⟨part, inParts, inside⟩ := List.mem_flatMap.mp member
  exact named_of_mem_elements (unnamed part inParts) element inside

theorem named_of_mem_flatMap_branches (unnamed : ∀ part ∈ parts, part.named = false) :
    ∀ branch ∈ parts.flatMap branches, branch.named = false := by
  intro branch member
  obtain ⟨part, inParts, inside⟩ := List.mem_flatMap.mp member
  exact named_of_mem_branches (unnamed part inParts) branch inside

theorem named_choose (unnamed : ∀ part ∈ parts, part.named = false) : (choose parts).named = false := by
  unfold choose
  simp only
  split
  · rfl
  · exact named_ofBranches (named_of_mem_flatMap_branches unnamed)

theorem commonElements_subset (lefts rights : List Expr) : commonElements lefts rights ⊆ lefts := by
  fun_induction commonElements lefts rights with
  | case1 left lefts right rights same ih => exact List.cons_subset_cons left ih
  | case2 left lefts right rights other => exact List.nil_subset _
  | case3 lefts rights ended => exact List.nil_subset _

theorem foldl_commonElements_subset (first : List Expr) (rest : List (List Expr)) :
    rest.foldl commonElements first ⊆ first := by
  induction rest generalizing first with
  | nil => exact List.Subset.refl _
  | cons next rest ih => exact List.Subset.trans (ih _) (commonElements_subset first next)

theorem wholeLiterals_subset (common : List Expr) (branches : List (List Expr)) :
    wholeLiterals common branches ⊆ common := by
  unfold wholeLiterals
  split
  · intro element member
    have kept := (List.dropWhile_sublist isLiteral).subset (List.mem_reverse.mp member)
    exact List.mem_reverse.mp kept
  · exact List.Subset.refl _

theorem named_of_mem_commonFront (unnamed : ∀ part ∈ parts, part.named = false) :
    ∀ element ∈ commonFront parts, element.named = false := by
  cases parts with
  | nil => exact fun element member => absurd member List.not_mem_nil
  | cons first rest =>
    intro element member
    simp only [commonFront, List.map_cons] at member
    split at member
    · exact absurd member List.not_mem_nil
    · exact named_of_mem_elements (List.forall_mem_cons.mp unnamed).1 element
        (foldl_commonElements_subset _ _ (wholeLiterals_subset _ _ member))

theorem named_alternation (unnamed : ∀ part ∈ parts, part.named = false) : (alternation parts).named = false := by
  have branchUnnamed := named_of_mem_flatMap_branches unnamed
  unfold alternation
  simp only
  generalize parts.flatMap branches = branches at branchUnnamed
  split
  next only => exact branchUnnamed only (List.mem_singleton_self only)
  next => exact named_choose branchUnnamed
  next =>
    refine named_ofElements (List.forall_mem_append.mpr
      ⟨named_of_mem_commonFront branchUnnamed, List.forall_mem_singleton.mpr (named_choose ?_)⟩)
    refine List.forall_mem_map.mpr fun branch member => named_ofElements fun element inside => ?_
    exact named_of_mem_elements (branchUnnamed branch member) element (List.mem_of_mem_drop inside)

theorem named_repeated (unnamed : expr.named = false) (least : Nat) (most : Option Nat) (greedy : Bool) :
    (expr.repeated least most greedy).named = false := by
  unfold repeated
  split
  split
  · rfl
  · split <;> exact unnamed

end Named

structure Group.Unnamed (group : Group) : Prop where
  capture : group.capture ≠ some true
  branches : ∀ part ∈ group.branches, part.expr.named = false
  parts : ∀ part ∈ group.parts, part.expr.named = false

namespace Group.Unnamed

variable {group : Group}

theorem push (unnamed : group.Unnamed) {part : Part} (partUnnamed : part.expr.named = false) :
    (group.push part).Unnamed :=
  ⟨unnamed.capture, unnamed.branches, List.forall_mem_cons.mpr ⟨partUnnamed, unnamed.parts⟩⟩

theorem branch (unnamed : group.Unnamed) : (Part.concat group.parts.reverse).expr.named = false := by
  refine named_concat (List.forall_mem_map.mpr fun part member => ?_)
  exact unnamed.parts part (List.mem_reverse.mp member)

theorem content (unnamed : group.Unnamed) : group.content.expr.named = false := by
  refine named_alternation (List.forall_mem_map.mpr fun part member => ?_)
  rcases List.mem_cons.mp (List.mem_reverse.mp member) with rfl | earlier
  · exact unnamed.branch
  · exact unnamed.branches part earlier

theorem close (unnamed : group.Unnamed) : group.close.expr.named = false := by
  have content := unnamed.content
  cases captures : group.capture with
  | none => simpa only [Group.close, captures] using content
  | some token =>
    cases token with
    | true => exact absurd captures unnamed.capture
    | false => simpa only [Group.close, captures, named, Bool.false_or] using content

end Group.Unnamed

theorem unnamed_of_readLexeme {group read : Group} {around left : List Group} {lexeme : Lexeme}
    (known : readLexeme group around lexeme = some (read, left)) (other : lexeme.groupName? ≠ some "token")
    (unnamed : group.Unnamed) (aroundUnnamed : ∀ outer ∈ around, outer.Unnamed) :
    read.Unnamed ∧ ∀ outer ∈ left, outer.Unnamed := by
  cases lexeme with
  | char | assertion | flagChange =>
    cases known
    exact ⟨unnamed.push rfl, aroundUnnamed⟩
  | bar =>
    cases known
    exact ⟨⟨unnamed.capture, List.forall_mem_cons.mpr ⟨unnamed.branch, unnamed.branches⟩, nofun⟩, aroundUnnamed⟩
  | openGroup =>
    cases known
    exact ⟨⟨nofun, nofun, nofun⟩, List.forall_mem_cons.mpr ⟨unnamed, aroundUnnamed⟩⟩
  | openCapture name =>
    cases known
    refine ⟨⟨fun same => other ?_, nofun, nofun⟩, List.forall_mem_cons.mpr ⟨unnamed, aroundUnnamed⟩⟩
    simpa [Lexeme.groupName?] using same
  | closeGroup =>
    cases around with
    | nil => cases known
    | cons next around =>
      cases known
      obtain ⟨nextUnnamed, leftUnnamed⟩ := List.forall_mem_cons.mp aroundUnnamed
      exact ⟨nextUnnamed.push unnamed.close, leftUnnamed⟩
  | repetition least most greedy =>
    simp only [readLexeme] at known
    split at known
    next => cases known
    next part parts all =>
      split at known
      next =>
        cases known
        have partsUnnamed := unnamed.parts
        rw [all] at partsUnnamed
        obtain ⟨partUnnamed, restUnnamed⟩ := List.forall_mem_cons.mp partsUnnamed
        exact ⟨⟨unnamed.capture, unnamed.branches,
          List.forall_mem_cons.mpr ⟨named_repeated partUnnamed least most greedy, restUnnamed⟩⟩, aroundUnnamed⟩
      next => cases known

theorem named_of_readLexemes {group : Group} {around : List Group} {lexemes : List Lexeme} {part : Part}
    (known : readLexemes group around lexemes = some part) (others : "token" ∉ lexemes.filterMap Lexeme.groupName?)
    (unnamed : group.Unnamed) (aroundUnnamed : ∀ outer ∈ around, outer.Unnamed) : part.expr.named = false := by
  induction lexemes generalizing group around with
  | nil =>
    simp only [readLexemes, Option.ite_none_right_eq_some, Option.some.injEq] at known
    obtain ⟨-, rfl⟩ := known
    exact unnamed.content
  | cons lexeme rest ih =>
    obtain ⟨⟨read, left⟩, step, later⟩ := Option.bind_eq_some_iff.mp known
    have other : lexeme.groupName? ≠ some "token" := fun same =>
      others (List.mem_filterMap.mpr ⟨lexeme, List.mem_cons_self, same⟩)
    have restOthers : "token" ∉ rest.filterMap Lexeme.groupName? := fun member =>
      others ((List.sublist_cons_self lexeme rest).filterMap _ |>.subset member)
    obtain ⟨readUnnamed, leftUnnamed⟩ := unnamed_of_readLexeme step other unnamed aroundUnnamed
    exact ih later restOthers readUnnamed leftUnnamed

/-- The expression of a pattern in a group "token". Names of groups are different, so there is no such group inside. -/
theorem ofText?_tokenGroup {source : String} {expr whole : Expr} (known : ofText? source = some expr)
    (wrapped : ofText? (tokenGroup source) = some whole) : whole = capture true expr ∧ expr.named = false := by
  obtain ⟨lexemes, read, ofLexemes⟩ := Option.bind_eq_some_iff.mp known
  simp only [ofLexemes?, Option.ite_none_right_eq_some] at ofLexemes
  obtain ⟨-, built⟩ := ofLexemes
  obtain ⟨part, parsed, fits⟩ := Option.bind_eq_some_iff.mp built
  obtain ⟨-, same⟩ := Option.ite_none_right_eq_some.mp fits
  cases same
  obtain ⟨last, ends, readWrapped⟩ := Lexeme.ofText?_tokenGroup read (balanced_of_readLexemes parsed)
  rw [ofText?, readWrapped, Option.bind_some] at wrapped
  simp only [ofLexemes?, Option.ite_none_right_eq_some] at wrapped
  obtain ⟨different, built⟩ := wrapped
  obtain ⟨wholePart, wholeParsed, fits⟩ := Option.bind_eq_some_iff.mp built
  obtain ⟨-, same⟩ := Option.ite_none_right_eq_some.mp fits
  cases same
  have others : "token" ∉ lexemes.filterMap Lexeme.groupName? := fun member => by
    have names : (Lexeme.openCapture (some "token") :: (lexemes ++ last)).filterMap Lexeme.groupName? =
        "token" :: (lexemes ++ last).filterMap Lexeme.groupName? := rfl
    rw [names, List.nodup_cons, List.filterMap_append] at different
    exact different.1 (List.mem_append_left _ member)
  exact ⟨readLexemes_token parsed ends wholeParsed,
    named_of_readLexemes parsed others ⟨nofun, nofun, nofun⟩ nofun⟩

end Expr

end Highlighter.Pattern
