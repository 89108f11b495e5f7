import Highlighter.Proofs.Pattern.Grouping

/-!
The group "token" around a whole expression. It begins and ends with each match, whatever the machine inside it prefers,
so that the intervals of the group are the matches of the expression without it.
-/

namespace Highlighter.Pattern

namespace Outcome

def closedAtEnd (outcome : Outcome) : Outcome := ⟨outcome.size, none, some outcome.size⟩

def asToken (outcome : Outcome) : Outcome := ⟨outcome.size, some 0, some outcome.size⟩

theorem closedAtEnd_advance (outcome : Outcome) : outcome.closedAtEnd.advance = outcome.advance.closedAtEnd := rfl

theorem openToken_comp_closedAtEnd : openToken ∘ closedAtEnd = asToken := rfl

end Outcome

namespace Attempt

variable (change : Outcome → Outcome) (first second : Attempt)

theorem map_orElse : (first.map change).orElse (second.map change) = (first.orElse second).map change := by
  funext marks
  simp only [map, orElse]
  obtain ⟨reached, passed⟩ := first marks
  cases reached <;> rfl

theorem map_passing (mark : Nat) (next : Attempt) :
    passing mark (next.map change) = (passing mark next).map change := by
  funext marks
  simp only [map, passing]
  split <;> rfl

theorem map_again (mark : Nat) (greedy : Bool) (run follow : Attempt) :
    Machine.again mark greedy (run.map change) (follow.map change) =
      (Machine.again mark greedy run follow).map change := by
  cases greedy <;> simp [Machine.again, map_orElse, map_passing]

end Attempt

namespace Machine

/-- The machine whose character leaves have learned something else of the same matches. -/
def relabel (change : Outcome → Outcome) : Machine → Machine
  | empty => empty
  | char members next => char members (next.map change)
  | assertion condition => assertion condition
  | token inner => token (inner.relabel change)
  | seq first second => seq (first.relabel change) (second.relabel change)
  | choice first second => choice (first.relabel change) (second.relabel change)
  | marked mark inner => marked mark (inner.relabel change)
  | loop mark greedy body => loop mark greedy (body.relabel change)

theorem relabel_of_known_eq_nil {machine : Machine} (known : machine.known = []) (change : Outcome → Outcome) :
    machine.relabel change = machine := by
  induction machine with
  | empty => rfl
  | char members next =>
    cases next with
    | none => rfl
    | some outcome => cases known
  | assertion condition => rfl
  | token inner ih => exact congrArg token (ih known)
  | seq first second firstIh secondIh =>
    obtain ⟨firstKnown, secondKnown⟩ := List.append_eq_nil_iff.mp known
    rw [relabel, firstIh firstKnown, secondIh secondKnown]
  | choice first second firstIh secondIh =>
    obtain ⟨firstKnown, secondKnown⟩ := List.append_eq_nil_iff.mp known
    rw [relabel, firstIh firstKnown, secondIh secondKnown]
  | marked mark inner ih => exact congrArg (marked mark) (ih known)
  | loop mark greedy body ih => exact congrArg (loop mark greedy) (ih known)

theorem hasToken_update (here : Position) (machine : Machine) (follow : Attempt) (outcome : Option Outcome) :
    (machine.update here follow outcome).hasToken = machine.hasToken := by
  induction machine generalizing follow outcome with
  | empty => rfl
  | char members next => rfl
  | assertion condition => rfl
  | token inner ih => rfl
  | seq first second firstIh secondIh => simp only [update, hasToken, firstIh, secondIh]
  | choice first second firstIh secondIh => simp only [update, hasToken, firstIh, secondIh]
  | marked mark inner ih => exact ih follow outcome
  | loop mark greedy body ih => exact ih _ _

section Relabel

variable {change : Outcome → Outcome} (commutes : ∀ outcome, (change outcome).advance = change outcome.advance)
  (here : Position) {machine : Machine}

include commutes

/-- A change that matches keep as they grow goes through a machine without groups. -/
theorem enter_relabel (tokenless : machine.hasToken = false) (follow : Attempt) :
    (machine.relabel change).enter here (follow.map change) = (machine.enter here follow).map change := by
  induction machine generalizing follow with
  | empty => rfl
  | char members next =>
    have grown : Outcome.advance ∘ change = change ∘ Outcome.advance := funext commutes
    funext marks
    simp only [relabel, enter, Attempt.map]
    split
    · rw [Option.map_map, Option.map_map, grown]
    · rfl
  | assertion condition =>
    simp only [relabel, enter]
    split <;> rfl
  | token inner ih => cases tokenless
  | seq first second firstIh secondIh =>
    obtain ⟨firstTokenless, secondTokenless⟩ := Bool.or_eq_false_iff.mp tokenless
    rw [relabel, enter, secondIh secondTokenless, firstIh firstTokenless, enter]
  | choice first second firstIh secondIh =>
    obtain ⟨firstTokenless, secondTokenless⟩ := Bool.or_eq_false_iff.mp tokenless
    rw [relabel, enter, secondIh secondTokenless, firstIh firstTokenless, Attempt.map_orElse, enter]
  | marked mark inner ih => rw [relabel, enter, ih tokenless, Attempt.map_passing, enter]
  | loop mark greedy body ih =>
    have failing : (body.relabel change).enter here .fail = (body.enter here .fail).map change := ih tokenless .fail
    rw [relabel, enter, failing, Attempt.map_again, ih tokenless, enter]

theorem update_relabel (tokenless : machine.hasToken = false) (follow : Attempt) (outcome : Option Outcome) :
    (machine.relabel change).update here (follow.map change) (outcome.map change) =
      (machine.update here follow outcome).relabel change := by
  induction machine generalizing follow outcome with
  | empty => rfl
  | char members next => rfl
  | assertion condition => rfl
  | token inner ih => cases tokenless
  | seq first second firstIh secondIh =>
    obtain ⟨firstTokenless, secondTokenless⟩ := Bool.or_eq_false_iff.mp tokenless
    simp only [relabel, update]
    rw [enter_relabel commutes here secondTokenless, secondIh secondTokenless, ← firstIh firstTokenless]
    rfl
  | choice first second firstIh secondIh =>
    obtain ⟨firstTokenless, secondTokenless⟩ := Bool.or_eq_false_iff.mp tokenless
    simp only [relabel, update]
    rw [firstIh firstTokenless, secondIh secondTokenless]
  | marked mark inner ih => exact congrArg (marked mark) (ih tokenless follow outcome)
  | loop mark greedy body ih =>
    have bodyTokenless : body.hasToken = false := tokenless
    have failing : (body.relabel change).enter here .fail = (body.enter here .fail).map change :=
      enter_relabel commutes here bodyTokenless .fail
    simp only [relabel, update]
    rw [failing, Attempt.map_again, ← ih tokenless]
    rfl

end Relabel

/-- The state of a machine in a group "token", told by the state of the machine without it. -/
def inToken (state : Machine × List (Option Outcome)) : Machine × List (Option Outcome) :=
  (token (state.1.relabel Outcome.closedAtEnd), state.2.map (Option.map Outcome.asToken))

theorem step_inToken (here : Position) {state : Machine × List (Option Outcome)}
    (tokenless : state.1.hasToken = false) : step here (inToken state) = inToken (step here state) := by
  have entered := enter_relabel Outcome.closedAtEnd_advance here tokenless .done
  have updated := update_relabel Outcome.closedAtEnd_advance here tokenless .done (some {})
  have done : Attempt.done.map Outcome.closeToken = Attempt.done.map Outcome.closedAtEnd := rfl
  have ended : (some {} : Option Outcome).map Outcome.closeToken = (some {}).map Outcome.closedAtEnd := rfl
  simp only [step, inToken, update, enter, done, ended, updated, entered, List.map_cons]
  simp only [Attempt.outcome, Attempt.map, Option.map_map, Outcome.openToken_comp_closedAtEnd]

theorem foldr_step_inToken {machine : Machine} (tokenless : machine.hasToken = false) (positions : List Position) :
    positions.foldr step (inToken (machine, [])) = inToken (positions.foldr step (machine, [])) ∧
      (positions.foldr step (machine, [])).1.hasToken = false := by
  induction positions with
  | nil => exact ⟨rfl, tokenless⟩
  | cons here rest ih =>
    obtain ⟨same, kept⟩ := ih
    rw [List.foldr_cons, List.foldr_cons, same]
    exact ⟨step_inToken here kept, (hasToken_update ..).trans kept⟩

theorem outcomes_token {machine : Machine} (tokenless : machine.hasToken = false) (known : machine.known = [])
    (text : List Char) : (token machine).outcomes text = (machine.outcomes text).map (Option.map Outcome.asToken) := by
  have run := (foldr_step_inToken tokenless (positions text)).1
  have start : inToken (machine, []) = (token machine, []) := by rw [inToken, relabel_of_known_eq_nil known]; rfl
  rw [start] at run
  rw [outcomes, run]
  rfl

end Machine

def Match.asToken (found : Match) : Match := { found with token := some found.whole }

theorem match?_asToken (outcome : Outcome) (start : Nat) :
    outcome.asToken.match? start = (outcome.match? start).map Match.asToken := by
  simp only [Outcome.match?, Outcome.asToken, Nat.add_zero]
  cases Interval.between? start (start + outcome.size) <;> rfl

theorem scan_map_asToken (skip start : Nat) (outcomes : List (Option Outcome)) :
    scan skip start (outcomes.map (Option.map Outcome.asToken)) = (scan skip start outcomes).map Match.asToken := by
  induction outcomes generalizing skip start with
  | nil => rfl
  | cons outcome rest ih =>
    cases skip with
    | succ skip => exact ih skip (start + 1)
    | zero =>
      have matched : (outcome.map Outcome.asToken).bind (·.match? start) =
          (outcome.bind (·.match? start)).map Match.asToken := by
        cases outcome with
        | none => rfl
        | some outcome => exact match?_asToken outcome start
      rw [List.map_cons, scan, matched, scan]
      cases outcome.bind (·.match? start) with
      | none => exact ih 0 (start + 1)
      | some found => exact congrArg (found.asToken :: ·) (ih _ (start + 1))

theorem intervals_token {machine : Machine} (tokenless : machine.hasToken = false) (known : machine.known = [])
    (source other : String) (text : List Char) :
    (Pattern.mk other (.token machine)).intervals text = (Pattern.mk source machine).intervals text := by
  have searched : (Pattern.mk other (.token machine)).search text =
      ((Pattern.mk source machine).search text).map Match.asToken := by
    rw [search, Machine.outcomes_token tokenless known, scan_map_asToken, search]
  have narrowed : (Pattern.mk other (.token machine)).narrowed = true := rfl
  have whole : (Pattern.mk source machine).narrowed = false := tokenless
  have told : (fun found : Match => found.token) ∘ Match.asToken = some ∘ fun found => found.whole := rfl
  rw [intervals, narrowed, if_pos rfl, searched, intervals, whole, if_neg Bool.false_ne_true, List.filterMap_map, told,
    List.filterMap_eq_map]

/-- A pattern reports its matches, the same pattern in a group "token" reports that group, and both report the same. -/
theorem intervals_tokenGroup {source : String} {plain wrapped : Pattern} (plainValid : ofText? source = some plain)
    (wrappedValid : ofText? (tokenGroup source) = some wrapped) :
    plain.narrowed = false ∧ wrapped.narrowed = true ∧ ∀ text, wrapped.intervals text = plain.intervals text := by
  obtain ⟨expr, read, rfl⟩ := Option.map_eq_some_iff.mp plainValid
  obtain ⟨whole, readWhole, rfl⟩ := Option.map_eq_some_iff.mp wrappedValid
  obtain ⟨rfl, unnamed⟩ := Expr.ofText?_tokenGroup read readWhole
  have tokenless : (Machine.ofExpr expr).hasToken = false := Machine.Build.unnamed_ofExpr unnamed 0
  exact ⟨tokenless, rfl, intervals_token tokenless (Machine.Build.known_ofExpr expr 0) source (tokenGroup source)⟩

end Highlighter.Pattern
