import Highlighter.Pattern.Search
import Mathlib.Data.List.Basic

/-!
Where matches lie. A machine tells for each position of a text how far its match reaches; no match reaches past the
end of the text, and none begins before the one in front of it has ended.
-/

namespace Highlighter.Pattern

/-- A match that ends within the next `room` characters, and its group "token" within itself. -/
def Outcome.Fits (room : Nat) (outcome : Outcome) : Prop :=
  outcome.size ≤ room ∧ ∀ stop ∈ outcome.tokenStop, stop ≤ outcome.size

namespace Outcome

theorem fits_advance {room : Nat} {outcome : Outcome} (fits : outcome.Fits room) :
    outcome.advance.Fits (room + 1) := by
  obtain ⟨size, token⟩ := fits
  refine ⟨by simp only [advance]; omega, ?_⟩
  intro stop member
  simp only [advance, Option.mem_def, Option.map_eq_some_iff] at member
  obtain ⟨before, known, rfl⟩ := member
  have inside := token before known
  simp only [advance]
  omega

theorem fits_openToken {room : Nat} {outcome : Outcome} (fits : outcome.Fits room) :
    outcome.openToken.Fits room := fits

theorem fits_closeToken {room : Nat} {outcome : Outcome} (fits : outcome.Fits room) :
    outcome.closeToken.Fits room := by
  refine ⟨fits.1, ?_⟩
  intro stop member
  cases known : outcome.tokenStop with
  | none =>
    simp only [closeToken, known, Option.mem_def] at member
    cases member
    exact Nat.zero_le _
  | some last =>
    simp only [closeToken, known, Option.mem_def] at member
    cases member
    exact fits.2 stop known

end Outcome

def Attempt.Fits (room : Nat) (attempt : Attempt) : Prop :=
  ∀ marks, ∀ outcome ∈ (attempt marks).1, outcome.Fits room

namespace Attempt

theorem fits_done (room : Nat) : done.Fits room := by
  intro marks outcome member
  cases member
  exact ⟨Nat.zero_le _, by simp⟩

theorem fits_fail (room : Nat) : fail.Fits room := by
  intro marks outcome member
  cases member

theorem fits_orElse {room : Nat} {first second : Attempt} (firstFits : first.Fits room)
    (secondFits : second.Fits room) : (first.orElse second).Fits room := by
  intro marks outcome member
  simp only [orElse] at member
  split at member
  next found _ attempted =>
    cases member
    exact firstFits marks outcome (by rw [attempted]; rfl)
  next later _ => exact secondFits later outcome member

theorem fits_passing {room mark : Nat} {next : Attempt} (fits : next.Fits room) :
    (passing mark next).Fits room := by
  intro marks outcome member
  simp only [passing] at member
  split at member
  · cases member
  · exact fits _ outcome member

theorem fits_map {room : Nat} {change : Outcome → Outcome} {attempt : Attempt} (fits : attempt.Fits room)
    (keeps : ∀ outcome : Outcome, outcome.Fits room → (change outcome).Fits room) :
    (attempt.map change).Fits room := by
  intro marks outcome member
  simp only [map, Option.mem_def, Option.map_eq_some_iff] at member
  obtain ⟨inner, known, rfl⟩ := member
  exact keeps inner (fits marks inner known)

theorem fits_again {room mark : Nat} {greedy : Bool} {run follow : Attempt} (runFits : run.Fits room)
    (followFits : follow.Fits room) : (Machine.again mark greedy run follow).Fits room := by
  apply fits_passing
  cases greedy with
  | false => exact fits_orElse followFits runFits
  | true => exact fits_orElse runFits followFits

end Attempt

namespace Machine

def known : Machine → List Outcome
  | empty => []
  | char _ next => next.toList
  | assertion _ => []
  | token inner => inner.known
  | seq first second => first.known ++ second.known
  | choice first second => first.known ++ second.known
  | marked _ inner => inner.known
  | loop _ _ body => body.known

/-- What the leaves have learned fits behind the character at the position, if there is one. -/
def Ready (here : Position) (room : Nat) (machine : Machine) : Prop :=
  ∀ outcome ∈ machine.known, here.after ≠ none → outcome.advance.Fits room

theorem ready_seq_iff {here : Position} {room : Nat} {first second : Machine} :
    (seq first second).Ready here room ↔ first.Ready here room ∧ second.Ready here room := List.forall_mem_append

theorem ready_choice_iff {here : Position} {room : Nat} {first second : Machine} :
    (choice first second).Ready here room ↔ first.Ready here room ∧ second.Ready here room := List.forall_mem_append

theorem fits_enter {here : Position} {room : Nat} {machine : Machine} {follow : Attempt}
    (ready : machine.Ready here room) (fits : follow.Fits room) : (machine.enter here follow).Fits room := by
  induction machine generalizing follow with
  | empty => exact fits
  | char members next =>
    intro marks outcome member
    simp only [enter] at member
    split at member
    next inside =>
      obtain ⟨learned, same, rfl⟩ := Option.map_eq_some_iff.mp member
      apply ready learned (by simp [known, same])
      intro absent
      simp [isIn, absent] at inside
    next => cases member
  | assertion condition =>
    simp only [enter]
    split
    · exact fits
    · exact Attempt.fits_fail room
  | token inner ih =>
    have closed := Attempt.fits_map fits fun _ => Outcome.fits_closeToken
    exact Attempt.fits_map (ih ready closed) fun _ => Outcome.fits_openToken
  | seq first second firstIh secondIh =>
    obtain ⟨firstReady, secondReady⟩ := ready_seq_iff.mp ready
    exact firstIh firstReady (secondIh secondReady fits)
  | choice first second firstIh secondIh =>
    obtain ⟨firstReady, secondReady⟩ := ready_choice_iff.mp ready
    exact Attempt.fits_orElse (firstIh firstReady fits) (secondIh secondReady fits)
  | marked mark inner ih => exact Attempt.fits_passing (ih ready fits)
  | loop mark greedy body ih =>
    exact ih ready (Attempt.fits_again (ih ready (Attempt.fits_fail room)) fits)

theorem fits_outcome {room : Nat} {attempt : Attempt} (fits : attempt.Fits room) :
    ∀ found ∈ attempt.outcome, found.Fits room := fits []

theorem fits_known_update {here : Position} {room : Nat} {machine : Machine} {follow : Attempt}
    {outcome : Option Outcome} (ready : machine.Ready here room) (fits : follow.Fits room)
    (outcomeFits : ∀ found ∈ outcome, found.Fits room) :
    ∀ learned ∈ (machine.update here follow outcome).known, learned.Fits room := by
  induction machine generalizing follow outcome with
  | empty => simp [update, known]
  | char members next =>
    intro learned member
    exact outcomeFits learned (by simpa [update, known] using member)
  | assertion condition => simp [update, known]
  | token inner ih =>
    apply ih ready (Attempt.fits_map fits fun _ => Outcome.fits_closeToken)
    intro found member
    obtain ⟨before, same, rfl⟩ := Option.map_eq_some_iff.mp member
    exact Outcome.fits_closeToken (outcomeFits before same)
  | seq first second firstIh secondIh =>
    obtain ⟨firstReady, secondReady⟩ := ready_seq_iff.mp ready
    have nextFits := fits_enter secondReady fits
    intro learned member
    rcases List.mem_append.mp member with inFirst | inSecond
    · exact firstIh firstReady nextFits (fits_outcome nextFits) learned inFirst
    · exact secondIh secondReady fits outcomeFits learned inSecond
  | choice first second firstIh secondIh =>
    obtain ⟨firstReady, secondReady⟩ := ready_choice_iff.mp ready
    intro learned member
    rcases List.mem_append.mp member with inFirst | inSecond
    · exact firstIh firstReady fits outcomeFits learned inFirst
    · exact secondIh secondReady fits outcomeFits learned inSecond
  | marked mark inner ih => exact ih ready fits outcomeFits
  | loop mark greedy body ih =>
    have nextFits : (again mark greedy (body.enter here .fail) follow).Fits room :=
      Attempt.fits_again (fits_enter ready (Attempt.fits_fail room)) fits
    exact ih ready nextFits (fits_outcome nextFits)

def OutcomesFit : List (Option Outcome) → Prop
  | [] => True
  | outcome :: rest => (∀ found ∈ outcome, found.Fits rest.length) ∧ OutcomesFit rest

/-- The state of a machine that has run over the end of a text: there is an outcome for each position, and all that
is known fits. -/
structure RunFits (length : Nat) (state : Machine × List (Option Outcome)) : Prop where
  count : state.2.length = length + 1
  outcomes : OutcomesFit state.2
  known : ∀ outcome ∈ state.1.known, outcome.Fits length

theorem runFits_foldr_step (machine : Machine) (before : Option Char) (text : List Char) :
    RunFits text.length ((List.zipWith Position.mk (before :: text.map some) (text.map some ++ [none])).foldr
      step (machine, [])) := by
  induction text generalizing before with
  | nil =>
    have ready : machine.Ready ⟨before, none⟩ 0 := fun _ _ present => absurd rfl present
    have fits := fits_enter ready (Attempt.fits_done 0)
    exact {
      count := rfl
      outcomes := ⟨fits_outcome fits, trivial⟩
      known := fits_known_update ready (Attempt.fits_done 0) (fits_outcome (Attempt.fits_done 0)) }
  | cons char rest ih =>
    have tail := ih (some char)
    simp only [List.map_cons, List.cons_append, List.zipWith_cons_cons, List.foldr_cons] at tail ⊢
    generalize List.foldr step (machine, []) _ = state at tail ⊢
    have ready : state.1.Ready ⟨before, some char⟩ (rest.length + 1) :=
      fun outcome member _ => Outcome.fits_advance (tail.known outcome member)
    have fits := fits_enter ready (Attempt.fits_done _)
    exact {
      count := by simp [step, tail.count]
      outcomes := ⟨by simpa [tail.count] using fits_outcome fits, tail.outcomes⟩
      known := fits_known_update ready (Attempt.fits_done _) (fits_outcome (Attempt.fits_done _)) }

theorem length_outcomes (machine : Machine) (text : List Char) :
    (machine.outcomes text).length = text.length + 1 :=
  (runFits_foldr_step machine none text).count

theorem outcomesFit_outcomes (machine : Machine) (text : List Char) : OutcomesFit (machine.outcomes text) :=
  (runFits_foldr_step machine none text).outcomes

end Machine

structure Match.Within (first last : Nat) (found : Match) : Prop where
  start_ge : first ≤ found.whole.start
  stop_le : found.whole.stop ≤ last
  token_start_ge : ∀ token ∈ found.token, found.whole.start ≤ token.start
  token_stop_le : ∀ token ∈ found.token, token.stop ≤ found.whole.stop

theorem eq_of_mem_between? {start stop : Nat} {interval : Interval}
    (member : interval ∈ Interval.between? start stop) : interval.start = start ∧ interval.stop = stop := by
  simp only [Interval.between?, Option.mem_def, Option.dite_none_right_eq_some, Option.some.injEq] at member
  obtain ⟨_, rfl⟩ := member
  exact ⟨rfl, rfl⟩

theorem start_of_match? {outcome : Outcome} {start : Nat} {found : Match}
    (member : found ∈ outcome.match? start) : found.whole.start = start := by
  obtain ⟨whole, known, rfl⟩ := Option.map_eq_some_iff.mp member
  exact (eq_of_mem_between? known).1

theorem within_of_match? {outcome : Outcome} {start room : Nat} {found : Match} (fits : outcome.Fits room)
    (member : found ∈ outcome.match? start) : found.Within start (start + room) := by
  obtain ⟨whole, known, rfl⟩ := Option.map_eq_some_iff.mp member
  obtain ⟨startSame, stopSame⟩ := eq_of_mem_between? known
  have size := fits.1
  refine ⟨by simp [startSame], by simp only; omega, ?_, ?_⟩
  all_goals
    intro token narrowed
    simp only at narrowed
    split at narrowed
    next tokenStart tokenStop _ stopKnown =>
      obtain ⟨tokenFirst, tokenLast⟩ := eq_of_mem_between? narrowed
      have inside := fits.2 tokenStop stopKnown
      simp only
      omega
    next => cases narrowed

/-- Matches met from a place on lie behind the characters to skip, in order, and before the end of the text. -/
theorem scan_within (skip start : Nat) (outcomes : List (Option Outcome)) (fits : Machine.OutcomesFit outcomes) :
    (scan skip start outcomes).Pairwise (fun left right => left.whole.stop ≤ right.whole.start) ∧
      ∀ found ∈ scan skip start outcomes, found.Within (start + skip) (start + (outcomes.length - 1)) := by
  induction outcomes generalizing skip start with
  | nil => simp [scan]
  | cons outcome rest ih =>
    obtain ⟨headFits, restFits⟩ := fits
    -- Matches of the rest lie as far to the left as its own bound says, whatever is skipped.
    have later (skip : Nat) : ∀ found ∈ scan skip (start + 1) rest,
        found.Within (start + 1 + skip) (start + rest.length) := by
      intro found member
      have inRest := (ih skip (start + 1) restFits).2 found member
      cases rest with
      | nil => cases member
      | cons _ rest =>
        refine { inRest with stop_le := ?_ }
        have bound := inRest.stop_le
        simp only [List.length_cons, Nat.add_sub_cancel] at bound ⊢
        omega
    simp only [List.length_cons, Nat.add_sub_cancel]
    cases skip with
    | succ skip =>
      simp only [scan]
      refine ⟨(ih skip (start + 1) restFits).1, ?_⟩
      intro found member
      have inRest := later skip found member
      exact { inRest with start_ge := by have bound := inRest.start_ge; omega }
    | zero =>
      simp only [scan]
      split
      next found met =>
        obtain ⟨reached, known, matched⟩ := Option.bind_eq_some_iff.mp met
        have within := within_of_match? (headFits reached known) matched
        have begins := start_of_match? matched
        have nonempty := found.whole.start_lt_stop
        constructor
        · refine List.pairwise_cons.mpr ⟨?_, (ih _ _ restFits).1⟩
          intro other member
          have bound := (later _ other member).start_ge
          omega
        · intro other member
          rcases List.mem_cons.mp member with rfl | inRest
          · exact within
          · have bound := later _ other inRest
            exact { bound with start_ge := by have first := bound.start_ge; omega }
      next =>
        refine ⟨(ih 0 (start + 1) restFits).1, ?_⟩
        intro found member
        have inRest := later 0 found member
        exact { inRest with start_ge := by have bound := inRest.start_ge; omega }

theorem search_ordered (pattern : Pattern) (text : List Char) :
    (pattern.search text).Pairwise fun left right => left.whole.stop ≤ right.whole.start :=
  (scan_within 0 0 _ (Machine.outcomesFit_outcomes pattern.machine text)).1

theorem search_within (pattern : Pattern) (text : List Char) :
    ∀ found ∈ pattern.search text, found.Within 0 text.length := by
  have within := (scan_within 0 0 _ (Machine.outcomesFit_outcomes pattern.machine text)).2
  simpa [search, Machine.length_outcomes] using within

theorem mem_intervals {pattern : Pattern} {text : List Char} {interval : Interval}
    (member : interval ∈ pattern.intervals text) :
    ∃ found ∈ pattern.search text, found.whole.start ≤ interval.start ∧ interval.stop ≤ found.whole.stop := by
  unfold intervals at member
  split at member
  · obtain ⟨found, searched, token⟩ := List.mem_filterMap.mp member
    have within := search_within pattern text found searched
    exact ⟨found, searched, within.token_start_ge interval token, within.token_stop_le interval token⟩
  · obtain ⟨found, searched, rfl⟩ := List.mem_map.mp member
    exact ⟨found, searched, Nat.le_refl _, Nat.le_refl _⟩

theorem stop_le_of_mem_intervals {pattern : Pattern} {text : List Char} {interval : Interval}
    (member : interval ∈ pattern.intervals text) : interval.stop ≤ text.length := by
  obtain ⟨found, searched, _, inside⟩ := mem_intervals member
  exact Nat.le_trans inside (search_within pattern text found searched).stop_le

theorem intervals_ordered (pattern : Pattern) (text : List Char) :
    (pattern.intervals text).Pairwise fun left right => left.stop ≤ right.start := by
  have ordered := search_ordered pattern text
  unfold intervals
  split
  · have within := search_within pattern text
    refine List.pairwise_filterMap.mpr (ordered.imp_of_mem ?_)
    intro left right leftFound rightFound apart leftToken leftSame rightToken rightSame
    have leftInside := (within left leftFound).token_stop_le leftToken leftSame
    have rightInside := (within right rightFound).token_start_ge rightToken rightSame
    omega
  · exact List.pairwise_map.mpr ordered

end Highlighter.Pattern
