import Highlighter.Proofs.Pattern.Outcomes

/-!
The search for matches of an expression, told by what comes of its way at each place of a text. To skip the characters
of a match is to begin the search behind them, and a match that no earlier one reaches is not passed over.
-/

namespace Highlighter.Pattern

theorem stop_of_match? {outcome : Outcome} {start : Nat} {found : Match} (member : found ∈ outcome.match? start) :
    found.whole.stop = start + outcome.size := by
  obtain ⟨whole, known, rfl⟩ := Option.map_eq_some_iff.mp member
  exact (eq_of_mem_between? known).2

theorem scan_skip (skip start : Nat) (outcomes : List (Option Outcome)) :
    scan skip start outcomes = scan 0 (start + skip) (outcomes.drop skip) := by
  induction outcomes generalizing skip start with
  | nil => simp [scan]
  | cons outcome rest ih =>
    cases skip with
    | zero => rfl
    | succ skip =>
      rw [scan, ih skip (start + 1), List.drop_succ_cons]
      congr 1
      omega

theorem scan_of_match? {outcome : Outcome} {place : Nat} {found : Match} (rest : List (Option Outcome))
    (matched : outcome.match? place = some found) :
    scan 0 place (some outcome :: rest) =
      found :: scan 0 (place + outcome.size) ((some outcome :: rest).drop outcome.size) := by
  have ends := stop_of_match? (Option.mem_def.mpr matched)
  have begins := start_of_match? (Option.mem_def.mpr matched)
  have nonempty := found.whole.start_lt_stop
  obtain ⟨size, known⟩ : ∃ size, outcome.size = size + 1 := ⟨outcome.size - 1, by omega⟩
  have skipped : found.whole.stop - place - 1 = size := by omega
  simp only [scan, Option.bind_some, matched, skipped, known, scan_skip size, List.drop_succ_cons]
  rw [Nat.add_assoc, Nat.add_comm 1 size]

namespace Way

def outcomeAt (way : Way) (text : List Char) (place : Nat) : Option Outcome :=
  way .done (text.take place).getLast? (text.drop place)

theorem getElem?_outcomes (way : Way) (before : Option Char) (text : List Char) (place : Nat) :
    (way.outcomes before text)[place]? =
      if place ≤ text.length then some (way .done ((text.take place).getLast?.or before) (text.drop place))
      else none := by
  induction text generalizing before place with
  | nil => cases place <;> simp [outcomes]
  | cons letter rest ih =>
    cases place with
    | zero => simp [outcomes]
    | succ place => simp [outcomes, ih, List.getLast?_cons, Option.or_some]

theorem getElem?_outcomes_none {way : Way} {text : List Char} {place : Nat} {outcome : Option Outcome} :
    (way.outcomes none text)[place]? = some outcome ↔
      place ≤ text.length ∧ way.outcomeAt text place = outcome := by
  simp [getElem?_outcomes, outcomeAt]

theorem drop_outcomes (way : Way) (before : Option Char) {count : Nat} {text : List Char}
    (inside : count ≤ text.length) :
    (way.outcomes before text).drop count =
      way.outcomes ((text.take count).getLast?.or before) (text.drop count) := by
  induction text generalizing count before with
  | nil =>
    cases Nat.le_zero.mp inside
    rfl
  | cons letter rest ih =>
    cases count with
    | zero => rfl
    | succ count =>
      rw [outcomes, List.drop_succ_cons, ih (some letter) (Nat.le_of_succ_le_succ inside), List.take_succ_cons,
        List.getLast?_cons, List.drop_succ_cons, Option.some_or]
      cases (rest.take count).getLast? <;> rfl

end Way

section Steps

variable {way : Way} {before : Option Char} {letter : Char} {rest : List Char}

theorem scan_outcomes_of_none (start : Nat) (missed : way .done before (letter :: rest) = none) :
    scan 0 start (way.outcomes before (letter :: rest)) = scan 0 (start + 1) (way.outcomes (some letter) rest) := by
  rw [Way.outcomes, scan, missed]
  rfl

theorem whole_scan_outcomes {outcome : Outcome} {count : Nat} (start : Nat)
    (known : way .done before (letter :: rest) = some outcome) (size : outcome.size = count + 1)
    (inside : count ≤ rest.length) :
    (scan 0 start (way.outcomes before (letter :: rest))).map (·.whole) =
      ⟨start, start + (count + 1), by omega⟩ ::
        (scan 0 (start + (count + 1)) (way.outcomes ((rest.take count).getLast?.or (some letter))
          (rest.drop count))).map (·.whole) := by
  have whole : Interval.between? start (start + outcome.size) = some ⟨start, start + (count + 1), by omega⟩ := by
    simp [Interval.between?, size]
  obtain ⟨found, matched, same⟩ : ∃ found, outcome.match? start = some found ∧
      found.whole = ⟨start, start + (count + 1), by omega⟩ := by
    rw [Outcome.match?, whole]
    exact ⟨_, rfl, rfl⟩
  rw [Way.outcomes, known, scan_of_match? _ matched, size, List.drop_succ_cons, Way.drop_outcomes way _ inside,
    List.map_cons, same]

end Steps

theorem exists_of_mem_scan {skip start : Nat} {outcomes : List (Option Outcome)} {found : Match}
    (member : found ∈ scan skip start outcomes) :
    ∃ place, ∃ outcome : Outcome,
      outcomes[place]? = some (some outcome) ∧ found ∈ outcome.match? (start + place) := by
  induction outcomes generalizing skip start with
  | nil => cases member
  | cons first rest ih =>
    have later {skip : Nat} (member : found ∈ scan skip (start + 1) rest) :
        ∃ place, ∃ outcome : Outcome,
          (first :: rest)[place]? = some (some outcome) ∧ found ∈ outcome.match? (start + place) := by
      obtain ⟨place, outcome, known, matched⟩ := ih member
      exact ⟨place + 1, outcome, known, by rwa [Nat.add_right_comm] at matched⟩
    cases skip with
    | succ skip => exact later member
    | zero =>
      simp only [scan] at member
      split at member
      next other met =>
        rcases List.mem_cons.mp member with rfl | behind
        · obtain ⟨outcome, rfl, matched⟩ := Option.bind_eq_some_iff.mp met
          exact ⟨0, outcome, rfl, matched⟩
        · exact later behind
      next => exact later member

/-- A match is found if nothing that could match in front of it reaches it. -/
theorem mem_scan {skip start place : Nat} {outcomes : List (Option Outcome)} {outcome : Outcome} {found : Match}
    (known : outcomes[place]? = some (some outcome)) (matched : found ∈ outcome.match? (start + place))
    (unskipped : skip ≤ place)
    (apart : ∀ earlier < place, ∀ other, outcomes[earlier]? = some (some other) →
      earlier + other.size ≤ place) :
    found ∈ scan skip start outcomes := by
  induction outcomes generalizing skip start place with
  | nil => cases known
  | cons first rest ih =>
    cases place with
    | zero =>
      cases Nat.le_zero.mp unskipped
      cases known
      simp only [scan]
      rw [show (some outcome).bind (·.match? start) = some found from matched]
      exact List.mem_cons_self ..
    | succ place =>
      have matchedLater : found ∈ outcome.match? (start + 1 + place) := by rwa [Nat.add_right_comm]
      have apartLater : ∀ earlier < place, ∀ other, rest[earlier]? = some (some other) →
          earlier + other.size ≤ place := by
        intro earlier before other known
        have bound := apart (earlier + 1) (by omega) other known
        omega
      cases skip with
      | succ skip => exact ih known matchedLater (Nat.le_of_succ_le_succ unskipped) apartLater
      | zero =>
        simp only [scan]
        split
        next other met =>
          obtain ⟨reached, rfl, matchedFirst⟩ := Option.bind_eq_some_iff.mp met
          have bound := apart 0 (Nat.succ_pos place) reached rfl
          have stop := stop_of_match? matchedFirst
          exact List.mem_cons_of_mem _ (ih known matchedLater (by omega) apartLater)
        next => exact ih known matchedLater (Nat.zero_le _) apartLater

section Intervals

variable {pattern : Pattern} {text : List Char} {left right : Interval} (leftMember : left ∈ pattern.intervals text)
  (rightMember : right ∈ pattern.intervals text)
include leftMember rightMember

theorem eq_of_mem_intervals (before : left.start < right.stop) (behind : right.start < left.stop) : left = right := by
  have apart : (pattern.intervals text).Pairwise fun left right =>
      left.start < right.stop → right.start < left.stop → left = right := by
    refine (pattern.intervals_ordered text).imp fun {left right} ordered before behind => ?_
    exact absurd behind (Nat.not_lt.mpr ordered)
  have flipped : (pattern.intervals text).Pairwise (flip fun left right =>
      left.start < right.stop → right.start < left.stop → left = right) :=
    apart.imp fun known behind before => (known before behind).symm
  exact apart.forall_of_forall_of_flip (fun _ _ _ _ => rfl) flipped leftMember rightMember before behind

theorem eq_of_stop_eq (same : left.stop = right.stop) : left = right := by
  have leftNonempty := left.start_lt_stop
  have rightNonempty := right.start_lt_stop
  exact eq_of_mem_intervals leftMember rightMember (by omega) (by omega)

end Intervals

def ofExpr (source : String) (expr : Expr) : Pattern := ⟨source, .ofExpr expr⟩

theorem intervals_ofExpr {source : String} {expr : Expr} (unnamed : expr.named = false) (text : List Char) :
    (ofExpr source expr).intervals text = ((ofExpr source expr).search text).map (·.whole) := by
  have whole : (ofExpr source expr).narrowed = false := Machine.Build.unnamed_ofExpr unnamed 0
  rw [intervals, whole, if_neg Bool.false_ne_true]

section Search

variable {source : String} {expr : Expr} (orderly : expr.orderly = true) {text : List Char}
include orderly

theorem search_ofExpr : (ofExpr source expr).search text = scan 0 0 (expr.way.outcomes none text) := by
  simp only [search, ofExpr, Machine.outcomes_ofExpr orderly]

theorem exists_of_mem_search {found : Match} (member : found ∈ (ofExpr source expr).search text) :
    ∃ place ≤ text.length, ∃ outcome,
      expr.way.outcomeAt text place = some outcome ∧ found ∈ outcome.match? place := by
  rw [search_ofExpr orderly] at member
  obtain ⟨place, outcome, known, matched⟩ := exists_of_mem_scan member
  obtain ⟨inside, same⟩ := Way.getElem?_outcomes_none.mp known
  exact ⟨place, inside, outcome, same, by rwa [Nat.zero_add] at matched⟩

theorem mem_search {place : Nat} {outcome : Outcome} {found : Match} (inside : place ≤ text.length)
    (known : expr.way.outcomeAt text place = some outcome) (matched : found ∈ outcome.match? place)
    (apart : ∀ earlier < place, ∀ other, expr.way.outcomeAt text earlier = some other →
      earlier + other.size ≤ place) :
    found ∈ (ofExpr source expr).search text := by
  rw [search_ofExpr orderly]
  refine mem_scan (Way.getElem?_outcomes_none.mpr ⟨inside, known⟩) (by rwa [Nat.zero_add]) (Nat.zero_le _) ?_
  intro earlier before other knownOther
  exact apart earlier before other (Way.getElem?_outcomes_none.mp knownOther).2

end Search

end Highlighter.Pattern
