import Highlighter.Proofs.Pattern.Iteration
import Highlighter.Proofs.Span.ByteMarks
import Mathlib.Data.List.Forall2
import Mathlib.Data.List.Perm.Subperm

/-!
The ranges that a rule finds in a text. They are reported match by match: at most one of each match that is met, inside
of it, and none of a match that has nothing to report, which leaves those behind it as they are. So they are in order
and share no byte.
-/

namespace Highlighter

namespace Pattern

theorem intervals_eq_filterMap (pattern : Pattern) (text : List Char) :
    pattern.intervals text = (pattern.search text).filterMap fun found =>
      if pattern.narrowed then found.token else some found.whole := by
  unfold intervals
  split
  · rfl
  · rw [List.filterMap_eq_map']

namespace Hit

structure Inside (text : List Char) (hit : Hit) : Prop where
  stop_le : hit.stop ≤ text.length
  token_within : ∀ token ∈ hit.token?, hit.start ≤ token.1 ∧ token.2 ≤ hit.stop

variable {hit : Hit} {text : List Char}

theorem inside_of_fits (start : hit.start ≤ text.length) (fits : hit.outcome.Fits (text.length - hit.start)) :
    hit.Inside text where
  stop_le := by
    have size := fits.1
    simp only [stop]
    omega
  token_within := by
    intro token member
    simp only [token?, Option.mem_def] at member
    split at member
    next first last _ lastKnown =>
      cases member
      have inside := fits.2 last lastKnown
      simp only [stop]
      omega
    next => cases member

theorem Iterates.inside {machine : Machine} {last : Option Nat} {hits : List Hit}
    (iterates : Iterates (machine.outcomes text) last hits) : ∀ hit ∈ hits, hit.Inside text := by
  intro hit member
  have known := iterates.known hit member
  have bound := (List.getElem?_eq_some_iff.mp known).1
  have fits := (Machine.outcomesFit_outcomes machine text).fits known
  rw [Machine.length_outcomes, Nat.add_sub_cancel] at fits
  rw [Machine.length_outcomes] at bound
  exact inside_of_fits (Nat.le_of_lt_succ bound) fits

theorem inBytes_lt_iff {ends : Nat × Nat} (inside : ends.2 ≤ text.length) :
    (inBytes text ends).1 < (inBytes text ends).2 ↔ ends.1 < ends.2 :=
  utf8Length_take_lt_iff text ends.1 ends.2 inside

theorem filter_inBytes {ends : Nat × Nat} (inside : ends.2 ≤ text.length) :
    (some (inBytes text ends)).filter (fun range => range.1 < range.2) =
      (Interval.between? ends.1 ends.2).map (·.bytes text) := by
  simp only [Option.filter_some, decide_eq_true_eq, inBytes_lt_iff inside, Interval.between?]
  split <;> rfl

theorem whole_of_match? (hit : Hit) :
    (hit.outcome.match? hit.start).map (·.whole) = Interval.between? hit.whole.1 hit.whole.2 := by
  rw [Outcome.match?, Option.map_map]
  exact Option.map_id'

theorem token_of_match? (inside : hit.Inside text) :
    (hit.outcome.match? hit.start).bind (·.token) = hit.token?.bind fun ends => Interval.between? ends.1 ends.2 := by
  by_cases nonempty : hit.start < hit.stop
  · have whole : Interval.between? hit.start (hit.start + hit.outcome.size) = some ⟨hit.start, hit.stop, nonempty⟩ :=
      dif_pos nonempty
    rw [Outcome.match?, whole, token?]
    cases hit.outcome.tokenStart <;> cases hit.outcome.tokenStop <;> rfl
  · have none : hit.outcome.match? hit.start = none := by
      rw [Outcome.match?, Interval.between?, dif_neg (show ¬hit.start < hit.start + hit.outcome.size from nonempty)]
      rfl
    rw [none, Option.bind_none, eq_comm, Option.bind_eq_none_iff]
    intro ends member
    have within := inside.token_within ends member
    exact dif_neg (by omega)

theorem range?_eq (inside : hit.Inside text) (narrowed : Bool) :
    hit.range? narrowed text = ((hit.outcome.match? hit.start).bind fun found =>
      if narrowed then found.token else some found.whole).map (·.bytes text) := by
  cases narrowed with
  | false =>
    have reported : hit.range? false text = (some (inBytes text hit.whole)).filter fun range => range.1 < range.2 := rfl
    rw [reported, filter_inBytes inside.stop_le, ← whole_of_match?]
    cases hit.outcome.match? hit.start <;> rfl
  | true =>
    have reported : hit.range? true text = (hit.token?.map (inBytes text)).filter fun range => range.1 < range.2 := rfl
    rw [reported]
    refine Eq.trans ?_ (congrArg (Option.map (·.bytes text)) (token_of_match? inside).symm)
    cases token : hit.token? with
    | none => rfl
    | some ends =>
      have bound := (inside.token_within ends token).2
      exact filter_inBytes (Nat.le_trans bound inside.stop_le)

theorem range?_of_token_empty (inside : hit.Inside text) (empty : ∀ token ∈ hit.token?, token.2 ≤ token.1) :
    hit.range? true text = none := by
  have none : (hit.outcome.match? hit.start).bind (·.token) = none := by
    rw [token_of_match? inside, Option.bind_eq_none_iff]
    exact fun ends member => dif_neg (Nat.not_lt.mpr (empty ends member))
  rw [range?_eq inside]
  exact congrArg (Option.map (·.bytes text)) none

theorem range?_within (inside : hit.Inside text) {narrowed : Bool} {range : Nat × Nat}
    (reported : range ∈ hit.range? narrowed text) :
    (inBytes text hit.whole).1 ≤ range.1 ∧ range.2 ≤ (inBytes text hit.whole).2 := by
  obtain ⟨ends, member, rfl⟩ := Option.map_eq_some_iff.mp (Option.filter_eq_some_iff.mp reported).1
  have within : hit.start ≤ ends.1 ∧ ends.2 ≤ hit.stop := by
    cases narrowed with
    | false =>
      cases member
      exact ⟨Nat.le_refl _, Nat.le_refl _⟩
    | true => exact inside.token_within ends member
  exact ⟨utf8Length_take_le text within.1, utf8Length_take_le text within.2⟩

theorem Iterates.length_le {machine : Machine} {last : Option Nat} {hits : List Hit}
    (iterates : Iterates (machine.outcomes text) last hits) : hits.length ≤ text.length + 1 := by
  have distinct : (hits.map (·.stop)).Nodup :=
    List.pairwise_map.mpr (iterates.ordered.imp fun ordered => Nat.ne_of_lt ordered.2)
  have bounded : hits.map (·.stop) ⊆ List.range (text.length + 1) := by
    intro stop member
    obtain ⟨hit, met, rfl⟩ := List.mem_map.mp member
    exact List.mem_range.mpr (Nat.lt_succ_of_le (iterates.inside hit met).stop_le)
  simpa using (List.subperm_of_subset distinct bounded).length_le

end Hit

end Pattern

theorem forall₂_filterMap {Item Result : Type} {relates : Item → Result → Prop} {result? : Item → Option Result}
    {items : List Item} (holds : ∀ item ∈ items, ∀ result ∈ result? item, relates item result) :
    List.Forall₂ relates (items.filter (result? · |>.isSome)) (items.filterMap result?) := by
  induction items with
  | nil => exact .nil
  | cons item rest ih =>
    obtain ⟨first, later⟩ := List.forall_mem_cons.mp holds
    cases known : result? item with
    | none => simpa [known] using ih later
    | some result => simpa [known] using ⟨first result known, ih later⟩

open Pattern

/-- Ranges of bytes in a text: none is empty or cuts a character, and each ends where the next one begins or before. -/
structure RangesIn (text : String) (ranges : List (Nat × Nat)) : Prop where
  nonempty : ∀ range ∈ ranges, range.1 < range.2
  inside : ∀ range ∈ ranges, range.2 ≤ text.utf8ByteSize
  boundaries : ∀ range ∈ ranges,
    (String.Pos.Raw.mk range.1).IsValid text ∧ (String.Pos.Raw.mk range.2).IsValid text
  ordered : ranges.Pairwise fun left right => left.2 ≤ right.1

namespace Rule

def outcomes (rule : Rule) (text : String) : List (Option Outcome) := rule.pattern.machine.outcomes text.toList

theorem rangesIn_byteRanges (rule : Rule) (text : String) : RangesIn text (rule.byteRanges text) where
  nonempty := by
    intro range member
    obtain ⟨interval, found, rfl⟩ := List.mem_map.mp member
    exact ByteMarks.bytes_lt (stop_le_of_mem_intervals found)
  inside := by
    intro range member
    obtain ⟨interval, found, rfl⟩ := List.mem_map.mp member
    exact ByteMarks.bytes_le (stop_le_of_mem_intervals found)
  boundaries := by
    intro range member
    obtain ⟨interval, _, rfl⟩ := List.mem_map.mp member
    exact ⟨ByteMarks.isValid_take text _, ByteMarks.isValid_take text _⟩
  ordered := by
    refine List.pairwise_map.mpr ((intervals_ordered rule.pattern text.toList).imp fun {left right} ordered => ?_)
    exact utf8Length_take_le text.toList ordered

/-- The matches that an iteration meets in a text, and what a rule finds there. -/
structure Reports (rule : Rule) (text : String) (hits : List Hit) : Prop where
  /-- The ranges found are those reported of the matches, one by one. -/
  ranges_eq : rule.byteRanges text = hits.filterMap (·.range? rule.pattern.narrowed text.toList)
  /-- Matches lie in the text, and their groups in them. -/
  inside : ∀ hit ∈ hits, hit.Inside text.toList
  /-- Each match ends where the next one begins or before, and no two end at one place. -/
  ordered : hits.Pairwise fun left right => left.stop ≤ right.start ∧ left.stop < right.stop
  length_le : hits.length ≤ text.toList.length + 1
  /-- Each range lies in a match of its own, in the order of these. -/
  owned : ∃ owners : List Hit, owners.Sublist hits ∧ List.Forall₂ (fun owner range =>
    (Hit.inBytes text.toList owner.whole).1 ≤ range.1 ∧ range.2 ≤ (Hit.inBytes text.toList owner.whole).2)
      owners (rule.byteRanges text)
  /-- A match whose group "token" took no part or is empty reports nothing, and the iteration goes on behind it as
  behind any other one. -/
  silent : rule.pattern.narrowed = true → ∀ before hit after, hits = before ++ hit :: after →
    (∀ token ∈ hit.token?, token.2 ≤ token.1) →
      rule.byteRanges text = (before ++ after).filterMap (·.range? true text.toList) ∧
        Hit.Iterates (rule.outcomes text) (some hit.stop) after

variable {rule : Rule} {text : String} {hits : List Hit}

theorem byteRanges_eq_filterMap (iterates : Hit.Iterates (rule.outcomes text) none hits) :
    rule.byteRanges text = hits.filterMap (·.range? rule.pattern.narrowed text.toList) := by
  have searched : rule.pattern.search text.toList = hits.filterMap fun hit => hit.outcome.match? hit.start :=
    iterates.found_eq
  rw [byteRanges, intervals, intervals_eq_filterMap, searched, List.filterMap_filterMap, List.map_filterMap]
  exact List.filterMap_congr fun hit member => (Hit.range?_eq (iterates.inside hit member) _).symm

theorem reports_of_iterates (iterates : Hit.Iterates (rule.outcomes text) none hits) : Reports rule text hits where
  ranges_eq := byteRanges_eq_filterMap iterates
  inside := iterates.inside
  ordered := iterates.ordered
  length_le := iterates.length_le
  owned := by
    rw [byteRanges_eq_filterMap iterates]
    exact ⟨_, List.filter_sublist, forall₂_filterMap fun hit member range reported =>
      Hit.range?_within (iterates.inside hit member) reported⟩
  silent := by
    intro narrowed before hit after same empty
    subst same
    have member : hit ∈ before ++ hit :: after := by simp
    have none := Hit.range?_of_token_empty (iterates.inside hit member) empty
    rw [byteRanges_eq_filterMap iterates, narrowed, List.filterMap_append, List.filterMap_cons, none,
      ← List.filterMap_append]
    exact ⟨rfl, iterates.behind⟩

/-- Every iteration over the matches of a rule's pattern comes to its end in one way, and what the rule finds is
reported of the matches on that way: ranges in the text that are not empty, cut no character, and are in order and
apart. -/
theorem exists_reports (rule : Rule) (text : String) :
    RangesIn text (rule.byteRanges text) ∧ ∃ hits, Hit.Iterates (rule.outcomes text) none hits ∧
      (∀ others, Hit.Iterates (rule.outcomes text) none others → others = hits) ∧ Reports rule text hits := by
  obtain ⟨hits, iterates⟩ := Hit.exists_iterates (rule.outcomes text) none
  exact ⟨rangesIn_byteRanges rule text, hits, iterates, fun others => iterates.unique, reports_of_iterates iterates⟩

/-- A match without the group, one whose group is empty and one that is longer than its group. An empty match where
that ends is not met, but the one at the end of the text is. -/
theorem exists_reports_silent : ∃ rule, ofSource .function "(?P<token>x*)=|é|" = .ok rule ∧
    rule.byteRanges "é=xx=z" = [(3, 5)] ∧ ∃ hits, hits.map (·.whole) = [(0, 1), (1, 2), (2, 5), (6, 6)] ∧
      Hit.Iterates (rule.outcomes "é=xx=z") none hits ∧ Reports rule "é=xx=z" hits := by
  have known : ∃ rule, ofSource .function "(?P<token>x*)=|é|" = .ok rule ∧
      Hit.Iterates (rule.outcomes "é=xx=z") none
        [⟨0, ⟨1, none, none⟩⟩, ⟨1, ⟨1, some 0, some 0⟩⟩, ⟨2, ⟨3, some 0, some 2⟩⟩, ⟨6, ⟨0, none, none⟩⟩] ∧
      rule.byteRanges "é=xx=z" = [(3, 5)] :=
    ⟨_, rfl, .met (by decide +kernel) (.met (by decide +kernel) (.met (by decide +kernel) (.met (by decide +kernel)
      (.finished (by decide +kernel))))), by decide +kernel⟩
  obtain ⟨rule, source, run, ranges⟩ := known
  obtain ⟨_, hits, iterates, unique, reports⟩ := exists_reports rule "é=xx=z"
  exact ⟨rule, source, ranges, hits, unique _ run ▸ rfl, iterates, reports⟩

end Rule

end Highlighter
