import Highlighter.Pattern.Iteration
import Highlighter.Proofs.Pattern.Scan

/-!
The iteration over matches comes to an end, since each match ends behind the one before it. What it meets other than
matches of the empty text is what the scan over the text finds in one go.
-/

namespace Highlighter.Pattern

theorem Machine.OutcomesFit.fits {outcomes : List (Option Outcome)} (fit : OutcomesFit outcomes) {place : Nat}
    {outcome : Outcome} (known : outcomes[place]? = some (some outcome)) :
    outcome.Fits (outcomes.length - 1 - place) := by
  induction outcomes generalizing place with
  | nil => cases known
  | cons first rest ih =>
    cases place with
    | zero => exact fit.1 outcome (Option.some.inj known)
    | succ place =>
      have inRest := ih fit.2 known
      rwa [List.length_cons, Nat.add_sub_cancel, Nat.add_comm place 1, ← Nat.sub_sub]

namespace Hit

variable {outcomes : List (Option Outcome)} {last : Option Nat} {place : Nat} {hit : Hit} {hits : List Hit}

theorem start_le_stop (hit : Hit) : hit.start ≤ hit.stop := Nat.le_add_right hit.start hit.outcome.size

theorem first?_eq_some_iff : first? place outcomes = some hit ↔
    ∃ count, hit.start = place + count ∧ outcomes[count]? = some (some hit.outcome) ∧
      ∀ earlier < count, outcomes[earlier]? = some none := by
  induction outcomes generalizing place with
  | nil => simp [first?]
  | cons outcome rest ih =>
    cases outcome with
    | some outcome =>
      simp only [first?, Option.some.injEq]
      constructor
      · rintro rfl
        exact ⟨0, rfl, rfl, by simp⟩
      · rintro ⟨count, start, known, passed⟩
        cases count with
        | zero =>
          cases hit
          cases start
          cases known
          rfl
        | succ count => cases passed 0 (Nat.succ_pos count)
    | none =>
      rw [first?, ih]
      constructor
      · rintro ⟨count, start, known, passed⟩
        refine ⟨count + 1, by omega, known, fun earlier below => ?_⟩
        cases earlier with
        | zero => rfl
        | succ earlier => exact passed earlier (by omega)
      · rintro ⟨count, start, known, passed⟩
        cases count with
        | zero => cases known
        | succ count =>
          exact ⟨count, by omega, known, fun earlier below => passed (earlier + 1) (by omega)⟩

theorem searchFrom?_eq_some_iff : searchFrom? outcomes place = some hit ↔
    place ≤ hit.start ∧ outcomes[hit.start]? = some (some hit.outcome) ∧
      ∀ earlier, place ≤ earlier → earlier < hit.start → outcomes[earlier]? = some none := by
  rw [searchFrom?, first?_eq_some_iff]
  simp only [List.getElem?_drop]
  constructor
  · rintro ⟨count, start, known, passed⟩
    refine ⟨by omega, start ▸ known, fun earlier above below => ?_⟩
    have none := passed (earlier - place) (by omega)
    rwa [Nat.add_sub_cancel' above] at none
  · rintro ⟨above, known, passed⟩
    refine ⟨hit.start - place, by omega, ?_, fun earlier below => passed _ (by omega) (by omega)⟩
    rwa [Nat.add_sub_cancel' above]

theorem start_of_searchFrom? (found : searchFrom? outcomes place = some hit) :
    place ≤ hit.start ∧ hit.start < outcomes.length := by
  obtain ⟨above, known, _⟩ := searchFrom?_eq_some_iff.mp found
  exact ⟨above, (List.getElem?_eq_some_iff.mp known).1⟩

theorem scan_of_first? (found : first? place outcomes = some hit) :
    scan 0 place outcomes =
      (hit.outcome.match? hit.start).toList ++ scan 0 hit.stop (outcomes.drop (hit.stop - place)) := by
  induction outcomes generalizing place with
  | nil => cases found
  | cons outcome rest ih =>
    cases outcome with
    | some outcome =>
      cases found
      have size : stop ⟨place, outcome⟩ - place = outcome.size := Nat.add_sub_cancel_left ..
      cases matched : outcome.match? place with
      | none =>
        have empty : outcome.size = 0 := by simpa [Outcome.match?, Interval.between?] using matched
        simp [stop, empty]
      | some whole => rw [size, scan_of_match? rest matched]; rfl
    | none =>
      have above : place + 1 ≤ hit.start := by
        obtain ⟨count, start, _⟩ := first?_eq_some_iff.mp (show first? (place + 1) rest = some hit from found)
        omega
      have ends := hit.start_le_stop
      have dropped : hit.stop - place = hit.stop - (place + 1) + 1 := by omega
      rw [dropped, List.drop_succ_cons]
      exact ih found

theorem scan_of_first?_eq_none (missed : first? place outcomes = none) : scan 0 place outcomes = [] := by
  induction outcomes generalizing place with
  | nil => rfl
  | cons outcome rest ih =>
    cases outcome with
    | some outcome => cases missed
    | none => exact ih missed

def found (outcomes : List (Option Outcome)) (place : Nat) : List Match := scan 0 place (outcomes.drop place)

theorem found_of_searchFrom? (met : searchFrom? outcomes place = some hit) :
    found outcomes place = (hit.outcome.match? hit.start).toList ++ found outcomes hit.stop := by
  have above := (start_of_searchFrom? met).1
  have ends := hit.start_le_stop
  rw [found, scan_of_first? met, List.drop_drop, Nat.add_sub_cancel' (by omega)]
  rfl

theorem found_of_empty {outcome : Outcome} (known : outcomes[place]? = some (some outcome))
    (empty : outcome.size = 0) : found outcomes place = found outcomes (place + 1) := by
  obtain ⟨inside, same⟩ := List.getElem?_eq_some_iff.mp known
  have none : outcome.match? place = none := by simp [Outcome.match?, Interval.between?, empty]
  rw [found, List.drop_eq_getElem_cons inside, same, scan]
  simp [none, found]

/-- The next match is the first one from some place on. No match ends where the last one did, and none that a scan
finds is passed over. -/
theorem exists_place_of_next? (outcomes : List (Option Outcome)) (last : Option Nat) :
    ∃ place, next? outcomes last = searchFrom? outcomes place ∧ last.getD 0 ≤ place ∧
      found outcomes (last.getD 0) = found outcomes place ∧
        ∀ hit, searchFrom? outcomes place = some hit → ∀ stop ∈ last, stop < hit.stop := by
  cases first : searchFrom? outcomes (last.getD 0) with
  | none => exact ⟨last.getD 0, by simp [next?, first], Nat.le_refl _, rfl, by simp [first]⟩
  | some hit =>
    obtain ⟨above, known, _⟩ := searchFrom?_eq_some_iff.mp first
    by_cases again : hit.start = hit.stop ∧ last = some hit.stop
    · obtain ⟨empty, rfl⟩ := again
      have size : hit.outcome.size = 0 := by simp only [stop] at empty; omega
      rw [empty] at known
      refine ⟨hit.stop + 1, by rw [next?, first, Option.bind_some, if_pos ⟨empty, rfl⟩], Nat.le_succ _,
        found_of_empty known size, ?_⟩
      rintro behind met _ ⟨⟩
      have start := (start_of_searchFrom? met).1
      have ends := behind.start_le_stop
      omega
    · refine ⟨last.getD 0, by rw [next?, first, Option.bind_some, if_neg again], Nat.le_refl _, rfl, ?_⟩
      intro behind met stop ends
      cases first.symm.trans met
      cases ends
      have ordered := hit.start_le_stop
      have apart : ¬(hit.start = hit.stop ∧ stop = hit.stop) := fun same => again ⟨same.1, by rw [same.2]⟩
      simp only [Option.getD_some] at above
      omega

theorem bounds_of_next? (next : next? outcomes last = some hit) :
    outcomes[hit.start]? = some (some hit.outcome) ∧ last.getD 0 ≤ hit.start ∧ ∀ stop ∈ last, stop < hit.stop := by
  obtain ⟨place, same, above, _, behind⟩ := exists_place_of_next? outcomes last
  have met := same.symm.trans next
  obtain ⟨start, known, _⟩ := searchFrom?_eq_some_iff.mp met
  exact ⟨known, Nat.le_trans above start, behind hit met⟩

theorem exists_iterates_behind (outcomes : List (Option Outcome)) (stop : Nat) :
    ∃ hits, Iterates outcomes (some stop) hits := by
  -- The end of the last match comes closer to the end of the text.
  induction rest : outcomes.length - stop using Nat.strongRecOn generalizing stop with
  | _ rest ih =>
    cases next : next? outcomes (some stop) with
    | none => exact ⟨[], .finished next⟩
    | some hit =>
      obtain ⟨known, start, behind⟩ := bounds_of_next? next
      have inside := (List.getElem?_eq_some_iff.mp known).1
      have progress := behind stop rfl
      simp only [Option.getD_some] at start
      obtain ⟨hits, iterates⟩ := ih (outcomes.length - hit.stop) (by omega) hit.stop rfl
      exact ⟨hit :: hits, .met next iterates⟩

theorem exists_iterates (outcomes : List (Option Outcome)) (last : Option Nat) :
    ∃ hits, Iterates outcomes last hits := by
  cases next : next? outcomes last with
  | none => exact ⟨[], .finished next⟩
  | some hit =>
    obtain ⟨hits, iterates⟩ := exists_iterates_behind outcomes hit.stop
    exact ⟨hit :: hits, .met next iterates⟩

namespace Iterates

theorem unique {others : List Hit} (iterates : Iterates outcomes last hits) (other : Iterates outcomes last others) :
    others = hits := by
  induction iterates generalizing others with
  | finished none =>
    cases other with
    | finished => rfl
    | met next => cases none.symm.trans next
  | met next _ ih =>
    cases other with
    | finished none => cases none.symm.trans next
    | met otherNext otherRest =>
      cases next.symm.trans otherNext
      rw [ih otherRest]

theorem known (iterates : Iterates outcomes last hits) :
    ∀ hit ∈ hits, outcomes[hit.start]? = some (some hit.outcome) := by
  induction iterates with
  | finished => simp
  | met next _ ih => exact List.forall_mem_cons.mpr ⟨(bounds_of_next? next).1, ih⟩

theorem bounds (iterates : Iterates outcomes last hits) :
    ∀ hit ∈ hits, last.getD 0 ≤ hit.start ∧ ∀ stop ∈ last, stop < hit.stop := by
  induction iterates with
  | finished => simp
  | @met last hit hits next _ ih =>
    have first := (bounds_of_next? next).2
    refine List.forall_mem_cons.mpr ⟨first, fun later member => ?_⟩
    obtain ⟨start, behind⟩ := ih later member
    have ends := hit.start_le_stop
    have after := behind hit.stop rfl
    simp only [Option.getD_some] at start
    exact ⟨by omega, fun stop known => Nat.lt_trans (first.2 stop known) after⟩

theorem ordered (iterates : Iterates outcomes last hits) :
    hits.Pairwise fun left right => left.stop ≤ right.start ∧ left.stop < right.stop := by
  induction iterates with
  | finished => exact .nil
  | @met last hit hits next rest ih =>
    exact .cons (fun later member => ⟨(rest.bounds later member).1, (rest.bounds later member).2 _ rfl⟩) ih

theorem behind {before after : List Hit} (iterates : Iterates outcomes last (before ++ hit :: after)) :
    Iterates outcomes (some hit.stop) after := by
  induction before generalizing last with
  | nil =>
    cases iterates with
    | met _ rest => exact rest
  | cons first more ih =>
    cases iterates with
    | met _ rest => exact ih rest

/-- The scan finds the matches that are met, but for empty ones. -/
theorem found_eq (iterates : Iterates outcomes last hits) :
    found outcomes (last.getD 0) = hits.filterMap fun hit => hit.outcome.match? hit.start := by
  induction iterates with
  | @finished last none =>
    obtain ⟨place, same, _, found_eq, _⟩ := exists_place_of_next? outcomes last
    rw [found_eq]
    exact scan_of_first?_eq_none (same.symm.trans none)
  | @met last hit hits next _ ih =>
    obtain ⟨place, same, _, found_eq, _⟩ := exists_place_of_next? outcomes last
    rw [found_eq, found_of_searchFrom? (same.symm.trans next), List.filterMap_cons, ← ih]
    cases hit.outcome.match? hit.start <;> rfl

end Iterates

end Hit

end Highlighter.Pattern
