import Highlighter.Error
import Highlighter.Proofs.Dictionary
import Highlighter.Proofs.Text.ByteOrder
import Mathlib.Data.List.Forall2

/-! Checks that stop at the first fault: what they report is the fault of the first item that has one, in the order
of a list or in that of names. -/

namespace Highlighter

variable {α β : Type}

section Results

variable {first : Except Error α} {next : α → Except Error β} {result : β} {error : Error}

theorem bind_eq_ok_iff :
    first >>= next = .ok result ↔ ∃ middle, first = .ok middle ∧ next middle = .ok result := by
  cases first with
  | error error => exact ⟨nofun, nofun⟩
  | ok middle =>
    constructor
    · intro done
      exact ⟨middle, rfl, done⟩
    · rintro ⟨_, ⟨⟩, done⟩
      exact done

theorem bind_eq_error_iff :
    first >>= next = .error error ↔
      first = .error error ∨ ∃ middle, first = .ok middle ∧ next middle = .error error := by
  cases first with
  | error other =>
    constructor
    · rintro ⟨⟩
      exact .inl rfl
    · rintro (same | ⟨_, ⟨⟩, _⟩)
      cases same
      rfl
  | ok middle =>
    constructor
    · intro wrong
      exact .inr ⟨middle, rfl, wrong⟩
    · rintro (same | ⟨_, ⟨⟩, wrong⟩)
      · cases same
      · exact wrong

theorem exists_ok_iff {fault : Error → Prop} (faults : ∀ error, first = .error error ↔ fault error) :
    (∃ value, first = .ok value) ↔ ∀ error, ¬ fault error := by
  cases first with
  | ok value =>
    have clean : ∀ error, ¬ fault error := fun error wrong => nomatch (faults error).mpr wrong
    exact ⟨fun _ => clean, fun _ => ⟨value, rfl⟩⟩
  | error error =>
    have wrong : fault error := (faults error).mp rfl
    exact ⟨nofun, fun clean => absurd wrong (clean error)⟩

end Results

/-- The check gives the value that is described and fails with the fault that there is; there is one or the other. -/
structure Judges (check : Except Error α) (described : α → Prop) (fault : Error → Prop) : Prop where
  reads : ∀ value, described value → check = .ok value
  fails : ∀ error, fault error → check = .error error
  total : (∃ value, described value) ∨ ∃ error, fault error

namespace Judges

variable {check : Except Error α} {described : α → Prop} {fault : Error → Prop} (judges : Judges check described fault)

include judges

theorem eq_ok_iff (value : α) : check = .ok value ↔ described value := by
  constructor
  · intro ok
    rcases judges.total with ⟨other, found⟩ | ⟨error, found⟩
    · rw [judges.reads other found] at ok
      cases ok
      exact found
    · rw [judges.fails error found] at ok
      cases ok
  · exact judges.reads value

theorem eq_error_iff (error : Error) : check = .error error ↔ fault error := by
  constructor
  · intro wrong
    rcases judges.total with ⟨value, found⟩ | ⟨other, found⟩
    · rw [judges.reads value found] at wrong
      cases wrong
    · rw [judges.fails other found] at wrong
      cases wrong
      exact found
  · exact judges.fails error

theorem not_fault_iff : (∀ error, ¬ fault error) ↔ ∃ value, described value := by
  rw [← exists_ok_iff judges.eq_error_iff]
  simp only [judges.eq_ok_iff]

end Judges

/-- The first item of a list that has a fault has this one. -/
def FirstFault (fault : α → Error → Prop) (items : List α) (error : Error) : Prop :=
  ∃ before item after, items = before ++ item :: after ∧ (∀ earlier ∈ before, ∀ other, ¬ fault earlier other) ∧
    fault item error

section FirstFault

variable {fault : α → Error → Prop} {item : α} {items : List α} {error : Error}

theorem not_firstFault_nil : ¬ FirstFault fault [] error := by
  rintro ⟨before, item, after, split, -⟩
  exact List.append_ne_nil_of_right_ne_nil before (List.cons_ne_nil item after) split.symm

theorem firstFault_cons :
    FirstFault fault (item :: items) error ↔
      fault item error ∨ (∀ other, ¬ fault item other) ∧ FirstFault fault items error := by
  constructor
  · rintro ⟨before, first, after, split, clean, wrong⟩
    cases before with
    | nil =>
      obtain ⟨rfl, rfl⟩ := List.cons.inj split
      exact .inl wrong
    | cons head before =>
      obtain ⟨rfl, rfl⟩ := List.cons.inj split
      have rest := fun earlier member => clean earlier (List.mem_cons_of_mem _ member)
      exact .inr ⟨clean _ List.mem_cons_self, before, first, after, rfl, rest, wrong⟩
  · rintro (wrong | ⟨clean, before, first, after, rfl, rest, wrong⟩)
    · exact ⟨[], item, items, rfl, by simp, wrong⟩
    · refine ⟨item :: before, first, after, rfl, fun earlier member => ?_, wrong⟩
      rcases List.mem_cons.mp member with rfl | later
      · exact clean
      · exact rest earlier later

theorem not_firstFault_iff :
    (∀ error, ¬ FirstFault fault items error) ↔ ∀ item ∈ items, ∀ error, ¬ fault item error := by
  induction items with
  | nil => exact ⟨fun _ item member => absurd member List.not_mem_nil, fun _ _ => not_firstFault_nil⟩
  | cons item items ih =>
    simp only [firstFault_cons, not_or, not_and, List.forall_mem_cons, ← ih]
    constructor
    · intro none
      have clean := fun error => (none error).1
      exact ⟨clean, fun error => (none error).2 clean⟩
    · intro clean error
      exact ⟨clean.1 error, fun _ => clean.2 error⟩

theorem firstFault_same_iff {wrong : α → Prop} {same : Error} :
    FirstFault (fun item error => wrong item ∧ error = same) items error ↔
      (∃ item ∈ items, wrong item) ∧ error = same := by
  induction items with
  | nil => simp [not_firstFault_nil]
  | cons item items ih =>
    rw [firstFault_cons, ih]
    by_cases here : wrong item
    · simp [here]
    · simp [here]

/-- Steps that fail just for faulty items fail for the first of these, whatever the state. -/
theorem foldlM_eq_error_iff {step : β → α → Except Error β}
    (each : ∀ item ∈ items, ∀ state error, step state item = .error error ↔ fault item error) (start : β) :
    items.foldlM step start = .error error ↔ FirstFault fault items error := by
  induction items generalizing start with
  | nil => exact ⟨nofun, fun first => absurd first not_firstFault_nil⟩
  | cons item items ih =>
    have rest := ih fun other member => each other (List.mem_cons_of_mem _ member)
    have here := each item List.mem_cons_self start
    rw [List.foldlM_cons, bind_eq_error_iff, firstFault_cons, here, ← exists_ok_iff here]
    simp only [rest, exists_and_right]

theorem mapM_eq_error_iff {check : α → Except Error β}
    (each : ∀ item ∈ items, ∀ error, check item = .error error ↔ fault item error) :
    items.mapM check = .error error ↔ FirstFault fault items error := by
  induction items with
  | nil => exact ⟨nofun, fun first => absurd first not_firstFault_nil⟩
  | cons item items ih =>
    have rest := ih fun other member => each other (List.mem_cons_of_mem _ member)
    have here := each item List.mem_cons_self
    have ended (value : β) : (do return value :: (← items.mapM check)) = .error error ↔
        FirstFault fault items error := by
      rw [bind_eq_error_iff, rest]
      exact or_iff_left nofun
    rw [List.mapM_cons, bind_eq_error_iff, firstFault_cons, here, ← exists_ok_iff here]
    simp only [ended, exists_and_right]

theorem mapM_eq_ok_iff {check : α → Except Error β} {values : List β} :
    items.mapM check = .ok values ↔ List.Forall₂ (fun item value => check item = .ok value) items values := by
  induction items generalizing values with
  | nil =>
    rw [List.forall₂_nil_left_iff]
    constructor
    · rintro ⟨⟩
      rfl
    · rintro rfl
      rfl
  | cons item items ih =>
    rw [List.mapM_cons, bind_eq_ok_iff, List.forall₂_cons_left_iff]
    simp only [← ih, bind_eq_ok_iff]
    constructor
    · rintro ⟨value, here, others, rest, same⟩
      cases same
      exact ⟨value, others, here, rest, rfl⟩
    · rintro ⟨value, others, here, rest, rfl⟩
      exact ⟨value, here, others, rest, rfl⟩

end FirstFault

section ByName

/-- Of the entries that have a fault the one whose name comes first in the order of bytes has this one. -/
def FirstFaultByName (fault : String → α → Error → Prop) (entries : Dictionary α) (error : Error) : Prop :=
  ∃ name value, (name, value) ∈ entries ∧ fault name value error ∧
    ∀ earlier old, (earlier, old) ∈ entries → Text.bytes earlier < Text.bytes name → ∀ other, ¬ fault earlier old other

variable {fault : String → α → Error → Prop} {entries : Dictionary α} {error : Error}

theorem firstFault_iff_byName (ascending : entries.Ascending) :
    FirstFault (fun entry => fault entry.1 entry.2) entries error ↔ FirstFaultByName fault entries error := by
  constructor
  · rintro ⟨before, ⟨name, value⟩, after, rfl, clean, wrong⟩
    refine ⟨name, value, by simp, wrong, fun earlier old member below => ?_⟩
    rw [Text.bytes_lt_bytes_iff] at below
    obtain ⟨-, ascending, -⟩ := List.pairwise_append.mp ascending
    rcases List.mem_append.mp member with inFront | behind
    · exact clean (earlier, old) inFront
    · rcases List.mem_cons.mp behind with same | later
      · cases same
        exact absurd below (String.lt_irrefl _)
      · have above : name < earlier := (List.pairwise_cons.mp ascending).1 (earlier, old) later
        exact absurd (String.lt_trans below above) (String.lt_irrefl earlier)
  · rintro ⟨name, value, member, wrong, clean⟩
    obtain ⟨before, after, rfl⟩ := List.append_of_mem member
    refine ⟨before, (name, value), after, rfl, fun earlier inFront => ?_, wrong⟩
    have below : earlier.1 < name := (List.pairwise_append.mp ascending).2.2 earlier inFront _ List.mem_cons_self
    exact clean earlier.1 earlier.2 (List.mem_append_left _ inFront) ((Text.bytes_lt_bytes_iff _ _).mpr below)

theorem not_firstFaultByName_iff (ascending : entries.Ascending) :
    (∀ error, ¬ FirstFaultByName fault entries error) ↔ ∀ entry ∈ entries, ∀ error, ¬ fault entry.1 entry.2 error := by
  simp only [← firstFault_iff_byName ascending, not_firstFault_iff]

end ByName

end Highlighter
