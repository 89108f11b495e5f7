import Highlighter.Dictionary
import Mathlib.Data.List.Induction
import Mathlib.Data.List.Sort
import Mathlib.Data.Option.Basic
import Mathlib.Tactic.ByContra

/-! Dictionaries keep their names ascending, so that each name has one entry and leaving entries out is seen
by name. -/

namespace Highlighter.Dictionary

variable {α : Type}

def Ascending (entries : Dictionary α) : Prop := entries.Pairwise (·.1 < ·.1)

theorem mem_of_get? {entries : Dictionary α} {name : String} {value : α} (found : entries.get? name = some value) :
    (name, value) ∈ entries := by
  induction entries with
  | nil => simp [get?] at found
  | cons entry rest ih =>
    obtain ⟨other, old⟩ := entry
    by_cases same : name = other
    · subst same
      have values : old = value := by simpa [get?] using found
      rw [values]
      exact List.mem_cons_self
    · have later : get? rest name = some value := by simpa [get?, same] using found
      exact List.mem_cons_of_mem _ (ih later)

theorem mem_insert {name : String} {value : α} {entries : Dictionary α} {entry : String × α}
    (member : entry ∈ insert name value entries) : entry = (name, value) ∨ entry ∈ entries := by
  induction entries with
  | nil => exact .inl (by simpa [insert] using member)
  | cons head rest ih =>
    unfold insert at member
    split at member
    · exact List.mem_cons.mp member
    · split at member
      · rcases List.mem_cons.mp member with fresh | old
        · exact .inl fresh
        · exact .inr (List.mem_cons_of_mem _ old)
      · rcases List.mem_cons.mp member with same | later
        · exact .inr (same ▸ List.mem_cons_self)
        · rcases ih later with fresh | old
          · exact .inl fresh
          · exact .inr (List.mem_cons_of_mem _ old)

theorem ascending_insert (name : String) (value : α) {entries : Dictionary α} (ascending : entries.Ascending) :
    (insert name value entries).Ascending := by
  induction entries with
  | nil => exact List.pairwise_singleton _ _
  | cons head rest ih =>
    obtain ⟨first, ascendingRest⟩ := List.pairwise_cons.mp ascending
    unfold insert
    split
    next below =>
      refine List.pairwise_cons.mpr ⟨fun entry member => ?_, ascending⟩
      rcases List.mem_cons.mp member with same | later
      · exact same ▸ below
      · exact String.lt_trans below (first entry later)
    next notBelow =>
      split
      next same => exact List.pairwise_cons.mpr ⟨same ▸ first, ascendingRest⟩
      next different =>
        have above : head.1 < name := by
          by_contra notAbove
          exact different (String.le_antisymm (String.not_lt.mp notAbove) (String.not_lt.mp notBelow))
        refine List.pairwise_cons.mpr ⟨fun entry member => ?_, ih ascendingRest⟩
        rcases mem_insert member with fresh | old
        · exact fresh ▸ above
        · exact first entry old

theorem ascending_ofEntries (entries : List (String × α)) : (ofEntries entries).Ascending := by
  induction entries using List.reverseRecOn with
  | nil => exact List.Pairwise.nil
  | append_singleton entries entry ih =>
    rw [ofEntries, List.foldl_append]
    exact ascending_insert _ _ ih

theorem ascending_filter (keep : String × α → Bool) {entries : Dictionary α} (ascending : entries.Ascending) :
    Ascending (entries.filter keep) :=
  List.Pairwise.filter keep ascending

theorem get?_filter (keep : String × α → Bool) {entries : Dictionary α} (ascending : entries.Ascending)
    (name : String) :
    Dictionary.get? (entries.filter keep) name = (entries.get? name).filter fun value => keep (name, value) := by
  induction entries with
  | nil => rfl
  | cons head rest ih =>
    obtain ⟨other, value⟩ := head
    obtain ⟨first, ascendingRest⟩ := List.pairwise_cons.mp ascending
    by_cases same : name = other
    · subst same
      cases kept : keep (name, value) with
      | true => simp [get?, kept, Option.filter_some]
      | false =>
        -- The left-out entry was the only one of its name.
        have absent : Dictionary.get? (rest.filter keep) name = none := by
          rw [Option.eq_none_iff_forall_ne_some]
          intro old found
          have member := (List.mem_filter.mp (mem_of_get? found)).1
          exact String.lt_irrefl name (first (name, old) member)
        simp [get?, kept, absent, Option.filter_some]
    · cases kept : keep (other, value) with
      | true => simp [get?, kept, same, ih ascendingRest]
      | false => simp [get?, kept, same, ih ascendingRest]

theorem get?_eq_some_iff {entries : Dictionary α} (ascending : entries.Ascending) (name : String) (value : α) :
    entries.get? name = some value ↔ (name, value) ∈ entries := by
  refine ⟨mem_of_get?, fun member => ?_⟩
  induction entries with
  | nil => exact absurd member List.not_mem_nil
  | cons head rest ih =>
    obtain ⟨first, ascendingRest⟩ := List.pairwise_cons.mp ascending
    rcases List.mem_cons.mp member with same | later
    · simp [← same, get?]
    · have below : head.1 < name := first (name, value) later
      have different : name ≠ head.1 := fun same => String.lt_irrefl name (same ▸ below)
      simpa [get?, different] using ih ascendingRest later

theorem get?_eq_none_iff (entries : Dictionary α) (name : String) :
    entries.get? name = none ↔ name ∉ entries.names := by
  induction entries with
  | nil => simp [get?, names]
  | cons head rest ih =>
    obtain ⟨other, value⟩ := head
    unfold names at ih ⊢
    by_cases same : name = other
    · simp [get?, same]
    · simp [get?, same, ih]

/-- What is found under each name tells the dictionary. -/
theorem Ascending.eq_of_get? {left right : Dictionary α} (leftAscending : left.Ascending)
    (rightAscending : right.Ascending) (same : ∀ name, left.get? name = right.get? name) : left = right := by
  have irrefl : Std.Irrefl fun left right : String × α => left.1 < right.1 := ⟨fun entry => String.lt_irrefl entry.1⟩
  have asymm : Std.Antisymm fun left right : String × α => left.1 < right.1 :=
    ⟨fun _ _ below above => absurd above (String.lt_asymm below)⟩
  refine leftAscending.eq_of_mem_iff rightAscending fun entry => ?_
  rw [← get?_eq_some_iff leftAscending, ← get?_eq_some_iff rightAscending, same]

section OfNamed

def ofNamed (nameOf : α → String) (items : List α) : Dictionary α :=
  items.foldl (fun entries item => entries.insert (nameOf item) item) []

variable (nameOf : α → String) (items : List α)

theorem ofNamed_concat (item : α) :
    ofNamed nameOf (items ++ [item]) = (ofNamed nameOf items).insert (nameOf item) item :=
  List.foldl_append ..

theorem ascending_ofNamed : (ofNamed nameOf items).Ascending := by
  have entries : ofNamed nameOf items = ofEntries (items.map fun item => (nameOf item, item)) := by
    rw [ofNamed, ofEntries, List.foldl_map]
  exact entries ▸ ascending_ofEntries _

/-- Under a name stands the last item of that name, which is one of the later items if there is one among them. -/
theorem get?_ofNamed_append (later : List α) (name : String) :
    (ofNamed nameOf (items ++ later)).get? name =
      ((later.reverse.find? fun item => nameOf item = name).or ((ofNamed nameOf items).get? name)) := by
  induction later using List.reverseRecOn with
  | nil => simp
  | append_singleton later item ih =>
    rw [← List.append_assoc, ofNamed_concat, get?_insert, ih, List.reverse_concat, List.find?_cons]
    by_cases same : nameOf item = name
    · simp [same]
    · simp [same, Ne.symm same]

theorem ofNamed_append_append (later : List α) :
    ofNamed nameOf (items ++ later ++ later) = ofNamed nameOf (items ++ later) := by
  refine Ascending.eq_of_get? (ascending_ofNamed ..) (ascending_ofNamed ..) fun name => ?_
  rw [get?_ofNamed_append, get?_ofNamed_append, ← Option.or_assoc, Option.or_self]

end OfNamed

end Highlighter.Dictionary
