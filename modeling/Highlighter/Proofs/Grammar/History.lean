import Highlighter.Catalog
import Highlighter.Proofs.Dictionary
import Mathlib.Data.List.Induction

/-! Registries as functions of their history: which grammar a name has and which one owns an extension, told by
the grammars that were added and their order. -/

namespace Highlighter

/-- The grammar lists an extension that reads so in lower case. -/
def Grammar.Declares (grammar : Grammar) (extension : String) : Prop :=
  ∃ declared ∈ grammar.extensions, Unicode.lowercaseText declared = extension

instance (grammar : Grammar) (extension : String) : Decidable (grammar.Declares extension) :=
  inferInstanceAs (Decidable (∃ declared ∈ grammar.extensions, Unicode.lowercaseText declared = extension))

namespace GrammarRegistry

def ofAdded (added : List Grammar) : GrammarRegistry := added.foldl add {}

theorem ofAdded_concat (added : List Grammar) (new : Grammar) : ofAdded (added ++ [new]) = (ofAdded added).add new :=
  List.foldl_append ..

theorem foldl_add_builtIn (added : List Grammar) :
    added.foldl add Catalog.builtIn.grammars = ofAdded (Grammar.builtIn ++ added) :=
  (List.foldl_append ..).symm

/-- The grammar was added, and after it none that supersedes it. -/
def LastAdded (supersedes : Grammar → Prop) (grammar : Grammar) (added : List Grammar) : Prop :=
  ∃ before after, added = before ++ grammar :: after ∧ ∀ later ∈ after, ¬ supersedes later

section LastAdded

variable {supersedes : Grammar → Prop} {grammar other new : Grammar} {added : List Grammar}

@[simp] theorem not_lastAdded_nil : ¬ LastAdded supersedes grammar [] := by
  rintro ⟨before, after, split, -⟩
  exact List.cons_ne_nil _ _ (List.append_eq_nil_iff.mp split.symm).2

theorem lastAdded_concat :
    LastAdded supersedes grammar (added ++ [new]) ↔
      grammar = new ∨ ¬ supersedes new ∧ LastAdded supersedes grammar added := by
  constructor
  · rintro ⟨before, after, split, quiet⟩
    rcases List.eq_nil_or_concat after with rfl | ⟨rest, last, rfl⟩
    · have ends := (List.append_inj' split rfl).2
      exact .inl (List.singleton_inj.mp ends.symm)
    · rw [List.concat_eq_append, ← List.cons_append, ← List.append_assoc] at split
      obtain ⟨earlier, ends⟩ := List.append_inj' split rfl
      rw [List.singleton_inj.mp ends]
      have passed := quiet last (by simp)
      refine .inr ⟨passed, before, rest, earlier, fun later member => quiet later ?_⟩
      exact List.concat_eq_append ▸ List.mem_append_left _ member
  · rintro (rfl | ⟨passes, before, after, rfl, quiet⟩)
    · exact ⟨added, [], rfl, by simp⟩
    · refine ⟨before, after ++ [new], by simp, fun later member => ?_⟩
      rcases List.mem_append.mp member with earlier | last
      · exact quiet later earlier
      · rw [List.mem_singleton.mp last]
        exact passes

theorem lastAdded_append {older newer : List Grammar} :
    LastAdded supersedes grammar (older ++ newer) ↔
      LastAdded supersedes grammar newer ∨
        LastAdded supersedes grammar older ∧ ∀ later ∈ newer, ¬ supersedes later := by
  induction newer using List.reverseRecOn with
  | nil => simp
  | append_singleton newer new ih =>
    rw [← List.append_assoc, lastAdded_concat, lastAdded_concat, ih, List.forall_mem_append,
      List.forall_mem_singleton]
    tauto

theorem exists_lastAdded (member : grammar ∈ added) (supersede : supersedes grammar) :
    ∃ last, supersedes last ∧ LastAdded supersedes last added := by
  induction added using List.reverseRecOn with
  | nil => simp at member
  | append_singleton added new ih =>
    by_cases newer : supersedes new
    · exact ⟨new, newer, lastAdded_concat.mpr (.inl rfl)⟩
    · have earlier : grammar ∈ added := by
        rcases List.mem_append.mp member with earlier | last
        · exact earlier
        · exact absurd (List.mem_singleton.mp last ▸ supersede) newer
      obtain ⟨last, lastSupersedes, isLast⟩ := ih earlier
      exact ⟨last, lastSupersedes, lastAdded_concat.mpr (.inr ⟨newer, isLast⟩)⟩

theorem LastAdded.mem (last : LastAdded supersedes grammar added) : grammar ∈ added := by
  obtain ⟨before, after, rfl, -⟩ := last
  simp

theorem LastAdded.unique (last : LastAdded supersedes grammar added) (lastOther : LastAdded supersedes other added)
    (supersede : supersedes grammar) (supersedeOther : supersedes other) : grammar = other := by
  induction added using List.reverseRecOn with
  | nil => exact absurd last not_lastAdded_nil
  | append_singleton added new ih =>
    rcases lastAdded_concat.mp last with same | ⟨passed, earlier⟩
    · rcases lastAdded_concat.mp lastOther with sameOther | ⟨passedOther, -⟩
      · rw [same, sameOther]
      · exact absurd (same ▸ supersede) passedOther
    · rcases lastAdded_concat.mp lastOther with sameOther | ⟨-, earlierOther⟩
      · exact absurd (sameOther ▸ supersedeOther) passed
      · exact ih earlier earlierOther

end LastAdded

theorem get_add (registry : GrammarRegistry) (new : Grammar) (name : String) :
    (registry.add new).get name = if name = new.name then .ok new else registry.get name := by
  unfold get add
  rw [Dictionary.get?_insert]
  by_cases same : name = new.name
  · rw [if_pos same, if_pos same]
  · rw [if_neg same, if_neg same]

theorem get_ofAdded (added : List Grammar) (name : String) (grammar : Grammar) :
    (ofAdded added).get name = .ok grammar ↔
      grammar.name = name ∧ LastAdded (·.name = name) grammar added := by
  induction added using List.reverseRecOn with
  | nil => simp [ofAdded, get, Dictionary.get?]
  | append_singleton added new ih =>
    rw [ofAdded_concat, get_add, lastAdded_concat]
    by_cases same : name = new.name
    · rw [if_pos same]
      constructor
      · rintro ⟨⟩
        exact ⟨same.symm, .inl rfl⟩
      · rintro ⟨-, rfl | ⟨different, -⟩⟩
        · rfl
        · exact absurd same.symm different
    · rw [if_neg same, ih]
      constructor
      · rintro ⟨named, last⟩
        exact ⟨named, .inr ⟨Ne.symm same, last⟩⟩
      · rintro ⟨named, rfl | ⟨-, last⟩⟩
        · exact absurd named.symm same
        · exact ⟨named, last⟩

theorem get?_declare (extensions : List String) (name : String) (owners : Dictionary String) (extension : String) :
    Dictionary.get? (extensions.foldl (fun owners declared => owners.insert (Unicode.lowercaseText declared) name)
      owners) extension =
      if ∃ declared ∈ extensions, Unicode.lowercaseText declared = extension then some name
      else owners.get? extension := by
  induction extensions generalizing owners with
  | nil => simp
  | cons declared rest ih =>
    rw [List.foldl_cons, ih, Dictionary.get?_insert]
    by_cases later : ∃ declared ∈ rest, Unicode.lowercaseText declared = extension
    · simp [later]
    · by_cases now : extension = Unicode.lowercaseText declared
      · simp [now]
      · simp [later, now, Ne.symm now]

theorem ascending_owners_add {registry : GrammarRegistry} (ascending : registry.owners.Ascending) (new : Grammar) :
    (registry.add new).owners.Ascending := by
  have kept := Dictionary.ascending_filter (·.2 ≠ new.name) ascending
  unfold add
  generalize registry.owners.filter (·.2 ≠ new.name) = owners at kept ⊢
  induction new.extensions generalizing owners with
  | nil => exact kept
  | cons declared rest ih => exact ih _ (Dictionary.ascending_insert _ _ kept)

theorem ascending_owners_ofAdded (added : List Grammar) : (ofAdded added).owners.Ascending := by
  induction added using List.reverseRecOn with
  | nil => exact List.Pairwise.nil
  | append_singleton added new ih =>
    rw [ofAdded_concat]
    exact ascending_owners_add ih new

/-- An added grammar takes the extensions that it declares and gives up those that an earlier one of its name
held. -/
theorem owner_add {registry : GrammarRegistry} (ascending : registry.owners.Ascending) (new : Grammar)
    (extension : String) :
    (registry.add new).owners.get? extension =
      if new.Declares extension then some new.name
      else (registry.owners.get? extension).filter (· ≠ new.name) := by
  unfold add
  rw [get?_declare, Dictionary.get?_filter _ ascending]
  rfl

/-- The owner of an extension is the grammar that declared it last, until another one is added under its name. -/
theorem owner_ofAdded (added : List Grammar) (extension name : String) :
    (ofAdded added).owners.get? extension = some name ↔
      ∃ owner, owner.name = name ∧ owner.Declares extension ∧
        LastAdded (·.Declares extension) owner added ∧ LastAdded (·.name = name) owner added := by
  induction added using List.reverseRecOn with
  | nil => simp [ofAdded, Dictionary.get?]
  | append_singleton added new ih =>
    rw [ofAdded_concat, owner_add (ascending_owners_ofAdded added)]
    by_cases declares : new.Declares extension
    · rw [if_pos declares]
      constructor
      · rintro ⟨⟩
        exact ⟨new, rfl, declares, lastAdded_concat.mpr (.inl rfl), lastAdded_concat.mpr (.inl rfl)⟩
      · rintro ⟨owner, rfl, -, last, -⟩
        rcases lastAdded_concat.mp last with rfl | ⟨passed, -⟩
        · rfl
        · exact absurd declares passed
    · rw [if_neg declares, Option.filter_eq_some_iff, ih]
      constructor
      · rintro ⟨⟨owner, named, declared, last, lastNamed⟩, different⟩
        have renamed : new.name ≠ name := Ne.symm (of_decide_eq_true different)
        exact ⟨owner, named, declared, lastAdded_concat.mpr (.inr ⟨declares, last⟩),
          lastAdded_concat.mpr (.inr ⟨renamed, lastNamed⟩)⟩
      · rintro ⟨owner, named, declared, last, lastNamed⟩
        have older : owner ≠ new := fun same => declares (same ▸ declared)
        obtain ⟨-, last⟩ := (lastAdded_concat.mp last).resolve_left older
        obtain ⟨renamed, lastNamed⟩ := (lastAdded_concat.mp lastNamed).resolve_left older
        exact ⟨⟨owner, named, declared, last, lastNamed⟩, decide_eq_true (Ne.symm renamed)⟩

end GrammarRegistry

end Highlighter
