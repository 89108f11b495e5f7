import Highlighter.Proofs.Grammar.History
import Mathlib.Tactic.ByContra

/-! Detection finds no grammar for a file although one for it is there in just one case: the last grammar that took
its extension was replaced by one that no longer declares it. -/

namespace Highlighter

def Grammar.IsFor (grammar : Grammar) (path : String) : Prop :=
  ∃ extension, Path.extension? path = some extension ∧ grammar.Declares (Unicode.lowercaseText extension)

namespace GrammarRegistry

/-- Detection that finds no grammar for a file misses none: no grammar of the registry is for it. -/
def Detects (registry : GrammarRegistry) (path : String) : Prop :=
  registry.detect? path = none → ∀ name grammar, registry.get name = .ok grammar → ¬ grammar.IsFor path

/-- The last grammar for a file was replaced by a later one of its name, and another one for the file was not. -/
structure Orphaned (added : List Grammar) (path : String) : Prop where
  /-- The owner of the extension lost it with its name. -/
  replaced : ∃ owner, owner.IsFor path ∧ LastAdded (·.IsFor path) owner added ∧
    ¬ LastAdded (·.name = owner.name) owner added
  /-- Another grammar for the file still has its name. -/
  held : ∃ holder, holder.IsFor path ∧ LastAdded (·.name = holder.name) holder added

variable {added : List Grammar} {path extension : String}

theorem isFor_iff (found : Path.extension? path = some extension) (grammar : Grammar) :
    grammar.IsFor path ↔ grammar.Declares (Unicode.lowercaseText extension) := by
  unfold Grammar.IsFor
  simp [found]

/-- Detection answers the name of the last grammar for a file, unless that was replaced since. -/
theorem detect?_ofAdded (name : String) :
    (ofAdded added).detect? path = some name ↔
      ∃ owner, owner.name = name ∧ owner.IsFor path ∧ LastAdded (·.IsFor path) owner added ∧
        LastAdded (·.name = name) owner added := by
  unfold detect?
  cases found : Path.extension? path with
  | none => simp [Grammar.IsFor, found]
  | some extension =>
    rw [Option.bind_some, owner_ofAdded]
    simp only [isFor_iff found]

theorem Orphaned.not_detects (orphaned : Orphaned added path) : ¬ (ofAdded added).Detects path := by
  intro detects
  obtain ⟨⟨owner, ownerIsFor, last, replaced⟩, holder, holderIsFor, held⟩ := orphaned
  have undetected : (ofAdded added).detect? path = none := by
    rw [Option.eq_none_iff_forall_ne_some]
    intro name detected
    obtain ⟨other, rfl, otherIsFor, lastOther, kept⟩ := (detect?_ofAdded name).mp detected
    have same : owner = other := last.unique lastOther ownerIsFor otherIsFor
    exact replaced (same ▸ kept)
  have found := (get_ofAdded added holder.name holder).mpr ⟨rfl, held⟩
  exact detects undetected holder.name holder found holderIsFor

theorem detects_of_not_orphaned (whole : ¬ Orphaned added path) : (ofAdded added).Detects path := by
  intro undetected name grammar found isFor
  obtain ⟨named, held⟩ := (get_ofAdded added name grammar).mp found
  have someLast : ∃ owner, owner.IsFor path ∧ LastAdded (·.IsFor path) owner added := exists_lastAdded held.mem isFor
  obtain ⟨owner, ownerIsFor, last⟩ := someLast
  have kept : LastAdded (·.name = owner.name) owner added := by
    by_contra replaced
    exact whole ⟨⟨owner, ownerIsFor, last, replaced⟩, grammar, isFor, named ▸ held⟩
  have detected := (detect?_ofAdded owner.name).mpr ⟨owner, rfl, ownerIsFor, last, kept⟩
  rw [undetected] at detected
  exact absurd detected (Option.some_ne_none _).symm

/-- A registry that was reached from the empty or from the built-in one detects a grammar for each file that one of
its grammars is for, just when the extension was not orphaned. -/
theorem detects_iff_not_orphaned (added : List Grammar) (path : String) :
    ((added.foldl add {}).Detects path ↔ ¬ Orphaned added path) ∧
      ((added.foldl add Catalog.builtIn.grammars).Detects path ↔ ¬ Orphaned (Grammar.builtIn ++ added) path) := by
  have ofHistory (history : List Grammar) : (ofAdded history).Detects path ↔ ¬ Orphaned history path :=
    ⟨fun detects orphaned => orphaned.not_detects detects, detects_of_not_orphaned⟩
  refine ⟨ofHistory added, ?_⟩
  rw [foldl_add_builtIn]
  exact ofHistory (Grammar.builtIn ++ added)

/-- Two grammars share an extension, and the later one is replaced by one without it: the earlier one is there but
its files are not detected. -/
theorem exists_undetected :
    ¬ ∀ (added : List Grammar) (path : String), (added.foldl add {}).Detects path := by
  intro detects
  have missed := detects [{ name := "a", extensions := ["x"] }, { name := "b", extensions := ["x"] }, { name := "b" }]
    "f.x" (by decide) "a" { name := "a", extensions := ["x"] } rfl
  exact missed ⟨"x", by decide, "x", List.mem_cons_self, by decide⟩

end GrammarRegistry

end Highlighter
