import Highlighter.Proofs.Grammar.History

/-!
Additions in another order. Two grammars of different names that declare no extension both can be added in either order:
what one of them takes or gives up, the other neither takes nor gives up.
-/

namespace Highlighter

/-- The grammars have different names and no extension in common, up to case. -/
structure Grammar.Independent (first second : Grammar) : Prop where
  name_ne : first.name ≠ second.name
  not_declares_both : ∀ extension, ¬ (first.Declares extension ∧ second.Declares extension)

theorem Grammar.Independent.symm {first second : Grammar} (independent : first.Independent second) :
    second.Independent first where
  name_ne := independent.name_ne.symm
  not_declares_both extension both := independent.not_declares_both extension both.symm

namespace GrammarRegistry

/-- The registries cannot be told apart: they hold the same grammars and detect the same one for every file. -/
structure SameAnswers (left right : GrammarRegistry) : Prop where
  get_eq : ∀ name, left.get name = right.get name
  names_eq : left.names = right.names
  detect?_eq : ∀ path, left.detect? path = right.detect? path

theorem SameAnswers.refl (registry : GrammarRegistry) : SameAnswers registry registry :=
  ⟨fun _ => rfl, rfl, fun _ => rfl⟩

/-- Names and extensions ascend, as they do in every registry that is reached by additions. -/
structure Ordered (registry : GrammarRegistry) : Prop where
  grammars : registry.grammars.Ascending
  owners : registry.owners.Ascending

section Ordered

variable {registry left right : GrammarRegistry}

theorem Ordered.add (ordered : registry.Ordered) (new : Grammar) : (registry.add new).Ordered where
  grammars := Dictionary.ascending_insert _ _ ordered.grammars
  owners := ascending_owners_add ordered.owners new

theorem ordered_ofAdded (added : List Grammar) : (ofAdded added).Ordered := by
  induction added using List.reverseRecOn with
  | nil => exact ⟨List.Pairwise.nil, List.Pairwise.nil⟩
  | append_singleton added new ih =>
    rw [ofAdded_concat]
    exact ih.add new

theorem Ordered.eq_of_get? (leftOrdered : left.Ordered) (rightOrdered : right.Ordered)
    (grammars : ∀ name, left.grammars.get? name = right.grammars.get? name)
    (owners : ∀ extension, left.owners.get? extension = right.owners.get? extension) : left = right := by
  obtain ⟨leftGrammars, leftOwners⟩ := left
  obtain ⟨rightGrammars, rightOwners⟩ := right
  obtain rfl : leftGrammars = rightGrammars := leftOrdered.grammars.eq_of_get? rightOrdered.grammars grammars
  obtain rfl : leftOwners = rightOwners := leftOrdered.owners.eq_of_get? rightOrdered.owners owners
  rfl

variable {first second : Grammar}

/-- An extension that neither of two added grammars declares keeps its owner, unless that has one of their names. -/
theorem owner_add_add (ordered : registry.Ordered) (independent : first.Independent second) (extension : String) :
    ((registry.add first).add second).owners.get? extension =
      if first.Declares extension then some first.name
      else if second.Declares extension then some second.name
      else (registry.owners.get? extension).filter fun owner => owner ≠ first.name ∧ owner ≠ second.name := by
  rw [owner_add (ordered.add first).owners, owner_add ordered.owners]
  by_cases declares : first.Declares extension
  · have notBoth : ¬ second.Declares extension := fun also => independent.not_declares_both extension ⟨declares, also⟩
    simp [declares, notBoth, Option.filter_some, independent.name_ne]
  · by_cases alsoDeclares : second.Declares extension
    · simp [declares, alsoDeclares]
    · simp [declares, alsoDeclares, Option.filter_filter]

theorem add_add_comm (ordered : registry.Ordered) (independent : first.Independent second) :
    (registry.add first).add second = (registry.add second).add first := by
  refine ((ordered.add first).add second).eq_of_get? ((ordered.add second).add first) (fun name => ?_)
    fun extension => ?_
  · simp only [add, Dictionary.get?_insert]
    by_cases named : name = first.name
    · simp [named, independent.name_ne]
    · simp [named]
  · rw [owner_add_add ordered independent, owner_add_add ordered independent.symm]
    by_cases declares : first.Declares extension
    · have notBoth : ¬ second.Declares extension :=
        fun also => independent.not_declares_both extension ⟨declares, also⟩
      rw [if_pos declares, if_neg notBoth, if_pos declares]
    · simp only [if_neg declares, and_comm]

end Ordered

/-- Independent grammars can be added in either order, to every registry that is reached from the empty or the built-in
one, whatever those registries hold of their names and extensions. -/
theorem sameAnswers_of_independent (added : List Grammar) {first second : Grammar}
    (independent : first.Independent second) :
    SameAnswers (((added.foldl add {}).add first).add second) (((added.foldl add {}).add second).add first) ∧
      SameAnswers (((added.foldl add Catalog.builtIn.grammars).add first).add second)
        (((added.foldl add Catalog.builtIn.grammars).add second).add first) := by
  have ofHistory (history : List Grammar) :
      SameAnswers (((ofAdded history).add first).add second) (((ofAdded history).add second).add first) := by
    rw [add_add_comm (ordered_ofAdded history) independent]
    exact .refl _
  refine ⟨ofHistory added, ?_⟩
  rw [foldl_add_builtIn]
  exact ofHistory (Grammar.builtIn ++ added)

/-- Two grammars that are added once more and exchange their extensions. -/
theorem sameAnswers_of_independent_exchanged :
    Grammar.Independent { name := "a", extensions := ["y"] } { name := "b", extensions := ["x"] } ∧
      SameAnswers
        ((([{ name := "a", extensions := ["x"] }, { name := "b", extensions := ["y"] }].foldl add {}).add
          { name := "a", extensions := ["y"] }).add { name := "b", extensions := ["x"] })
        ((([{ name := "a", extensions := ["x"] }, { name := "b", extensions := ["y"] }].foldl add {}).add
          { name := "b", extensions := ["x"] }).add { name := "a", extensions := ["y"] }) := by
  have independent :
      Grammar.Independent { name := "a", extensions := ["y"] } { name := "b", extensions := ["x"] } := by
    refine ⟨by decide, ?_⟩
    rintro extension ⟨⟨declared, member, rfl⟩, other, otherMember, same⟩
    rw [List.mem_singleton.mp member, List.mem_singleton.mp otherMember] at same
    exact absurd same (by decide +kernel)
  exact ⟨independent, (sameAnswers_of_independent
    [{ name := "a", extensions := ["x"] }, { name := "b", extensions := ["y"] }] independent).1⟩

end GrammarRegistry

end Highlighter
