import Highlighter.Proofs.Grammar.Detection

/-!
Detection as a function of the history. The last grammar that declares the extension of a file is the answer, unless
a later one was added under its name; so the answer always names a grammar that is there and is for the file.
-/

namespace Highlighter

theorem Path.extensionOf?_append (stem extension : String) (named : stem ≠ "") (dotless : '.' ∉ extension.toList) :
    extensionOf? (stem ++ "." ++ extension) = some extension := by
  have backward : (stem ++ "." ++ extension).toList.reverse =
      extension.toList.reverse ++ '.' :: stem.toList.reverse := by
    simp
  have passed : ∀ char ∈ extension.toList.reverse, decide (char ≠ '.') = true := by
    intro char member
    exact decide_eq_true fun same => dotless (same ▸ List.mem_reverse.mp member)
  obtain ⟨last, rest, stemEnd⟩ : ∃ last rest, stem.toList.reverse = last :: rest := by
    refine List.exists_cons_of_ne_nil fun empty => named ?_
    rw [← String.toList_inj]
    simpa using empty
  simp only [extensionOf?, backward, List.dropWhile_append_of_pos passed, List.takeWhile_append_of_pos passed, stemEnd]
  simp

theorem Path.extension?_of_final {path stem extension : String}
    (final : (components path).getLast? = some (stem ++ "." ++ extension)) (named : stem ≠ "")
    (dotless : '.' ∉ extension.toList) (notUp : stem ++ "." ++ extension ≠ "..") :
    extension? path = some extension := by
  have file : fileName? path = some (stem ++ "." ++ extension) := by
    unfold fileName?
    rw [final]
    split
    next up => exact absurd (Option.some.inj up) notUp
    next => rfl
  rw [extension?, file, Option.bind_some, extensionOf?_append stem extension named dotless]

namespace GrammarRegistry

/-- The addition with a number is the last one of a grammar that declares the extension. -/
structure LastDeclaration (added : List Grammar) (extension : String) (index : Nat) (grammar : Grammar) : Prop where
  found : added[index]? = some grammar
  declares : grammar.Declares extension
  last : ∀ later > index, ∀ other ∈ added[later]?, ¬ other.Declares extension

/-- A grammar is added under the name behind the addition with a number. -/
def Renamed (added : List Grammar) (index : Nat) (name : String) : Prop :=
  ∃ later > index, ∃ other ∈ added[later]?, other.name = name

/-- Detection answers for the extension of a file as the additions and their order tell. -/
structure FollowsHistory (added : List Grammar) (extension : String) (answer : Option String) : Prop where
  /-- The last grammar that declares the extension is the answer as long as its name is its own. -/
  kept : ∀ index grammar, LastDeclaration added extension index grammar →
    ¬ Renamed added index grammar.name → answer = some grammar.name
  /-- A later grammar of its name takes the answer away. -/
  replaced : ∀ index grammar, LastDeclaration added extension index grammar →
    Renamed added index grammar.name → answer = none
  /-- An extension that nothing declares has no answer. -/
  undeclared : (¬ ∃ index grammar, LastDeclaration added extension index grammar) → answer = none

theorem lastAdded_iff_getElem? {supersedes : Grammar → Prop} {grammar : Grammar} {added : List Grammar} :
    LastAdded supersedes grammar added ↔
      ∃ index : Nat, added[index]? = some grammar ∧ ∀ later > index, ∀ other ∈ added[later]?, ¬ supersedes other := by
  constructor
  · rintro ⟨before, after, rfl, quiet⟩
    refine ⟨before.length, by simp, fun later behind other member => quiet other ?_⟩
    obtain ⟨skip, rfl⟩ : ∃ skip, later = before.length + (skip + 1) := ⟨later - before.length - 1, by omega⟩
    rw [List.getElem?_append_right (Nat.le_add_right _ _), Nat.add_sub_cancel_left, List.getElem?_cons_succ] at member
    exact List.mem_of_getElem? member
  · rintro ⟨index, found, quiet⟩
    obtain ⟨inside, rfl⟩ := List.getElem?_eq_some_iff.mp found
    refine ⟨added.take index, added.drop (index + 1), ?_, fun other member => ?_⟩
    · rw [List.getElem_cons_drop, List.take_append_drop]
    · obtain ⟨skip, at'⟩ := List.mem_iff_getElem?.mp member
      rw [List.getElem?_drop] at at'
      exact quiet (index + 1 + skip) (by omega) other at'

theorem detect?_eq_some_iff {added : List Grammar} {path extension name : String}
    (found : Path.extension? path = some extension) :
    (ofAdded added).detect? path = some name ↔
      ∃ index grammar, LastDeclaration added (Unicode.lowercaseText extension) index grammar ∧
        grammar.name = name ∧ ¬ Renamed added index name := by
  rw [detect?_ofAdded]
  simp only [isFor_iff found, lastAdded_iff_getElem?]
  constructor
  · rintro ⟨owner, named, declares, ⟨index, owned, last⟩, place, again, lastNamed⟩
    -- Both places hold the owner, so neither is behind the other.
    have same : index = place := by
      rcases Nat.lt_trichotomy index place with below | same | above
      · exact absurd declares (last place below owner again)
      · exact same
      · exact absurd named (lastNamed index above owner owned)
    refine ⟨index, owner, ⟨owned, declares, last⟩, named, ?_⟩
    rintro ⟨later, behind, other, member, otherNamed⟩
    exact lastNamed later (same ▸ behind) other member otherNamed
  · rintro ⟨index, grammar, ⟨owned, declares, last⟩, named, unnamed⟩
    refine ⟨grammar, named, declares, ⟨index, owned, last⟩, index, owned, ?_⟩
    intro later behind other member otherNamed
    exact unnamed ⟨later, behind, other, member, otherNamed⟩

theorem LastDeclaration.unique {added : List Grammar} {extension : String} {left right : Nat} {first second : Grammar}
    (leftLast : LastDeclaration added extension left first) (rightLast : LastDeclaration added extension right second) :
    left = right ∧ first = second := by
  have same : left = right := by
    rcases Nat.lt_trichotomy left right with below | same | above
    · exact absurd rightLast.declares (leftLast.last right below second rightLast.found)
    · exact same
    · exact absurd leftLast.declares (rightLast.last left above first leftLast.found)
  subst same
  exact ⟨rfl, Option.some.inj (leftLast.found.symm.trans rightLast.found)⟩

theorem followsHistory_detect? {added : List Grammar} {path extension : String}
    (found : Path.extension? path = some extension) :
    FollowsHistory added (Unicode.lowercaseText extension) ((ofAdded added).detect? path) where
  kept index grammar last unnamed := (detect?_eq_some_iff found).mpr ⟨index, grammar, last, rfl, unnamed⟩
  replaced := by
    intro index grammar last renamed
    rw [Option.eq_none_iff_forall_ne_some]
    intro name answered
    obtain ⟨place, other, otherLast, rfl, unnamed⟩ := (detect?_eq_some_iff found).mp answered
    obtain ⟨rfl, rfl⟩ := last.unique otherLast
    exact unnamed renamed
  undeclared := by
    intro undeclared
    rw [Option.eq_none_iff_forall_ne_some]
    intro name answered
    obtain ⟨index, grammar, last, -⟩ := (detect?_eq_some_iff found).mp answered
    exact undeclared ⟨index, grammar, last⟩

theorem get_of_detect? {added : List Grammar} {path name : String}
    (detected : (ofAdded added).detect? path = some name) :
    ∃ grammar, (ofAdded added).get name = .ok grammar ∧ grammar.name = name ∧ grammar.IsFor path := by
  obtain ⟨owner, named, isFor, -, last⟩ := (detect?_ofAdded name).mp detected
  exact ⟨owner, (get_ofAdded added name owner).mpr ⟨named, last⟩, named, isFor⟩

/-- What detection answers is told by the grammars added to the empty registry and their order, and in every registry
reached so, the built-in one among them, it names a grammar that is there and is for the file. -/
theorem detect?_followsHistory (added : List Grammar) (path stem extension : String)
    (final : (Path.components path).getLast? = some (stem ++ "." ++ extension)) (named : stem ≠ "")
    (dotless : '.' ∉ extension.toList) (notUp : stem ++ "." ++ extension ≠ "..") :
    FollowsHistory added (Unicode.lowercaseText extension) ((added.foldl add {}).detect? path) ∧
      Catalog.builtIn.grammars = Grammar.builtIn.foldl add {} ∧
      ∀ other name, (added.foldl add {}).detect? other = some name →
        ∃ grammar, (added.foldl add {}).get name = .ok grammar ∧ grammar.name = name ∧ grammar.IsFor other :=
  ⟨followsHistory_detect? (Path.extension?_of_final final named dotless notUp), rfl, fun _ _ => get_of_detect?⟩

/-- A file with nothing but a dot in front of its last dot, and an extension that was taken over in capitals. -/
theorem detect?_followsHistory_capitals :
    ((Path.components "..X").getLast? = some ("." ++ "." ++ "X") ∧ "." ≠ "" ∧ '.' ∉ "X".toList ∧
        "." ++ "." ++ "X" ≠ "..") ∧
      ([{ name := "a", extensions := ["x"] }, { name := "b", extensions := ["X"] }].foldl add {}).detect? "..X" =
        some "b" := by
  have final : (Path.components "..X").getLast? = some ("." ++ "." ++ "X") := by decide
  have named : "." ≠ "" := by decide
  have dotless : '.' ∉ "X".toList := by decide
  have notUp : "." ++ "." ++ "X" ≠ ".." := by decide
  have answers := (detect?_followsHistory
    [{ name := "a", extensions := ["x"] }, { name := "b", extensions := ["X"] }] "..X" "." "X" final named dotless
    notUp).1
  have quiet (later : Nat) (behind : later > 1) :
      ([{ name := "a", extensions := ["x"] }, { name := "b", extensions := ["X"] }] : List Grammar)[later]? = none :=
    List.getElem?_eq_none behind
  have last : LastDeclaration [{ name := "a", extensions := ["x"] }, { name := "b", extensions := ["X"] }]
      (Unicode.lowercaseText "X") 1 { name := "b", extensions := ["X"] } :=
    ⟨rfl, ⟨"X", List.mem_cons_self .., rfl⟩, fun later behind other member => by
      rw [quiet later behind] at member
      cases member⟩
  refine ⟨⟨final, named, dotless, notUp⟩, answers.kept 1 _ last ?_⟩
  rintro ⟨later, behind, other, member, -⟩
  rw [quiet later behind] at member
  cases member

end GrammarRegistry

end Highlighter
