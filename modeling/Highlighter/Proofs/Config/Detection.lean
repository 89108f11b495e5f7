import Highlighter.Proofs.Grammar.Detection
import Highlighter.Proofs.Program.Listing
import Highlighter.Proofs.Unicode.Case

/-!
Which grammar a configuration has for a file. The user's grammars are registered in the order of their names behind the
built-in ones, so that the one with the greatest name takes an extension that several declare, and no built-in grammar
keeps an extension that one of them declares.
-/

namespace Highlighter

namespace GrammarRegistry

/-- In the order of names the last grammar is the one with the greatest name. -/
theorem lastAdded_iff_greatest {supersedes : Grammar → Prop} {grammar : Grammar} {added : List Grammar}
    (ascending : (added.map fun grammar => Text.bytes grammar.name).Pairwise (· < ·)) :
    LastAdded supersedes grammar added ↔
      grammar ∈ added ∧
        ∀ other ∈ added, Text.bytes grammar.name < Text.bytes other.name → ¬ supersedes other := by
  rw [List.pairwise_map] at ascending
  constructor
  · rintro ⟨before, after, rfl, quiet⟩
    obtain ⟨-, -, inOrder⟩ := List.pairwise_append.mp ascending
    refine ⟨by simp, fun other member below => ?_⟩
    rcases List.mem_append.mp member with earlier | behind
    · exact absurd (inOrder other earlier grammar List.mem_cons_self) (List.lt_asymm below)
    · rcases List.mem_cons.mp behind with rfl | later
      · exact absurd below (List.lt_irrefl _)
      · exact quiet other later
  · rintro ⟨member, greatest⟩
    obtain ⟨before, after, rfl⟩ := List.append_of_mem member
    obtain ⟨-, inOrder, -⟩ := List.pairwise_append.mp ascending
    refine ⟨before, after, rfl, fun later behind => greatest later (by simp [behind]) ?_⟩
    exact List.rel_of_pairwise_cons inOrder behind

end GrammarRegistry

namespace Grammar

theorem declares_iff_mem {grammar : Grammar}
    (small : ∀ declared ∈ grammar.extensions, ∀ char ∈ declared.toList, 97 ≤ char.toNat ∧ char.toNat ≤ 122)
    (extension : String) : grammar.Declares extension ↔ extension ∈ grammar.extensions := by
  constructor
  · rintro ⟨declared, member, rfl⟩
    rw [Unicode.lowercaseText_of_small (small declared member)]
    exact member
  · intro member
    exact ⟨extension, member, Unicode.lowercaseText_of_small (small extension member)⟩

theorem declares_javascript_iff (extension : String) :
    javascript.Declares extension ↔ extension ∈ ["js", "mjs", "cjs", "jsx"] := by
  apply declares_iff_mem
  simp [javascript]

theorem declares_python_iff (extension : String) :
    python.Declares extension ↔ extension ∈ ["py", "pyw", "pyi"] := by
  apply declares_iff_mem
  simp [python]

theorem not_isFor_both (path : String) : ¬ (javascript.IsFor path ∧ python.IsFor path) := by
  rintro ⟨⟨extension, found, script⟩, other, foundOther, snake⟩
  obtain rfl : extension = other := Option.some.inj (found.symm.trans foundOther)
  rw [declares_javascript_iff] at script
  rw [declares_python_iff] at snake
  have apart : ∀ name ∈ ["js", "mjs", "cjs", "jsx"], name ∉ ["py", "pyw", "pyi"] := by decide
  exact apart _ script snake

theorem not_named_both (name : String) : ¬ (javascript.name = name ∧ python.name = name) := by
  rintro ⟨script, snake⟩
  have differ : "javascript" ≠ "python" := by decide
  exact differ (script.trans snake.symm)

theorem builtIn_unique {holds : Grammar → Prop} (apart : ¬ (holds javascript ∧ holds python)) {first second : Grammar}
    (firstIn : first ∈ builtIn) (secondIn : second ∈ builtIn) (firstHolds : holds first)
    (secondHolds : holds second) : first = second := by
  simp only [builtIn, List.mem_cons, List.not_mem_nil, or_false] at firstIn secondIn
  rcases firstIn with rfl | rfl <;> rcases secondIn with rfl | rfl
  · rfl
  · exact absurd ⟨firstHolds, secondHolds⟩ apart
  · exact absurd ⟨secondHolds, firstHolds⟩ apart
  · rfl

end Grammar

namespace Config

/-- The name that a configuration has for the grammar of a file, by the file's extension. -/
inductive Detected (config : Config) (path : String) : String → Prop
  /-- Of the user's grammars for the file it is the one whose name has the greatest bytes. -/
  | user {grammar : Grammar} (member : grammar ∈ config.grammars) (isFor : grammar.IsFor path)
    (greatest : ∀ other ∈ config.grammars, Text.bytes grammar.name < Text.bytes other.name → ¬ other.IsFor path) :
    Detected config path grammar.name
  /-- Where the user has none for the file it is the built-in one, unless the user has another one of its name. -/
  | builtIn {grammar : Grammar} (member : grammar ∈ Grammar.builtIn) (isFor : grammar.IsFor path)
    (noneOfUser : ∀ other ∈ config.grammars, ¬ other.IsFor path)
    (kept : ∀ other ∈ config.grammars, other.name ≠ grammar.name) : Detected config path grammar.name

section Detected

open GrammarRegistry (LastAdded lastAdded_iff_greatest lastAdded_append exists_lastAdded)

variable {config : Config} {path name : String} {grammar : Grammar}

/-- A built-in grammar is the last one of those that supersede it, for the other one does not. -/
theorem lastAdded_builtIn {supersedes : Grammar → Prop}
    (apart : ¬ (supersedes .javascript ∧ supersedes .python)) (member : grammar ∈ Grammar.builtIn)
    (supersede : supersedes grammar) : LastAdded supersedes grammar Grammar.builtIn := by
  obtain ⟨last, lastSupersedes, isLast⟩ := exists_lastAdded member supersede
  rw [Grammar.builtIn_unique apart member isLast.mem supersede lastSupersedes]
  exact isLast

variable (ascending : (config.grammars.map fun grammar => Text.bytes grammar.name).Pairwise (· < ·))

include ascending

theorem detect?_of_detected (detected : Detected config path name) :
    (config.apply .builtIn).grammars.detect? path = some name := by
  rw [apply_builtIn, GrammarRegistry.detect?_ofAdded]
  cases detected with
  | @user grammar member isFor greatest =>
    have last : LastAdded (·.IsFor path) grammar config.grammars :=
      (lastAdded_iff_greatest ascending).mpr ⟨member, greatest⟩
    have lastNamed : LastAdded (·.name = grammar.name) grammar config.grammars := by
      refine (lastAdded_iff_greatest ascending).mpr ⟨member, fun other _ below same => ?_⟩
      rw [same] at below
      exact List.lt_irrefl _ below
    exact ⟨grammar, rfl, isFor, lastAdded_append.mpr (.inl last), lastAdded_append.mpr (.inl lastNamed)⟩
  | @builtIn grammar member isFor noneOfUser kept =>
    have last : LastAdded (·.IsFor path) grammar Grammar.builtIn :=
      lastAdded_builtIn (Grammar.not_isFor_both path) member isFor
    have lastNamed : LastAdded (·.name = grammar.name) grammar Grammar.builtIn :=
      lastAdded_builtIn (Grammar.not_named_both grammar.name) member rfl
    exact ⟨grammar, rfl, isFor, lastAdded_append.mpr (.inr ⟨last, noneOfUser⟩),
      lastAdded_append.mpr (.inr ⟨lastNamed, kept⟩)⟩

theorem detected_of_detect? (answers : (config.apply .builtIn).grammars.detect? path = some name) :
    Detected config path name := by
  rw [apply_builtIn, GrammarRegistry.detect?_ofAdded] at answers
  obtain ⟨owner, rfl, isFor, last, lastNamed⟩ := answers
  rcases lastAdded_append.mp last with user | ⟨builtIn, noneOfUser⟩
  · obtain ⟨member, greatest⟩ := (lastAdded_iff_greatest ascending).mp user
    exact .user member isFor greatest
  · rcases lastAdded_append.mp lastNamed with user | ⟨-, kept⟩
    · exact absurd isFor (noneOfUser owner user.mem)
    · exact .builtIn builtIn.mem isFor noneOfUser kept

theorem detect?_eq_some_iff : (config.apply .builtIn).grammars.detect? path = some name ↔ Detected config path name :=
  ⟨detected_of_detect? ascending, detect?_of_detected ascending⟩

end Detected

end Config

end Highlighter
