import Highlighter.Proofs.Catalog.History
import Highlighter.Proofs.Grammar.Exchange

/-!
Applying a configuration once more. Its grammars pass extensions to and fro again, but the last one that declares an
extension is the same as before, and so is whether a grammar of its name comes behind it.
-/

namespace Highlighter

namespace GrammarRegistry

variable {supersedes : Grammar → Prop} {grammar : Grammar} {older newer : List Grammar}

theorem lastAdded_append_append :
    LastAdded supersedes grammar (older ++ newer ++ newer) ↔ LastAdded supersedes grammar (older ++ newer) := by
  refine lastAdded_append.trans ?_
  rw [lastAdded_append]
  tauto

theorem ofAdded_append_append (older newer : List Grammar) :
    ofAdded (older ++ newer ++ newer) = ofAdded (older ++ newer) := by
  refine (ordered_ofAdded _).eq_of_get? (ordered_ofAdded _) (fun name => ?_) fun extension => ?_
  · rw [grammars_ofAdded, grammars_ofAdded, Dictionary.ofNamed_append_append]
  · apply Option.ext
    intro name
    simp only [owner_ofAdded, lastAdded_append_append]

end GrammarRegistry

theorem ThemeRegistry.ofAdded_append_append (older newer : List Theme) :
    ofAdded (older ++ newer ++ newer) = ofAdded (older ++ newer) := by
  have same : (ofAdded (older ++ newer ++ newer)).themes = (ofAdded (older ++ newer)).themes := by
    rw [themes_ofAdded, themes_ofAdded, Dictionary.ofNamed_append_append]
  exact congrArg mk same

/-- The catalogs cannot be told apart. They have the same grammars and themes under the same names, detect the same
grammar for every file, and make the same document of every source. -/
structure Catalog.SameAnswers (left right : Catalog) : Prop where
  grammars : left.grammars.SameAnswers right.grammars
  getTheme_eq : ∀ name, left.themes.get name = right.themes.get name
  themeNames_eq : left.themes.names = right.themes.names
  highlight_eq : ∀ source grammar theme, left.highlight source grammar theme = right.highlight source grammar theme

theorem Catalog.SameAnswers.refl (catalog : Catalog) : catalog.SameAnswers catalog :=
  ⟨.refl _, fun _ => rfl, rfl, fun _ _ _ => rfl⟩

namespace Config

/-- A configuration that has been applied to a reachable catalog changes nothing when it is applied again, even if its
grammars claim the same extensions or redefine built-in ones. -/
theorem apply_idempotent {catalog : Catalog} (reachable : catalog.Reachable) (config : Config) :
    (config.apply (config.apply catalog)).SameAnswers (config.apply catalog) := by
  obtain ⟨grammars, themes, rfl⟩ := reachable.exists_added
  rw [apply_ofAdded, apply_ofAdded, GrammarRegistry.ofAdded_append_append, ThemeRegistry.ofAdded_append_append]
  exact .refl _

/-- Two grammars that claim an extension of a built-in one, and one that redefines a built-in one. -/
theorem apply_idempotent_contested :
    Catalog.Reachable .builtIn ∧
      let config : Config := {
        grammars := [{ name := "a", extensions := ["js", "x"] }, { name := "javascript", extensions := ["x"] },
          { name := "b", extensions := ["JS"] }] }
      (config.apply (config.apply .builtIn)).SameAnswers (config.apply .builtIn) :=
  ⟨.builtIn, apply_idempotent .builtIn _⟩

end Config

end Highlighter
