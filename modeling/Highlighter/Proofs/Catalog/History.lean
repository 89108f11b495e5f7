import Highlighter.Config
import Highlighter.Proofs.Grammar.History

/-! Catalogs as functions of their history: the grammars and the themes that were added, each in their order. -/

namespace Highlighter

namespace GrammarRegistry

theorem grammars_ofAdded (added : List Grammar) :
    (ofAdded added).grammars = Dictionary.ofNamed Grammar.name added := by
  induction added using List.reverseRecOn with
  | nil => rfl
  | append_singleton added new ih =>
    rw [ofAdded_concat, Dictionary.ofNamed_concat, ← ih]
    rfl

end GrammarRegistry

namespace ThemeRegistry

def ofAdded (added : List Theme) : ThemeRegistry := added.foldl add {}

theorem themes_ofAdded (added : List Theme) : (ofAdded added).themes = Dictionary.ofNamed Theme.name added := by
  induction added using List.reverseRecOn with
  | nil => rfl
  | append_singleton added new ih =>
    rw [Dictionary.ofNamed_concat, ← ih]
    unfold ofAdded
    rw [List.foldl_append]
    rfl

end ThemeRegistry

namespace Config

theorem foldl_addGrammar (catalog : Catalog) (grammars : List Grammar) :
    grammars.foldl Catalog.addGrammar catalog =
      { catalog with grammars := grammars.foldl GrammarRegistry.add catalog.grammars } := by
  induction grammars generalizing catalog with
  | nil => rfl
  | cons grammar grammars ih => exact ih _

theorem foldl_addTheme (catalog : Catalog) (themes : List Theme) :
    themes.foldl Catalog.addTheme catalog =
      { catalog with themes := themes.foldl ThemeRegistry.add catalog.themes } := by
  induction themes generalizing catalog with
  | nil => rfl
  | cons theme themes ih => exact ih _

end Config

namespace Catalog

/-- The catalog was reached from the empty or the built-in one by adding grammars and themes, one at a time or those of
a configuration. -/
inductive Reachable : Catalog → Prop
  | empty : Reachable {}
  | builtIn : Reachable .builtIn
  | addGrammar {catalog : Catalog} (grammar : Grammar) (reachable : Reachable catalog) :
    Reachable (catalog.addGrammar grammar)
  | addTheme {catalog : Catalog} (theme : Theme) (reachable : Reachable catalog) : Reachable (catalog.addTheme theme)
  | apply {catalog : Catalog} (config : Config) (reachable : Reachable catalog) : Reachable (config.apply catalog)

end Catalog

theorem ThemeRegistry.foldl_add_ofAdded (added themes : List Theme) :
    themes.foldl add (ofAdded added) = ofAdded (added ++ themes) :=
  (List.foldl_append ..).symm

theorem GrammarRegistry.foldl_add_ofAdded (added grammars : List Grammar) :
    grammars.foldl add (ofAdded added) = ofAdded (added ++ grammars) :=
  (List.foldl_append ..).symm

theorem Config.apply_ofAdded (config : Config) (grammars : List Grammar) (themes : List Theme) :
    config.apply ⟨.ofAdded grammars, .ofAdded themes⟩ =
      ⟨.ofAdded (grammars ++ config.grammars), .ofAdded (themes ++ config.themes)⟩ := by
  unfold apply
  rw [foldl_addTheme, foldl_addGrammar, GrammarRegistry.foldl_add_ofAdded, ThemeRegistry.foldl_add_ofAdded]

theorem Catalog.Reachable.exists_added {catalog : Catalog} (reachable : catalog.Reachable) :
    ∃ grammars themes, catalog = ⟨.ofAdded grammars, .ofAdded themes⟩ := by
  induction reachable with
  | empty => exact ⟨[], [], rfl⟩
  | builtIn => exact ⟨Grammar.builtIn, Theme.builtIn, rfl⟩
  | addGrammar grammar reachable ih =>
    obtain ⟨grammars, themes, rfl⟩ := ih
    refine ⟨grammars ++ [grammar], themes, ?_⟩
    rw [GrammarRegistry.ofAdded_concat]
    rfl
  | addTheme theme reachable ih =>
    obtain ⟨grammars, themes, rfl⟩ := ih
    refine ⟨grammars, themes ++ [theme], ?_⟩
    rw [← ThemeRegistry.foldl_add_ofAdded]
    rfl
  | apply config reachable ih =>
    obtain ⟨grammars, themes, rfl⟩ := ih
    exact ⟨grammars ++ config.grammars, themes ++ config.themes, config.apply_ofAdded grammars themes⟩

end Highlighter
