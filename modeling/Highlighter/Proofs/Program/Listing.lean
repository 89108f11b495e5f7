import Highlighter.Proofs.Catalog.History
import Highlighter.Proofs.Program.Requests
import Highlighter.Proofs.Text.ByteOrder

/-! The listing of grammars and themes. Each name that it goes through can be looked up, so that it never breaks off. -/

namespace Highlighter

namespace Config

variable (config : Config)

def allGrammars : List Grammar := Grammar.builtIn ++ config.grammars

def allThemes : List Theme := Theme.builtIn ++ config.themes

theorem apply_builtIn :
    config.apply .builtIn = ⟨.ofAdded config.allGrammars, .ofAdded config.allThemes⟩ :=
  config.apply_ofAdded Grammar.builtIn Theme.builtIn

end Config

namespace Program

/-- The grammars and the names of themes that are registered under a configuration, each once and in the order of
their names' bytes. -/
structure IsListing (config : Config) (grammars : List Grammar) (themes : List String) : Prop where
  grammars_ascend : (grammars.map fun grammar => Text.bytes grammar.name).Pairwise (· < ·)
  /-- The names are those of all grammars that were ever added. -/
  grammar_listed_iff : ∀ name, (∃ grammar ∈ grammars, grammar.name = name) ↔
    ∃ grammar ∈ config.allGrammars, grammar.name = name
  /-- For each name the grammar is the one that a lookup finds. -/
  mem_grammars_iff : ∀ grammar, grammar ∈ grammars ↔
    (config.apply .builtIn).grammars.get grammar.name = .ok grammar
  themes_ascend : (themes.map Text.bytes).Pairwise (· < ·)
  mem_themes_iff : ∀ name, name ∈ themes ↔ ∃ theme ∈ config.allThemes, theme.name = name

def listing (grammars : List Grammar) (themes : List String) : String :=
  "Grammars:\n" ++ String.join (grammars.map fun grammar => grammarRow grammar.name grammar)
    ++ "Themes:\n" ++ String.join (themes.map themeRow)

variable (config : Config)

variable {written : String}

end Program

end Highlighter
