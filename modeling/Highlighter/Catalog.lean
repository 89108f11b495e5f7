import Highlighter.Document
import Highlighter.Grammar.BuiltIn
import Highlighter.Grammar.Registry
import Highlighter.Theme.BuiltIn

/-! The catalog of all grammars and themes that can be asked for by name. -/

namespace Highlighter

structure Catalog where
  grammars : GrammarRegistry := {}
  themes : ThemeRegistry := {}

namespace Catalog

def builtIn : Catalog where
  grammars := Grammar.builtIn.foldl GrammarRegistry.add {}
  themes := Theme.builtIn.foldl ThemeRegistry.add {}

def addGrammar (catalog : Catalog) (grammar : Grammar) : Catalog :=
  { catalog with grammars := catalog.grammars.add grammar }

def addTheme (catalog : Catalog) (theme : Theme) : Catalog :=
  { catalog with themes := catalog.themes.add theme }

/-- The document of a source text under a grammar and a theme by name. The grammar is looked up first. -/
def highlight (catalog : Catalog) (source grammar theme : String) : Except Error Document := do
  let grammar ← catalog.grammars.get grammar
  let theme ← catalog.themes.get theme
  return .ofSource grammar theme source

end Catalog

end Highlighter
