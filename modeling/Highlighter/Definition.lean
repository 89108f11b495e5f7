import Highlighter.Document

/-! Definitions of grammars and themes in words: the names of kinds and the texts of patterns. -/

namespace Highlighter

structure GrammarDefinition where
  name : String
  /-- The name of a kind and the text of a pattern for each rule. -/
  rules : List (String × String) := []
  extensions : List String := []
  fileName : Option String := none
  deriving DecidableEq, Repr

def GrammarDefinition.grammar (definition : GrammarDefinition) : Except Error Grammar := do
  let rules ← Rule.ofSources definition.rules
  return ⟨definition.name, rules, definition.extensions, definition.fileName⟩

structure ThemeDefinition where
  name : String
  /-- The name of a kind and a color for it. -/
  colors : List (String × ColorId) := []
  fallback : ColorId
  background : Option ColorId := none
  deriving DecidableEq, Repr

def ThemeDefinition.theme (definition : ThemeDefinition) : Except Error Theme := do
  let colors ← definition.colors.mapM fun (kind, color) => return (← Rule.kindNamed kind, color)
  return ⟨definition.name, colors, definition.fallback, definition.background⟩

/-- The document of a source text under a grammar and a theme in words. The grammar is looked at first. -/
def Document.ofDefinitions (grammar : GrammarDefinition) (theme : ThemeDefinition) (source : String) :
    Except Error Document := do
  let grammar ← grammar.grammar
  let theme ← theme.theme
  return .ofSource grammar theme source

end Highlighter
