import Highlighter.Span

/-! Grammars: named lists of rules in order of precedence. -/

namespace Highlighter

/-- A grammar. Earlier rules take precedence. -/
structure Grammar where
  name : String
  rules : List Rule := []
  /-- The extensions of the files that the grammar is for. -/
  extensions : List String := []
  /-- The name of a sample file. -/
  fileName : Option String := none

namespace Grammar

def spans (grammar : Grammar) (line : String) : List Span := Span.ofLine grammar.rules line

end Grammar

end Highlighter
