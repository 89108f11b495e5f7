import Highlighter.Dictionary
import Highlighter.Grammar
import Highlighter.Path

/-! The registry of grammars, which also tells the grammar of a file by its extension. -/

namespace Highlighter

/-- Grammars by name, and for each extension in lower case the name of the grammar that took it last. -/
structure GrammarRegistry where
  grammars : Dictionary Grammar := []
  owners : Dictionary String := []

namespace GrammarRegistry

/-- Adds a grammar. An earlier one of the same name goes, with all extensions that it holds. -/
def add (registry : GrammarRegistry) (grammar : Grammar) : GrammarRegistry where
  grammars := registry.grammars.insert grammar.name grammar
  owners := grammar.extensions.foldl
    (fun owners extension => owners.insert (Unicode.lowercaseText extension) grammar.name)
    (registry.owners.filter (·.2 ≠ grammar.name))

def get (registry : GrammarRegistry) (name : String) : Except Error Grammar :=
  match registry.grammars.get? name with
  | some grammar => .ok grammar
  | none => .error (.unknownGrammar name)

def detect? (registry : GrammarRegistry) (path : String) : Option String :=
  (Path.extension? path).bind fun extension => registry.owners.get? (Unicode.lowercaseText extension)

def names (registry : GrammarRegistry) : List String := registry.grammars.names

end GrammarRegistry

end Highlighter
