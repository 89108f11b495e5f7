import Highlighter.Definition
import Highlighter.Host
import Highlighter.Terminal.Dump
import Highlighter.Terminal.Render

/-!
Sessions: operations on one catalog, one after the other. Some add to the catalog, all others only ask. An operation
that fails takes nothing back of what it has changed until then.
-/

namespace Highlighter

inductive Operation where
  | tokenize (grammar line : String)
  | highlight (source grammar theme : String)
  | render (source grammar theme : String)
  | dump (source grammar theme : String)
  | detect (path : String)
  | listNames
  | showGrammar (name : String)
  | showTheme (name : String)
  | loadConfig (host : Host Id) (path : Option String)
  /-- A grammar that is registered with nothing but its rules has no extensions and no sample file. -/
  | addGrammar (definition : GrammarDefinition)
  /-- A theme that is registered with nothing but its colors has no background. -/
  | addTheme (definition : ThemeDefinition)
  | applyConfig (host : Host Id) (path : Option String)

inductive Answer where
  | spans (spans : List Span)
  | document (document : Document)
  | text (text : String)
  | detected (grammar : Option String)
  | names (grammars themes : List String)
  | grammar (grammar : Grammar)
  | theme (theme : Theme)
  | config (config : Config)

def Answer.ofCatalog (catalog : Catalog) : Answer := .names catalog.grammars.names catalog.themes.names

/-- Steps on the catalog of a session, which may fail. What they have changed when they fail stays changed. -/
abbrev Action (α : Type) := ExceptT Error (StateM Catalog) α

namespace Operation

/-- Carries an operation out. What adds to the catalog answers with the names after that. -/
def perform : Operation → Action Answer
  | tokenize grammar line => do return .spans ((← (← get).grammars.get grammar).spans line)
  | highlight source grammar theme => do return .document (← (← get).highlight source grammar theme)
  | render source grammar theme => do
    return .text (Terminal.render true (← (← get).highlight source grammar theme))
  | dump source grammar theme => do return .text (Terminal.dump (← (← get).highlight source grammar theme))
  | detect path => do return .detected ((← get).grammars.detect? path)
  | listNames => do return .ofCatalog (← get)
  | showGrammar name => do return .grammar (← (← get).grammars.get name)
  | showTheme name => do return .theme (← (← get).themes.get name)
  | loadConfig host path => do return .config (← (host.loadConfig path).run.run)
  | addGrammar definition => do
    let grammar ← definition.grammar
    modify (·.addGrammar grammar)
    return .ofCatalog (← get)
  | addTheme definition => do
    let theme ← definition.theme
    modify (·.addTheme theme)
    return .ofCatalog (← get)
  | applyConfig host path => do
    let config ← (host.loadConfig path).run.run
    modify config.apply
    return .ofCatalog (← get)

def answer (catalog : Catalog) (operation : Operation) : Except Error Answer :=
  (operation.perform.run.run catalog).1

def after (catalog : Catalog) (operation : Operation) : Catalog := (operation.perform.run.run catalog).2

end Operation

namespace Session

def answers (catalog : Catalog) : List Operation → List (Except Error Answer)
  | [] => []
  | operation :: rest => operation.answer catalog :: answers (operation.after catalog) rest

end Session

end Highlighter
