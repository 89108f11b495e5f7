import Highlighter.Catalog
import Highlighter.Readers

/-! Configurations: the grammar and theme to use by default, and grammars and themes of the user's own. -/

namespace Highlighter

open Toml (Value)

structure Config where
  /-- The grammar for texts whose grammar is neither given nor known from a file's extension. -/
  grammar : String := "javascript"
  /-- The theme, unless one is given. -/
  theme : String := "monokai"
  themes : List Theme := []
  grammars : List Grammar := []

namespace Config

/-- What has been read of a theme. -/
structure ThemeDraft where
  fallback : Option ColorId := none
  background : Option ColorId := none
  colors : List (TokenKind × ColorId) := []

namespace ThemeDraft

def add (name : String) (draft : ThemeDraft) (key : String) (value : Value) : Except Error ThemeDraft :=
  match value.asString? with
  | none => .error (.faultyTheme name (.valueNotAString key))
  | some color =>
    if key = "fallback" then .ok { draft with fallback := some color }
    else if key = "background" then .ok { draft with background := some color }
    else do
      let kind ← Rule.kindNamed key
      if kind = .plain then .error (.faultyTheme name .plainColor)
      else .ok { draft with colors := draft.colors ++ [(kind, color)] }

def finish (name : String) (draft : ThemeDraft) : Except Error Theme :=
  match draft.fallback with
  | none => .error (.faultyTheme name .missingFallback)
  | some fallback => .ok ⟨name, draft.colors, fallback, draft.background⟩

end ThemeDraft

def themeOf (name : String) (value : Value) : Except Error Theme :=
  match value.asTable? with
  | none => .error (.faultyTheme name .notATable)
  | some entries => do
    let draft ← entries.foldlM (fun draft (key, value) => ThemeDraft.add name draft key value) {}
    draft.finish name

def ruleOf (pattern? : String → Option Pattern) (grammar : String) (value : Value) : Except Error Rule :=
  match value.asArray? with
  | some [kind, source] =>
    match kind.asString?, source.asString? with
    | some kind, some source => Rule.readNamed pattern? kind source
    | _, _ => .error (.faultyGrammar grammar .ruleNotAPair)
  | _ => .error (.faultyGrammar grammar .ruleNotAPair)

def extensionsOf (grammar : String) : Option Value → Except Error (List String)
  | none => .ok []
  | some value =>
    match value.asArray? with
    | none => .error (.faultyGrammar grammar .extensionsNotAnArray)
    | some items => items.mapM fun item =>
      match item.asString? with
      | some extension => .ok extension
      | none => .error (.faultyGrammar grammar .extensionNotAString)

def grammarOf (pattern? : String → Option Pattern) (name : String) (value : Value) : Except Error Grammar :=
  match value.asTable? with
  | none => .error (.faultyGrammar name .notATable)
  | some entries =>
    match (entries.get? "rules").bind Value.asArray? with
    | none => .error (.faultyGrammar name .missingRules)
    | some rules => do
      let rules ← rules.mapM (ruleOf pattern? name)
      let extensions ← extensionsOf name (entries.get? "extensions")
      return ⟨name, rules, extensions, (entries.get? "file-name").bind Value.asString?⟩

/-- The entries of a table, by name; what is no table has none. -/
def entriesOf (value : Option Value) : Dictionary Value := (value.bind Value.asTable?).getD []

/-- The configuration that a document's root table defines. Themes are looked at before grammars. -/
def ofTable (pattern? : String → Option Pattern) (table : Dictionary Value) : Except Error Config := do
  let default : Config := {}
  let themes ← (entriesOf (table.get? "themes")).mapM fun (name, value) => themeOf name value
  let grammars ← (entriesOf (table.get? "grammars")).mapM fun (name, value) => grammarOf pattern? name value
  return {
    grammar := ((table.get? "grammar").bind Value.asString?).getD default.grammar
    theme := ((table.get? "theme").bind Value.asString?).getD default.theme
    themes
    grammars }

def parse (readers : Readers) (path text : String) : Except Error Config :=
  match readers.document? text with
  | none => .error (.malformedConfig path)
  | some table => ofTable readers.pattern? table

def apply (config : Config) (catalog : Catalog) : Catalog :=
  config.themes.foldl Catalog.addTheme (config.grammars.foldl Catalog.addGrammar catalog)

end Config

end Highlighter
