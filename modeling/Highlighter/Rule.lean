import Highlighter.Error
import Highlighter.Pattern.Search

/-! Rules: patterns that take stretches of a line for a kind of token. -/

namespace Highlighter

structure Rule where
  kind : TokenKind
  pattern : Pattern
  kind_ne_plain : kind ≠ .plain := by decide

namespace Rule

/-- The rule of a kind and the text of a pattern, which a reader reads. The kind is looked at first. -/
def read (pattern? : String → Option Pattern) (kind : TokenKind) (source : String) : Except Error Rule :=
  if h : kind = .plain then .error .undeclarableKind
  else match pattern? source with
    | some pattern => .ok ⟨kind, pattern, h⟩
    | none => .error (.invalidPattern kind)

def ofSource (kind : TokenKind) (source : String) : Except Error Rule := read Pattern.ofText? kind source

def kindNamed (name : String) : Except Error TokenKind :=
  match TokenKind.named? name with
  | some kind => .ok kind
  | none => .error (.unknownKind name)

def readNamed (pattern? : String → Option Pattern) (kind source : String) : Except Error Rule := do
  read pattern? (← kindNamed kind) source

/-- The rules of names of kinds and texts of patterns, in order. All names are looked at before the first
pattern. -/
def ofSources (sources : List (String × String)) : Except Error (List Rule) := do
  let kinds ← sources.mapM fun (name, source) => return (← kindNamed name, source)
  kinds.mapM fun (kind, source) => ofSource kind source

def intervals (rule : Rule) (text : List Char) : List Interval := rule.pattern.intervals text

end Rule

end Highlighter
