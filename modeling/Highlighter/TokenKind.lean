/-! Kinds of tokens. -/

namespace Highlighter

inductive TokenKind where
  | keyword
  | string
  | comment
  | function
  | number
  | operator
  | punctuation
  | plain
  deriving DecidableEq, Repr

namespace TokenKind

def all : List TokenKind := [keyword, string, comment, function, number, operator, punctuation, plain]

def name : TokenKind → String
  | keyword => "keyword"
  | string => "string"
  | comment => "comment"
  | function => "function"
  | number => "number"
  | operator => "operator"
  | punctuation => "punctuation"
  | plain => "plain"

def named? (name : String) : Option TokenKind := all.find? (·.name = name)

def declarable (kind : TokenKind) : Bool := kind ≠ plain

theorem named?_name (kind : TokenKind) : named? kind.name = some kind := by
  cases kind <;> decide

theorem name_injective {kind other : TokenKind} (same : kind.name = other.name) : kind = other := by
  have found := named?_name kind
  rw [same, named?_name] at found
  exact (Option.some.inj found).symm

theorem named?_eq_some_iff (name : String) (kind : TokenKind) : named? name = some kind ↔ name = kind.name := by
  constructor
  · intro found
    have same := List.find?_some found
    exact (of_decide_eq_true same).symm
  · intro same
    rw [same]
    exact named?_name kind

theorem named?_eq_none_iff (name : String) : named? name = none ↔ ∀ kind : TokenKind, name ≠ kind.name := by
  rw [Option.eq_none_iff_forall_ne_some]
  simp only [ne_eq, named?_eq_some_iff]

end TokenKind

end Highlighter
