import Highlighter.Grammar.BuiltIn
import Highlighter.Proofs.Pattern.Run

/-!
The rules of the built-in grammars: the same seven patterns, apart from the mark that begins comments and the keywords.
-/

namespace Highlighter.Grammar

open Pattern Unicode

def quotes : List Char := ['"', '\x27', '\x60']

def anyOf (members : CharClass) : Expr := .repetition (.char members) 0 none true

def someOf (members : CharClass) : Expr := .repetition (.char members) 1 none true

def oneOf (members : List Char) : CharClass := Expr.mergedClass (members.map .single)

def codesOf (members : List Char) : CodeRanges :=
  (members.map fun member => (member.toNat, member.toNat)).foldl (fun codes range => codes.insert range.1 range.2) []

theorem oneOf_eq (members : List Char) : oneOf members = .table (codesOf members) := by
  have flat : (members.map fun member => [(member.toNat, member.toNat)]).flatten =
      members.map fun member => (member.toNat, member.toNat) := by
    rw [← List.flatMap_def, ← List.map_eq_flatMap]
  have merged : oneOf members = if (codesOf members).isEmpty then .none else .table (codesOf members) := by
    simp only [oneOf, Expr.mergedClass, List.filterMap_map, List.filter_map, Function.comp_def, CharClass.single,
      CharClass.range, List.filterMap_eq_map', flat, List.filter_false, List.map_nil, CharClass.unions]
    rfl
  rw [merged]
  split
  next empty => rw [List.isEmpty_iff.mp empty, CharClass.none]
  next => rfl

theorem contains_oneOf (members : List Char) (letter : Char) :
    (oneOf members).contains letter = true ↔ letter ∈ members := by
  have codes : (codesOf members).contains letter.toNat = true ↔
      (∃ range ∈ members.map fun member => (member.toNat, member.toNat),
        range.1 ≤ letter.toNat ∧ letter.toNat ≤ range.2) ∨ CodeRanges.contains [] letter.toNat = true :=
    CodeRanges.contains_foldl_insert (by simp) ⟨.nil, by simp⟩
  rw [oneOf_eq, CharClass.contains, CharClass.containsCode, codes]
  simp only [List.mem_map, exists_exists_and_eq_and, CodeRanges.contains, Bool.false_eq_true, or_false]
  constructor
  · rintro ⟨member, known, below, above⟩
    rwa [Char.toNat_inj.mp (Nat.le_antisymm above below)]
  · intro known
    exact ⟨letter, known, Nat.le_refl _, Nat.le_refl _⟩

def anyChar : CharClass := .compl (.single '\n')

def quotedExpr (quote : Char) : Expr :=
  .seq (.char (.single quote))
    (.seq
      (.repetition (.choice (.char (.compl (oneOf [quote, '\\']))) (.seq (.char (.single '\\')) (.char anyChar)))
        0 none true)
      (.char (.single quote)))

def stringExpr : Expr := .ofBranches (quotes.map quotedExpr)

def commentExpr (marker : List Char) : Expr :=
  .ofElements (marker.map (fun letter => .char (.single letter)) ++ [anyOf anyChar, .assertion .textEnd])

def wordEdge : Expr := .assertion (.wordBoundary .word)

def keywordExpr (keywords : List String) : Expr :=
  .seq wordEdge (.seq (.capture false (.ofBranches (keywords.map fun keyword => .literally keyword.toList))) wordEdge)

def functionExpr : Expr :=
  .seq wordEdge (.seq (.capture true (someOf .word)) (.seq (anyOf .space) (.char (.single '('))))

def numberExpr : Expr := .seq wordEdge (.seq (someOf .digit) wordEdge)

def operators : CharClass := oneOf ['+', '-', '*', '/', '%', '=', '<', '>', '!', '&', '|', '^', '~', '?', ':']

def separators : CharClass := oneOf ['{', '}', '[', ']', '(', ')', ';', ',']

/-- What the built-in grammars differ in. -/
structure Language where
  comment : String
  marker : List Char
  keywords : List String
  comment_eq : Expr.ofText? comment = some (commentExpr marker)
  keyword_eq : Expr.ofText? (wholeWord keywords) = some (keywordExpr keywords)
  marker_ne : marker ≠ []
  marker_between : marker.all (CharClass.betweenWords.contains ·.toNat) = true
  keyword_ne : ∀ keyword ∈ keywords, keyword.toList ≠ []
  keyword_letters : ∀ keyword ∈ keywords, keyword.toList.all Char.isAlpha = true

namespace Language

set_option maxRecDepth 10000 in
def javascript : Language where
  comment := "//.*$"
  marker := ['/', '/']
  keywords := javascriptKeywords
  comment_eq := rfl
  keyword_eq := rfl
  marker_ne := by simp
  marker_between := by decide
  keyword_ne := by decide
  keyword_letters := by decide

def python : Language where
  comment := "#.*$"
  marker := ['#']
  keywords := pythonKeywords
  comment_eq := rfl
  keyword_eq := rfl
  marker_ne := by simp
  marker_between := by decide
  keyword_ne := by decide
  keyword_letters := by decide

def stringRule : Rule := ⟨.string, .ofExpr quotedString stringExpr, by decide⟩

def commentRule (language : Language) : Rule :=
  ⟨.comment, .ofExpr language.comment (commentExpr language.marker), by decide⟩

def keywordRule (language : Language) : Rule :=
  ⟨.keyword, .ofExpr (wholeWord language.keywords) (keywordExpr language.keywords), by decide⟩

def functionRule : Rule := ⟨.function, .ofExpr calledFunction functionExpr, by decide⟩

def numberRule : Rule := ⟨.number, .ofExpr wholeNumber numberExpr, by decide⟩

def operatorRule : Rule := ⟨.operator, .ofExpr operatorRun (someOf operators), by decide⟩

def separatorRule : Rule := ⟨.punctuation, .ofExpr bracketOrSeparator (.char separators), by decide⟩

def rules (language : Language) : List Rule := [stringRule, language.commentRule, language.keywordRule, functionRule,
  numberRule, operatorRule, separatorRule]

theorem distinct_kinds (language : Language) : (language.rules.map (·.kind)).Nodup := by
  simp [rules, stringRule, commentRule, keywordRule, functionRule, numberRule, operatorRule, separatorRule]

theorem toOption_ofSource {kind : TokenKind} {source : String} {expr : Expr} (known : Expr.ofText? source = some expr)
    (notPlain : kind ≠ .plain) :
    (Rule.ofSource kind source).toOption = some ⟨kind, .ofExpr source expr, notPlain⟩ := by
  simp only [Rule.ofSource, Rule.read, dif_neg notPlain, Pattern.ofText?, known]
  rfl

theorem rulesOf_patterns (language : Language) :
    rulesOf (patterns language.comment language.keywords) = language.rules := by
  have string : Expr.ofText? quotedString = some stringExpr := rfl
  have function : Expr.ofText? calledFunction = some functionExpr := rfl
  have number : Expr.ofText? wholeNumber = some numberExpr := rfl
  have operator : Expr.ofText? operatorRun = some (someOf operators) := rfl
  have punctuation : Expr.ofText? bracketOrSeparator = some (.char separators) := rfl
  simp only [rulesOf, patterns, List.filterMap_cons, List.filterMap_nil,
    toOption_ofSource string (by decide : TokenKind.string ≠ .plain),
    toOption_ofSource language.comment_eq (by decide : TokenKind.comment ≠ .plain),
    toOption_ofSource language.keyword_eq (by decide : TokenKind.keyword ≠ .plain),
    toOption_ofSource function (by decide : TokenKind.function ≠ .plain),
    toOption_ofSource number (by decide : TokenKind.number ≠ .plain),
    toOption_ofSource operator (by decide : TokenKind.operator ≠ .plain),
    toOption_ofSource punctuation (by decide : TokenKind.punctuation ≠ .plain)]
  rfl

theorem spans_javascript (line : String) : Grammar.javascript.spans line = Span.ofLine javascript.rules line :=
  congrArg (Span.ofLine · line) javascript.rulesOf_patterns

theorem spans_python (line : String) : Grammar.python.spans line = Span.ofLine python.rules line :=
  congrArg (Span.ofLine · line) python.rulesOf_patterns

end Language

end Highlighter.Grammar
