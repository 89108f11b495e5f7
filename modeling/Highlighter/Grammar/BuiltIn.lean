import Highlighter.Grammar

/-!
The built-in grammars. Strings and comments come first, so that nothing inside them is taken for something else.
-/

namespace Highlighter.Grammar

/-- Literals in double, single or backward quotes, in which a backslash takes the next character along. -/
def quotedString : String :=
  "\"(?:[^\"\\\\]|\\\\.)*\"|'(?:[^'\\\\]|\\\\.)*'|`(?:[^`\\\\]|\\\\.)*`"

def wholeWord (words : List String) : String := "\\b(" ++ "|".intercalate words ++ ")\\b"

def calledFunction : String := "\\b(?P<token>\\w+)\\s*\\("

def wholeNumber : String := "\\b\\d+\\b"

def operatorRun : String := "[+\\-*/%=<>!&|^~?:]+"

def bracketOrSeparator : String := "[\x7b\x7d\\[\\]();,]"

/-- The patterns of a language with the given pattern of comments and the given keywords. -/
def patterns (comment : String) (keywords : List String) : List (TokenKind × String) := [
  (.string, quotedString),
  (.comment, comment),
  (.keyword, wholeWord keywords),
  (.function, calledFunction),
  (.number, wholeNumber),
  (.operator, operatorRun),
  (.punctuation, bracketOrSeparator)]

def rulesOf (patterns : List (TokenKind × String)) : List Rule :=
  patterns.filterMap fun (kind, source) => (Rule.ofSource kind source).toOption

def javascriptKeywords : List String :=
  ["const", "let", "var", "function", "return", "if", "else", "for", "while", "do", "class", "extends",
    "import", "export", "default", "null", "undefined", "true", "false"]

def javascript : Grammar where
  name := "javascript"
  rules := rulesOf (patterns "//.*$" javascriptKeywords)
  extensions := ["js", "mjs", "cjs", "jsx"]
  fileName := some "script.js"

def pythonKeywords : List String :=
  ["def", "class", "if", "else", "elif", "for", "while", "try", "except", "import", "from", "as", "return",
    "True", "False", "None"]

def python : Grammar where
  name := "python"
  rules := rulesOf (patterns "#.*$" pythonKeywords)
  extensions := ["py", "pyw", "pyi"]
  fileName := some "main.py"

def builtIn : List Grammar := [javascript, python]

end Highlighter.Grammar
