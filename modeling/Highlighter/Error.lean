import Highlighter.TokenKind

/-! What can go wrong, by cause, and the wording of each cause. -/

namespace Highlighter

inductive ReadError where
  /-- The system refuses, with a number and words of its own. -/
  | refused (number : Nat) (description : String)
  | notUtf8
  deriving DecidableEq, Repr

namespace ReadError

def notFound : ReadError := refused 2 "No such file or directory"

def notADirectory : ReadError := refused 20 "Not a directory"

def isADirectory : ReadError := refused 21 "Is a directory"

def message : ReadError → String
  | refused number description => s!"{description} (os error {number})"
  | notUtf8 => "stream did not contain valid UTF-8"

end ReadError

inductive ThemeFault where
  | notATable
  | valueNotAString (key : String)
  | plainColor
  | missingFallback
  deriving DecidableEq, Repr

def ThemeFault.message : ThemeFault → String
  | notATable => "expected a table"
  | valueNotAString key => key ++ " must be a string"
  | plainColor => "plain text always uses the fallback color"
  | missingFallback => "missing fallback"

inductive GrammarFault where
  | notATable
  | missingRules
  | ruleNotAPair
  | extensionsNotAnArray
  | extensionNotAString
  deriving DecidableEq, Repr

def GrammarFault.message : GrammarFault → String
  | notATable => "expected a table"
  | missingRules => "missing rules array"
  | ruleNotAPair => "rules must be [kind, regex] pairs"
  | extensionsNotAnArray => "extensions must be an array"
  | extensionNotAString => "extensions must be strings"

inductive Error where
  | unreadable (reason : ReadError)
  | unknownGrammar (name : String)
  | unknownTheme (name : String)
  | unknownKind (name : String)
  | undeclarableKind
  /-- The pattern of a rule for the kind is none. -/
  | invalidPattern (kind : TokenKind)
  | malformedConfig (path : String)
  | faultyTheme (name : String) (fault : ThemeFault)
  | faultyGrammar (name : String) (fault : GrammarFault)
  | unknownOption (argument : String)
  /-- The last argument is an option that needs a value. -/
  | missingValue (option : String)
  deriving DecidableEq, Repr

/-- The wording of an error. What follows it about the inside of a faulty pattern or a malformed configuration is
left out. -/
def Error.message : Error → String
  | unreadable reason => "I/O error: " ++ reason.message
  | unknownGrammar name => "Unknown grammar: " ++ name
  | unknownTheme name => "Unknown theme: " ++ name
  | unknownKind name => "Unknown token kind: " ++ name
  | undeclarableKind => "plain spans cannot be declared by a rule"
  | invalidPattern kind => "Invalid pattern for " ++ kind.name
  | malformedConfig path => "Invalid config file " ++ path
  | faultyTheme name fault => "[themes." ++ name ++ "]: " ++ fault.message
  | faultyGrammar name fault => "[grammars." ++ name ++ "]: " ++ fault.message
  | unknownOption argument => "unknown option: " ++ argument
  | missingValue option => option ++ " requires a value"

end Highlighter
