import Highlighter.Error

/-!
Command lines. The arguments of the program make up units, which are read from left to right; an option that takes a
value takes the argument behind it, whatever that is.
-/

namespace Highlighter

inductive Switch where
  | help
  | version
  | list
  | dump
  deriving DecidableEq, Repr

inductive Setting where
  | language
  | theme
  | config
  deriving DecidableEq, Repr

def Switch.ofArgument? (argument : String) : Option Switch :=
  if argument = "--help" ∨ argument = "-h" then some help
  else if argument = "--version" ∨ argument = "-V" then some version
  else if argument = "--list" then some list
  else if argument = "--dump" then some dump
  else none

def Setting.ofArgument? (argument : String) : Option Setting :=
  if argument = "--language" ∨ argument = "-l" then some language
  else if argument = "--theme" ∨ argument = "-t" then some theme
  else if argument = "--config" ∨ argument = "-c" then some config
  else none

inductive CommandUnit where
  | switch (switch : Switch)
  | setting (setting : Setting) (value : String)
  | file (path : String)
  /-- A hyphen alone: the standard input is to be read. -/
  | input
  deriving DecidableEq, Repr

namespace CommandUnit

/-- The unit of an argument that is neither a switch nor a setting. -/
def ofOperand (argument : String) : Except Error CommandUnit :=
  if argument = "-" then .ok input
  else if argument.toList.head? = some '-' then .error (.unknownOption argument)
  else .ok (file argument)

def ofArguments : List String → Except Error (List CommandUnit)
  | [] => .ok []
  | argument :: rest =>
    match Switch.ofArgument? argument with
    | some found => (switch found :: ·) <$> ofArguments rest
    | none =>
      match Setting.ofArgument? argument with
      | some found =>
        match rest with
        | [] => .error (.missingValue argument)
        | value :: rest => (setting found value :: ·) <$> ofArguments rest
      | none =>
        match ofOperand argument with
        | .error error => .error error
        | .ok unit => (unit :: ·) <$> ofArguments rest

end CommandUnit

structure Options where
  language : Option String := none
  theme : Option String := none
  config : Option String := none
  file : Option String := none
  help : Bool := false
  version : Bool := false
  list : Bool := false
  dump : Bool := false
  deriving DecidableEq, Repr

namespace Options

/-- Adds a unit. The last value of a setting counts, and so does the last mention of what to read. -/
def add (options : Options) : CommandUnit → Options
  | .switch .help => { options with help := true }
  | .switch .version => { options with version := true }
  | .switch .list => { options with list := true }
  | .switch .dump => { options with dump := true }
  | .setting .language name => { options with language := some name }
  | .setting .theme name => { options with theme := some name }
  | .setting .config path => { options with config := some path }
  | .file path => { options with file := some path }
  | .input => { options with file := none }

def ofUnits (units : List CommandUnit) : Options := units.foldl add {}

def ofArguments (arguments : List String) : Except Error Options := ofUnits <$> CommandUnit.ofArguments arguments

end Options

end Highlighter
