import Highlighter.CommandLine
import Highlighter.Host
import Highlighter.Terminal.Dump
import Highlighter.Terminal.Render
import Highlighter.Text.Label
import Highlighter.Text.Padded

/-! The program: what it writes for the arguments that it is given. -/

namespace Highlighter.Program

def title : String := "codesnap 0.1.0"

def usage : String :=
  "\n".intercalate [
    title ++ " - syntax highlighting for code snapshots",
    "",
    "Usage: codesnap [OPTIONS] [FILE]",
    "",
    "Reads FILE, or standard input when FILE is omitted or '-'.",
    "",
    "Options:",
    "  -l, --language NAME  Grammar to use (default: detect from FILE)",
    "  -t, --theme NAME     Theme to use (default: monokai)",
    "  -c, --config PATH    Config file (default: ~/.codesnap.toml)",
    "      --dump           Print one row per span instead of colors",
    "      --list           List grammars and themes",
    "  -h, --help           Show this help message",
    "  -V, --version        Show version information",
    "",
    "Set CODESNAP_LOG=debug for diagnostic output on stderr.",
    ""]

def grammarRow (name : String) (grammar : Grammar) : String :=
  "  " ++ Text.padded 14 name ++ " " ++ Text.padded 16 (Text.label name) ++ " "
    ++ grammar.fileName.getD "-" ++ "\n"

def themeRow (name : String) : String := "  " ++ Text.padded 14 name ++ " " ++ Text.label name ++ "\n"

/-- The name of the grammar to use: the one asked for, or the one for the file, or the one of the configuration. -/
def grammarName (catalog : Catalog) (options : Options) (config : Config) : String :=
  (options.language.or (options.file.bind catalog.grammars.detect?)).getD config.grammar

variable {m : Type → Type} [Monad m] {α : Type}

/-- A run of the program or of a part of it, which looks at its surroundings, writes and may fail. What it has
written when it fails stays written. -/
abbrev Run (m : Type → Type) (α : Type) := ExceptT Error (StateT String m) α

def write (text : String) : Run m Unit := modify (· ++ text)

def consult (action : ExceptT Error m α) : Run m α := .mk (StateT.lift action.run)

def colored (host : Host m) : ExceptT Error m Bool := do
  return (← (host.environment "NO_COLOR" : m _)).getD "" = ""

def readSource (host : Host m) : Option String → ExceptT Error m String
  | some path => host.readText path
  | none => host.readInputText

def listGrammar (catalog : Catalog) (name : String) : Run m Unit := do
  let grammar ← catalog.grammars.get name
  write (grammarRow name grammar)

def list (catalog : Catalog) : Run m Unit := do
  write "Grammars:\n"
  catalog.grammars.names.forM (listGrammar catalog)
  write "Themes:\n"
  catalog.themes.names.forM fun name => write (themeRow name)

def highlight (host : Host m) (options : Options) (config : Config) (catalog : Catalog) : Run m Unit := do
  let source ← consult (readSource host options.file)
  let document ← catalog.highlight source (grammarName catalog options config)
    (options.theme.getD config.theme)
  if options.dump then write (Terminal.dump document)
  else write (Terminal.render (← consult (colored host)) document)

def runConfigured (host : Host m) (options : Options) : Run m Unit := do
  let config ← consult (host.loadConfig options.config)
  let catalog := config.apply .builtIn
  if options.list then list catalog
  else highlight host options config catalog

def runOptions (host : Host m) (options : Options) : Run m Unit :=
  if options.help then write usage
  else if options.version then write (title ++ "\n")
  else runConfigured host options

def run (host : Host m) (arguments : List String) : Run m Unit := do
  let options ← Options.ofArguments arguments
  runOptions host options

end Highlighter.Program

namespace Highlighter

structure Outcome where
  code : Nat
  output : String
  /-- The wording of the error that ended the run. -/
  failure : Option String
  deriving DecidableEq, Repr

def Outcome.of : Except Error Unit × String → Outcome
  | (.ok (), output) => ⟨0, output, none⟩
  | (.error error, output) => ⟨1, output, some error.message⟩

def Program.outcome {m : Type → Type} [Monad m] (host : Host m) (arguments : List String) : m Outcome :=
  Outcome.of <$> (Program.run host arguments).run.run ""

end Highlighter
