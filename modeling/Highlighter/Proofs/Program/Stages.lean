import Highlighter.Proofs.Program.Listing
import Highlighter.Proofs.Terminal.Screen

/-! The stages of a run. The first one that applies decides what the program leaves behind and what it has asked its
surroundings for; a run that fails has written nothing. -/

namespace Highlighter

def Host.source (host : Host Id) : Option String → Except ReadError ByteArray
  | some path => (host.readFile path).run
  | none => host.readInput.run

def sourceRequest : Option String → Request
  | some path => .file path
  | none => .input

namespace Program

def themeName (options : Options) (config : Config) : String := options.theme.getD config.theme

section Stages

variable (host : Host Id) (arguments : List String) (options : Options) (config : Config)

structure Working : Prop where
  understood : Options.ofArguments arguments = .ok options
  noHelp : options.help = false
  noVersion : options.version = false

structure Configured : Prop extends Working arguments options where
  loaded : (host.loadConfig options.config).run = .ok config

/-- A text is to be highlighted and its bytes are there. -/
structure Supplied (bytes : ByteArray) : Prop extends Configured host arguments options config where
  noList : options.list = false
  supplied : host.source options.file = .ok bytes

structure Assigned (text : String) (grammar : Grammar) : Prop where
  bytes : ∃ bytes, Supplied host arguments options config bytes ∧ String.fromUTF8? bytes = some text
  found : (config.apply .builtIn).grammars.get (grammarName (config.apply .builtIn) options config) = .ok grammar

def requests : List Request := host.configRequests options.config ++ [sourceRequest options.file]

end Stages

def failed (error : Error) : Outcome := ⟨1, "", some error.message⟩

def succeeded (output : String) : Outcome := ⟨0, output, none⟩

/-- A terminal that is sent the output shows the lines of the text, each with a line feed behind it. -/
def Displays (output text : String) : Prop :=
  '\x1b' ∉ text.toList →
    Terminal.withoutSequences output.toList = (Text.lines text).flatMap fun line => line.toList ++ ['\n']

/-- The outcome of a run and its requests, by the stage that decides it. Each stage supposes that no earlier one
applies. -/
inductive Decided (host : Host Id) (arguments : List String) : Outcome → List Request → Prop
  | misunderstood {error : Error} (wrong : Options.ofArguments arguments = .error error) :
    Decided host arguments (failed error) []
  | help {options : Options} (understood : Options.ofArguments arguments = .ok options) (asked : options.help = true) :
    Decided host arguments (succeeded usage) []
  | version {options : Options} (understood : Options.ofArguments arguments = .ok options)
    (noHelp : options.help = false) (asked : options.version = true) :
    Decided host arguments (succeeded (title ++ "\n")) []
  | misconfigured {options : Options} {error : Error} (working : Working arguments options)
    (wrong : (host.loadConfig options.config).run = .error error) :
    Decided host arguments (failed error) (host.configRequests options.config)
  | listed {options : Options} {config : Config} {grammars : List Grammar} {themes : List String}
    (configured : Configured host arguments options config) (asked : options.list = true)
    (complete : IsListing config grammars themes) :
    Decided host arguments (succeeded (listing grammars themes)) (host.configRequests options.config)
  | unreadable {options : Options} {config : Config} {reason : ReadError}
    (configured : Configured host arguments options config) (noList : options.list = false)
    (wrong : host.source options.file = .error reason) :
    Decided host arguments (failed (.unreadable reason)) (requests host options)
  | noText {options : Options} {config : Config} {bytes : ByteArray}
    (supplied : Supplied host arguments options config bytes) (wrong : String.fromUTF8? bytes = none) :
    Decided host arguments (failed (.unreadable .notUtf8)) (requests host options)
  | unknownGrammar {options : Options} {config : Config} {bytes : ByteArray} {text : String}
    (supplied : Supplied host arguments options config bytes) (decoded : String.fromUTF8? bytes = some text)
    (absent : ∀ grammar ∈ config.allGrammars,
      grammar.name ≠ grammarName (config.apply .builtIn) options config) :
    Decided host arguments (failed (.unknownGrammar (grammarName (config.apply .builtIn) options config)))
      (requests host options)
  | unknownTheme {options : Options} {config : Config} {text : String} {grammar : Grammar}
    (assigned : Assigned host arguments options config text grammar)
    (absent : ∀ theme ∈ config.allThemes, theme.name ≠ themeName options config) :
    Decided host arguments (failed (.unknownTheme (themeName options config))) (requests host options)
  | dumped {options : Options} {config : Config} {text : String} {grammar : Grammar} {theme : Theme}
    (assigned : Assigned host arguments options config text grammar)
    (found : (config.apply .builtIn).themes.get (themeName options config) = .ok theme) (asked : options.dump = true) :
    Decided host arguments (succeeded (Terminal.dump (Document.ofSource grammar theme text))) (requests host options)
  | rendered {options : Options} {config : Config} {text output : String} {grammar : Grammar} {theme : Theme}
    (assigned : Assigned host arguments options config text grammar)
    (found : (config.apply .builtIn).themes.get (themeName options config) = .ok theme)
    (noDump : options.dump = false)
    (written : output =
      Terminal.render ((host.environment "NO_COLOR").run.getD "" = "") (Document.ofSource grammar theme text))
    (displays : Displays output text) :
    Decided host arguments (succeeded output) (requests host options ++ [.variable "NO_COLOR"])

variable {host : Host Id} {arguments : List String}

section Reaching

variable {α : Type} {before later : List Request} {noting : Run (StateM (List Request)) α} {bare : Run Id α}
  {next : α → Run (StateM (List Request)) Unit} {bareNext : α → Run Id Unit}

/-- Begun after the given requests and with nothing written yet, the rest of the program ends in the stage that
applies. -/
def Reaches (host : Host Id) (arguments : List String) (before : List Request)
    (noting : Run (StateM (List Request)) Unit) (bare : Run Id Unit) : Prop :=
  ∃ result after later, Ends noting bare "" result after later ∧
    Decided host arguments (Outcome.of (result, after)) (before ++ later)

theorem Reaches.write {text : String} (decided : Decided host arguments (succeeded text) before) :
    Reaches host arguments before (Program.write text) (Program.write text) := by
  refine ⟨.ok (), text, [], ?_, ?_⟩
  · exact ends_write text
  · rw [List.append_nil]
    exact decided

end Reaching

variable {options : Options} {config : Config} {text : String} {bytes : ByteArray} {grammar : Grammar}

end Program

end Highlighter
