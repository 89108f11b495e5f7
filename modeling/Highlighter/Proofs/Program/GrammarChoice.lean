import Highlighter.FileTree
import Highlighter.Proofs.CommandLine.Units
import Highlighter.Proofs.Config.Detection
import Highlighter.Proofs.Config.Loading
import Highlighter.Proofs.Grammar.LastDeclaration
import Highlighter.Proofs.Program.Stages

/-!
Which grammar a run uses. The units of its command line and the configuration decide it: the language that is asked
for last, or else the grammar for the file that remains to be read, or else the one of the configuration.
-/

namespace Highlighter.Program

open CommandUnit (Spells lastValue? remainingFile?)

section Chosen

variable {units : List CommandUnit} {config : Config} {name : String}
  (ascending : (config.grammars.map fun grammar => Text.bytes grammar.name).Pairwise (· < ·))

include ascending

end Chosen

section Run

variable {host : Host Id} {arguments : List String} {options : Options} {config : Config}

def finished (host : Host Id) (options : Options) : Except Error Document → Except Error Unit × String
  | .error error => (.error error, "")
  | .ok document =>
    (.ok (),
      if options.dump then Terminal.dump document
      else Terminal.render ((host.environment "NO_COLOR").run.getD "" = "") document)

end Run

end Highlighter.Program
