import Highlighter.Proofs.Config.Acceptance
import Highlighter.Proofs.Program.Requests

/-! Where a configuration comes from: every one that is loaded is what some document of the host says. -/

namespace Highlighter

open Toml (Value)

namespace Config

variable {readers : Readers}

end Config

namespace Host

variable {host : Host Id} {config : Config}

end Host

end Highlighter
