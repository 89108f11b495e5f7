import Highlighter.Program

/-! The program as a command. -/

namespace Highlighter

def readErrorOf : IO.Error → ReadError
  | .alreadyExists _ number description | .otherError number description | .resourceBusy number description
  | .resourceVanished number description | .unsupportedOperation number description
  | .hardwareFault number description | .unsatisfiedConstraints number description
  | .illegalOperation number description | .protocolError number description | .timeExpired number description
  | .interrupted _ number description | .noFileOrDirectory _ number description
  | .invalidArgument _ number description | .permissionDenied _ number description
  | .resourceExhausted _ number description | .inappropriateType _ number description
  | .noSuchThing _ number description => .refused number.toNat description
  | error => .refused 0 (toString error)

def attempted (action : IO ByteArray) : IO (Except ReadError ByteArray) := do
  match ← action.toBaseIO with
  | .ok content => return .ok content
  | .error error => return .error (readErrorOf error)

def systemHost : Host IO where
  toReaders := .standard
  environment name := IO.getEnv name
  isPresent path := (System.mkFilePath [path]).pathExists
  readFile path := attempted do (← IO.FS.Handle.mk path .read).readBinToEnd
  readInput := attempted do (← IO.getStdin).readBinToEnd

end Highlighter

open Highlighter in
def main (arguments : List String) : IO UInt32 := do
  let outcome ← Program.outcome systemHost arguments
  IO.print outcome.output
  if let some failure := outcome.failure then IO.eprintln ("Error: " ++ failure)
  return outcome.code.toUInt32
