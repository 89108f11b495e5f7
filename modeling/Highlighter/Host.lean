import Highlighter.Config
import Highlighter.Path

/-! What a program finds around it: readers, variables, files and its standard input. -/

namespace Highlighter

/-- Access to the surroundings of a program, in a monad that tells which of them are looked at. -/
structure Host (m : Type → Type) extends Readers where
  environment : String → m (Option String)
  /-- Something is found at a path. It is not if the system fails to tell, for whatever reason. -/
  isPresent : String → m Bool
  readFile : String → m (Except ReadError ByteArray)
  readInput : m (Except ReadError ByteArray)

namespace Host

variable {m : Type → Type} [Monad m]

def decode (bytes : Except ReadError ByteArray) : Except Error String :=
  match bytes with
  | .error reason => .error (.unreadable reason)
  | .ok bytes =>
    match String.fromUTF8? bytes with
    | some text => .ok text
    | none => .error (.unreadable .notUtf8)

def readText (host : Host m) (path : String) : ExceptT Error m String :=
  .mk (decode <$> host.readFile path)

def readInputText (host : Host m) : ExceptT Error m String :=
  .mk (decode <$> host.readInput)

def configName : String := ".codesnap.toml"

def loadConfigFrom (host : Host m) (path : String) : ExceptT Error m Config := do
  let text ← host.readText path
  .mk (pure (Config.parse host.toReaders path text))

/-- The configuration in the home directory, or the default one if none is found there. -/
def loadDefaultConfig (host : Host m) : ExceptT Error m Config := do
  match ← (host.environment "HOME" : m _) with
  | none => return {}
  | some home =>
    let path := Path.join home configName
    if ← (host.isPresent path : m _) then host.loadConfigFrom path
    else return {}

def loadConfig (host : Host m) : Option String → ExceptT Error m Config
  | some path => host.loadConfigFrom path
  | none => host.loadDefaultConfig

end Host

end Highlighter
