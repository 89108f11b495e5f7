import Highlighter.Program

/-! What the program asks its surroundings for. A host that notes all requests takes the place of one that answers
them alone; the program, which is the same for all hosts, cannot tell one from the other. -/

namespace Highlighter

inductive Request where
  | variable (name : String)
  | presence (path : String)
  | file (path : String)
  | input
  deriving DecidableEq, Repr

/-- A computation that notes requests yields a value for the noted ones, and so does the one that notes none. -/
structure Yields {β : Type} (noting : StateM (List Request) β) (bare : Id β) (value : β) (requests : List Request) :
    Prop where
  bare_eq : bare.run = value
  noting_eq : ∀ asked, noting.run asked = (value, asked ++ requests)

namespace Yields

variable {α β : Type} {requests later : List Request}

theorem pure (value : β) : Yields (Pure.pure value) (Pure.pure value) value [] where
  bare_eq := rfl
  noting_eq asked := by
    rw [List.append_nil]
    rfl

theorem bind {noting : StateM (List Request) α} {bare : Id α} (next : α → StateM (List Request) β)
    (bareNext : α → Id β) {middle : α} {value : β} (first : Yields noting bare middle requests)
    (rest : Yields (next middle) (bareNext middle) value later) :
    Yields (noting >>= next) (bare >>= bareNext) value (requests ++ later) where
  bare_eq := by
    rw [Id.run_bind, first.bare_eq]
    exact rest.bare_eq
  noting_eq asked := by
    rw [StateT.run_bind, first.noting_eq]
    change (next middle).run _ = _
    rw [rest.noting_eq, List.append_assoc]

theorem map (change : α → β) {noting : StateM (List Request) α} {bare : Id α} {value : α}
    (first : Yields noting bare value requests) :
    Yields (noting >>= fun value => Pure.pure (change value)) (bare >>= fun value => Pure.pure (change value))
      (change value) requests := by
  have mapped := first.bind (fun value => Pure.pure (change value)) (fun value => Pure.pure (change value))
    (pure (change value))
  rw [List.append_nil] at mapped
  exact mapped

section Except

variable {noting : ExceptT Error (StateM (List Request)) α} {bare : ExceptT Error Id α}
  {next : α → ExceptT Error (StateM (List Request)) β} {bareNext : α → ExceptT Error Id β}

theorem lift {noting : StateM (List Request) α} {bare : Id α} {value : α} (first : Yields noting bare value requests) :
    Yields (liftM noting : ExceptT Error (StateM (List Request)) α).run (liftM bare : ExceptT Error Id α).run
      (.ok value) requests :=
  first.map Except.ok

end Except

end Yields

namespace Program

variable {α β : Type} {requests later : List Request} {written after : String}
  {noting : Run (StateM (List Request)) α} {bare : Run Id α}

/-- Run after the given text, the part of the program ends so, having written all of the later text and made the
requests. -/
abbrev Ends (noting : Run (StateM (List Request)) α) (bare : Run Id α) (written : String) (result : Except Error α)
    (after : String) (requests : List Request) : Prop :=
  Yields (noting.run.run written) (bare.run.run written) (result, after) requests

theorem ends_write (text : String) : Ends (write text) (write text) written (.ok ()) (written ++ text) [] :=
  .pure (Except.ok (), written ++ text)

section Bind

variable {next : α → Run (StateM (List Request)) β} {bareNext : α → Run Id β}

end Bind

end Program

namespace Host

def noted {β : Type} (request : Request) (answer : Id β) : StateM (List Request) β := fun asked =>
  (answer.run, asked ++ [request])

def noting (host : Host Id) : Host (StateM (List Request)) where
  toReaders := host.toReaders
  environment name := noted (.variable name) (host.environment name)
  isPresent path := noted (.presence path) (host.isPresent path)
  readFile path := noted (.file path) (host.readFile path)
  readInput := noted .input host.readInput

variable (host : Host Id)

/-- What loading the configuration asks for: the given file, or the home directory, whether a file is found there, and
that file. -/
def configRequests : Option String → List Request
  | some path => [.file path]
  | none =>
    match (host.environment "HOME").run with
    | none => [.variable "HOME"]
    | some home =>
      .variable "HOME" :: .presence (Path.join home configName) ::
        if (host.isPresent (Path.join home configName)).run then [.file (Path.join home configName)] else []

end Host

end Highlighter
