import Highlighter.Session

/-! Steps of a session without a trace: those that only ask, and those that fail. They leave the catalog as it was, so
that a session without them has the same answers to all other steps. -/

namespace Highlighter

namespace Action

variable {α β : Type} {action : Action α} {next : α → Action β}

/-- The action leaves every catalog as it was, however it ends. -/
def Reads (action : Action α) : Prop := ∀ catalog, (action.run.run catalog).2 = catalog

/-- The action leaves a catalog as it was if it fails on it. -/
def Whole (action : Action α) : Prop :=
  ∀ catalog error, (action.run.run catalog).1 = .error error → (action.run.run catalog).2 = catalog

def Succeeds (action : Action α) : Prop := ∀ catalog, ∃ value, (action.run.run catalog).1 = .ok value

theorem run_bind_of_ok {catalog : Catalog} {value : α} (ok : (action.run.run catalog).1 = .ok value) :
    (action >>= next).run.run catalog = (next value).run.run (action.run.run catalog).2 := by
  have unfolded : (action >>= next).run.run catalog =
      (ExceptT.bindCont next (action.run.run catalog).1).run (action.run.run catalog).2 := rfl
  rw [unfolded, ok]
  rfl

theorem run_bind_of_error {catalog : Catalog} {error : Error} (failed : (action.run.run catalog).1 = .error error) :
    (action >>= next).run.run catalog = (.error error, (action.run.run catalog).2) := by
  have unfolded : (action >>= next).run.run catalog =
      (ExceptT.bindCont next (action.run.run catalog).1).run (action.run.run catalog).2 := rfl
  rw [unfolded, failed]
  rfl

theorem reads_pure (value : α) : Reads (pure value) := fun _ => rfl

theorem reads_get : Reads get := fun _ => rfl

theorem reads_lift (result : Except Error α) : Reads (liftM result) := by
  intro catalog
  cases result <;> rfl

theorem Reads.bind (first : Reads action) (rest : ∀ value, Reads (next value)) : Reads (action >>= next) := by
  intro catalog
  cases ended : (action.run.run catalog).1 with
  | error error => rw [run_bind_of_error ended, first catalog]
  | ok value => rw [run_bind_of_ok ended, rest value, first catalog]

theorem Reads.whole (reads : Reads action) : Whole action := fun catalog _ _ => reads catalog

theorem succeeds_pure (value : α) : Succeeds (pure value) := fun _ => ⟨value, rfl⟩

theorem succeeds_get : Succeeds get := fun catalog => ⟨catalog, rfl⟩

theorem succeeds_modify (change : Catalog → Catalog) : Succeeds (modify change) := fun _ => ⟨(), rfl⟩

theorem Succeeds.bind (first : Succeeds action) (rest : ∀ value, Succeeds (next value)) :
    Succeeds (action >>= next) := by
  intro catalog
  obtain ⟨value, ended⟩ := first catalog
  rw [run_bind_of_ok ended]
  exact rest value _

theorem Succeeds.whole (succeeds : Succeeds action) : Whole action := by
  intro catalog error failed
  obtain ⟨value, ended⟩ := succeeds catalog
  rw [ended] at failed
  cases failed

/-- What may fail comes before the first change. -/
theorem Reads.bind_whole (first : Reads action) (rest : ∀ value, Whole (next value)) : Whole (action >>= next) := by
  intro catalog error failed
  cases ended : (action.run.run catalog).1 with
  | error reason => rw [run_bind_of_error ended, first catalog]
  | ok value =>
    rw [run_bind_of_ok ended, first catalog] at failed ⊢
    exact rest value catalog error failed

end Action

namespace Operation

open Highlighter.Action

def IsQuery : Operation → Prop
  | addGrammar _ => False
  | addTheme _ => False
  | applyConfig _ _ => False
  | _ => True

theorem succeeds_change (change : Catalog → Catalog) :
    Succeeds (do modify change; return Answer.ofCatalog (← get)) :=
  (succeeds_modify change).bind fun _ => succeeds_get.bind fun _ => succeeds_pure _

theorem reads_perform {operation : Operation} (query : operation.IsQuery) : Reads operation.perform := by
  cases operation with
  | tokenize grammar line =>
    exact reads_get.bind fun catalog => (reads_lift (catalog.grammars.get grammar)).bind fun _ => reads_pure _
  | highlight source grammar theme =>
    exact reads_get.bind fun catalog => (reads_lift (catalog.highlight source grammar theme)).bind fun _ => reads_pure _
  | render source grammar theme =>
    exact reads_get.bind fun catalog => (reads_lift (catalog.highlight source grammar theme)).bind fun _ => reads_pure _
  | dump source grammar theme =>
    exact reads_get.bind fun catalog => (reads_lift (catalog.highlight source grammar theme)).bind fun _ => reads_pure _
  | detect path => exact reads_get.bind fun catalog => reads_pure _
  | listNames => exact reads_get.bind fun catalog => reads_pure _
  | showGrammar name =>
    exact reads_get.bind fun catalog => (reads_lift (catalog.grammars.get name)).bind fun _ => reads_pure _
  | showTheme name =>
    exact reads_get.bind fun catalog => (reads_lift (catalog.themes.get name)).bind fun _ => reads_pure _
  | loadConfig host path => exact (reads_lift (host.loadConfig path).run.run).bind fun _ => reads_pure _
  | addGrammar definition => exact query.elim
  | addTheme definition => exact query.elim
  | applyConfig host path => exact query.elim

/-- What adds to the catalog reads its definitions to their end first, and after that nothing can fail. -/
theorem whole_perform (operation : Operation) : Whole operation.perform := by
  cases operation with
  | addGrammar definition =>
    exact (reads_lift definition.grammar).bind_whole fun grammar => (succeeds_change _).whole
  | addTheme definition =>
    exact (reads_lift definition.theme).bind_whole fun theme => (succeeds_change _).whole
  | applyConfig host path =>
    exact (reads_lift (host.loadConfig path).run.run).bind_whole fun config => (succeeds_change config.apply).whole
  | _ =>
    refine (reads_perform ?_).whole
    trivial

/-- The operation only asks, or it fails on the catalog. -/
def Harmless (catalog : Catalog) (operation : Operation) : Prop :=
  operation.IsQuery ∨ ∃ error, operation.answer catalog = .error error

theorem after_eq_of_harmless {catalog : Catalog} {operation : Operation} (harmless : operation.Harmless catalog) :
    operation.after catalog = catalog := by
  rcases harmless with query | ⟨error, failed⟩
  · exact reads_perform query catalog
  · exact whole_perform operation catalog error failed

end Operation

namespace Session

open Operation

def last (catalog : Catalog) (operations : List Operation) : Catalog := operations.foldl Operation.after catalog

/-- The items of a list whose numbers are kept. -/
def kept {α : Type} (keep : Nat → Bool) : List α → List α
  | [] => []
  | item :: rest => if keep 0 then item :: kept (keep ∘ Nat.succ) rest else kept (keep ∘ Nat.succ) rest

/-- The step with a number leaves no trace: it only asks, or it is answered by an error. -/
def Traceless (catalog : Catalog) (operations : List Operation) (index : Nat) : Prop :=
  (∃ operation ∈ operations[index]?, operation.IsQuery) ∨
    ∃ error, (answers catalog operations)[index]? = some (.error error)

variable {catalog : Catalog} {operation : Operation} {rest operations : List Operation} {index : Nat}

theorem harmless_of_traceless_zero (traceless : Traceless catalog (operation :: rest) 0) :
    operation.Harmless catalog := by
  rcases traceless with ⟨asked, found, query⟩ | ⟨error, failed⟩
  · cases found
    exact .inl query
  · exact .inr ⟨error, Option.some.inj failed⟩

theorem traceless_succ_iff :
    Traceless catalog (operation :: rest) (index + 1) ↔ Traceless (operation.after catalog) rest index := Iff.rfl

theorem last_take_succ (traceless : Traceless catalog operations index) :
    last catalog (operations.take (index + 1)) = last catalog (operations.take index) := by
  induction operations generalizing catalog index with
  | nil => rw [List.take_nil, List.take_nil]
  | cons operation rest ih =>
    cases index with
    | zero => exact after_eq_of_harmless (harmless_of_traceless_zero traceless)
    | succ index => exact ih (traceless_succ_iff.mp traceless)

theorem answers_kept {keep : Nat → Bool}
    (traceless : ∀ index < operations.length, keep index = false → Traceless catalog operations index) :
    answers catalog (kept keep operations) = kept keep (answers catalog operations) ∧
      last catalog (kept keep operations) = last catalog operations := by
  induction operations generalizing catalog keep with
  | nil => exact ⟨rfl, rfl⟩
  | cons operation rest ih =>
    have later : ∀ index < rest.length, (keep ∘ Nat.succ) index = false →
        Traceless (operation.after catalog) rest index :=
      fun index inside dropped => traceless (index + 1) (Nat.succ_lt_succ inside) dropped
    obtain ⟨answered, ended⟩ := ih later
    cases kept_zero : keep 0 with
    | true =>
      simp only [kept, kept_zero, if_true, answers, answered]
      exact ⟨trivial, ended⟩
    | false =>
      have same : operation.after catalog = catalog :=
        after_eq_of_harmless (harmless_of_traceless_zero (traceless 0 (Nat.succ_pos _) kept_zero))
      simp only [kept, kept_zero, Bool.false_eq_true, if_false, answers, last, List.foldl_cons]
      rw [same] at answered ended ⊢
      exact ⟨answered, ended⟩

/-- Queries and failed steps of a session change nothing in the catalog, and a session without any number of them has
the same answers to all other steps and ends with the same catalog. -/
theorem traceless_steps (catalog : Catalog) (operations : List Operation) :
    (∀ index, Traceless catalog operations index →
      last catalog (operations.take (index + 1)) = last catalog (operations.take index)) ∧
    ∀ keep : Nat → Bool,
      (∀ index < operations.length, keep index = false → Traceless catalog operations index) →
        answers catalog (kept keep operations) = kept keep (answers catalog operations) ∧
          last catalog (kept keep operations) = last catalog operations :=
  ⟨fun _ traceless => last_take_succ traceless, fun _ traceless => answers_kept traceless⟩

def interrupted : List Operation :=
  [.addGrammar { name := "a", rules := [("number", "1+"), ("string", "[")] }, .addGrammar { name := "b" }, .listNames,
    .showTheme "c"]

/-- Of four steps two leave no trace, and the others are answered alike without them. -/
theorem traceless_steps_interrupted :
    Traceless {} interrupted 0 ∧ Traceless {} interrupted 2 ∧
      answers {} [.addGrammar { name := "b" }, .showTheme "c"] =
        [.ok (.names ["b"] []), .error (.unknownTheme "c")] := by
  have faulty : Traceless {} interrupted 0 := .inr ⟨.invalidPattern .string, rfl⟩
  have asked : Traceless {} interrupted 2 := .inl ⟨.listNames, rfl, trivial⟩
  have traceless : ∀ index < interrupted.length, decide (index % 2 = 1) = false → Traceless {} interrupted index := by
    intro index inside dropped
    obtain rfl | rfl : index = 0 ∨ index = 2 := by
      have bound : index < 4 := inside
      have even := of_decide_eq_false dropped
      omega
    · exact faulty
    · exact asked
  exact ⟨faulty, asked, ((traceless_steps {} interrupted).2 _ traceless).1⟩

end Session

end Highlighter
