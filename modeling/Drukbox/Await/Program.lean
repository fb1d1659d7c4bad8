import Mathlib.Logic.Relation
import Mathlib.Logic.Function.Basic

/-!
# Awaiting programs

A `Program` is a coroutine seen from its scheduler: it has returned, it has raised, or it waits for
the answer to one operation and resumes with it.  A `System` says what each operation does to the
shared state.  A configuration runs any family of programs over one state, one awaited operation at
a time, in any order, and keeps the history of every answer.
-/

namespace Await

/-- A coroutine that awaits operations, answered in `Ans`, and returns an `α` or raises an `ε`. -/
inductive Program {Op : Type} (Ans : Op → Type) (ε α : Type) where
  /-- The program has returned. -/
  | done (value : α)
  /-- The program has raised. -/
  | raise (error : ε)
  /-- The program waits for `op` and resumes with its answer. -/
  | call (op : Op) (resume : Ans op → Program Ans ε α)

namespace Program

variable {Op : Type} {Ans : Op → Type} {ε δ α β : Type}

/-- Sequential composition; an error skips what follows. -/
def bind : Program Ans ε α → (α → Program Ans ε β) → Program Ans ε β
  | done value, next => next value
  | raise error, _ => raise error
  | call op resume, next => call op fun answer => (resume answer).bind next

instance : Monad (Program Ans ε) where
  pure := done
  bind := bind

def await (op : Op) : Program Ans ε (Ans op) :=
  call op done

/-- Run a program to its outcome, so that the caller decides what an error means. -/
def attempt : Program Ans δ α → Program Ans ε (Except δ α)
  | done value => done (.ok value)
  | raise error => done (.error error)
  | call op resume => call op fun answer => (resume answer).attempt

/-- Return or raise an outcome that is already known. -/
def ofExcept : Except ε α → Program Ans ε α
  | .ok value => done value
  | .error error => raise error

/-- Run `cleanup` after a program, whether it returns or raises. -/
def closing (program : Program Ans ε α) (cleanup : Program Ans ε Unit) : Program Ans ε α :=
  program.attempt.bind fun outcome => cleanup.bind fun _ => ofExcept outcome

@[simp] theorem pure_eq_done (value : α) : (pure value : Program Ans ε α) = done value := rfl

@[simp] theorem bind_eq_bind (program : Program Ans ε α) (next : α → Program Ans ε β) :
    program >>= next = program.bind next := rfl

@[simp] theorem done_bind (value : α) (next : α → Program Ans ε β) :
    (done value).bind next = next value := rfl

@[simp] theorem raise_bind (error : ε) (next : α → Program Ans ε β) :
    (raise error).bind next = raise error := rfl

@[simp] theorem call_bind (op : Op) (resume : Ans op → Program Ans ε α)
    (next : α → Program Ans ε β) :
    (call op resume).bind next = call op fun answer => (resume answer).bind next := rfl

@[simp] theorem await_bind (op : Op) (next : Ans op → Program Ans ε β) :
    (await op).bind next = call op next := rfl

@[simp] theorem ofExcept_ok (value : α) :
    (ofExcept (.ok value) : Program Ans ε α) = done value := rfl

@[simp] theorem ofExcept_error (error : ε) :
    (ofExcept (.error error) : Program Ans ε α) = raise error := rfl

theorem bind_assoc {γ : Type} (program : Program Ans ε α) (next : α → Program Ans ε β)
    (last : β → Program Ans ε γ) :
    (program.bind next).bind last = program.bind fun value => (next value).bind last := by
  induction program with
  | done value => rfl
  | raise error => rfl
  | call op resume ih => exact congrArg (call op) (funext ih)

theorem done_ne_call {value : α} {op : Op} {resume : Ans op → Program Ans ε α} :
    done value ≠ call op resume := by
  simp

/-- Every operation that the program can come to wait for satisfies `good`. -/
def All (good : Op → Prop) : Program Ans ε α → Prop
  | done _ => True
  | raise _ => True
  | call op resume => good op ∧ ∀ answer, (resume answer).All good

section All

variable {good better : Op → Prop}

@[simp] theorem all_done (value : α) : (done value : Program Ans ε α).All good := trivial

@[simp] theorem all_raise (error : ε) : (raise error : Program Ans ε α).All good := trivial

@[simp] theorem all_call (op : Op) (resume : Ans op → Program Ans ε α) :
    (call op resume).All good ↔ good op ∧ ∀ answer, (resume answer).All good := Iff.rfl

@[simp] theorem all_await (op : Op) : (await op : Program Ans ε _).All good ↔ good op := by
  simp [await]

theorem All.step {op : Op} {next : Ans op → Program Ans ε α} (holds : good op)
    (rest : ∀ answer, (next answer).All good) : ((await op).bind next).All good :=
  ⟨holds, rest⟩

theorem All.mono {program : Program Ans ε α} (all : program.All good)
    (weaker : ∀ op, good op → better op) : program.All better := by
  induction program with
  | done value => trivial
  | raise error => trivial
  | call op resume ih => exact ⟨weaker op all.1, fun answer => ih answer (all.2 answer)⟩

theorem All.bind {program : Program Ans ε α} {next : α → Program Ans ε β}
    (all : program.All good) (all_next : ∀ value, (next value).All good) :
    (program.bind next).All good := by
  induction program with
  | done value => exact all_next value
  | raise error => trivial
  | call op resume ih => exact ⟨all.1, fun answer => ih answer (all.2 answer)⟩

theorem All.attempt {program : Program Ans δ α} (all : program.All good) :
    (program.attempt : Program Ans ε (Except δ α)).All good := by
  induction program with
  | done value => trivial
  | raise error => trivial
  | call op resume ih => exact ⟨all.1, fun answer => ih answer (all.2 answer)⟩

theorem All.closing {program : Program Ans ε α} {cleanup : Program Ans ε Unit}
    (all : program.All good) (all_cleanup : cleanup.All good) :
    (program.closing cleanup).All good := by
  refine all.attempt.bind fun outcome => all_cleanup.bind fun _ => ?_
  cases outcome <;> trivial

end All

end Program

/-- What the operations and the outside world do to one shared state.

`perform` is partial: `none` means that the operation still waits, or that the outside world does
not give the answer chosen in `χ`. -/
structure System (ι : Type) {Op : Type} (Ans : Op → Type) (σ χ ω : Type) where
  /-- One task's operation, with the outside world's choice of its outcome. -/
  perform : ι → (op : Op) → χ → σ → Option (Ans op × σ)
  /-- A step of the outside world. -/
  world : ω → σ → Option σ
  /-- What is left when a task is cancelled or its process crashes. -/
  abandon : ι → σ → σ

/-- One entry of the history of a run. -/
inductive Entry (ι : Type) {Op : Type} (Ans : Op → Type) where
  /-- A task's operation was answered. -/
  | answered (task : ι) (op : Op) (answer : Ans op)
  /-- A task was cancelled or crashed. -/
  | abandoned (task : ι)

/-- The shared state together with the history that led to it. -/
structure World (ι : Type) {Op : Type} (Ans : Op → Type) (σ : Type) where
  /-- Current shared state. -/
  state : σ
  /-- Every answer so far, the latest last. -/
  log : List (Entry ι Ans)

/-- A run of any family of programs; an absent program was cancelled or never started. -/
structure Config (ι : Type) {Op : Type} (Ans : Op → Type) (σ ε α : Type) where
  /-- Shared state and history. -/
  world : World ι Ans σ
  /-- The program that each task has left to run. -/
  tasks : ι → Option (Program Ans ε α)

/-- What a scheduler may do next. -/
inductive Event (ι χ ω : Type) where
  /-- Answer the operation that a task waits for. -/
  | perform (task : ι) (choice : χ)
  /-- Cancel a task at the operation that it waits for. -/
  | abandon (task : ι)
  /-- Let the outside world move. -/
  | world (event : ω)

section Runs

variable {ι Op : Type} {Ans : Op → Type} {σ χ ω ε α : Type} [DecidableEq ι]

/-- Perform one operation and record its answer. -/
def System.answer (system : System ι Ans σ χ ω) (task : ι) (op : Op) (choice : χ)
    (world : World ι Ans σ) : Option (Ans op × World ι Ans σ) :=
  (system.perform task op choice world.state).map fun result =>
    (result.1, { state := result.2, log := world.log ++ [.answered task op result.1] })

/-- Abandon one task and record it. -/
def System.abandoned (system : System ι Ans σ χ ω) (task : ι) (world : World ι Ans σ) :
    World ι Ans σ :=
  { state := system.abandon task world.state, log := world.log ++ [.abandoned task] }

/-- Execute one event, if it can happen. -/
def System.next (system : System ι Ans σ χ ω) (config : Config ι Ans σ ε α) :
    Event ι χ ω → Option (Config ι Ans σ ε α)
  | .perform task choice =>
      match config.tasks task with
      | some (.call op resume) =>
          (system.answer task op choice config.world).map fun result =>
            { world := result.2
              tasks := Function.update config.tasks task (some (resume result.1)) }
      | _ => none
  | .abandon task =>
      match config.tasks task with
      | some (.call _ _) =>
          some
            { world := system.abandoned task config.world
              tasks := Function.update config.tasks task none }
      | _ => none
  | .world event =>
      (system.world event config.world.state).map fun state =>
        { config with world := { config.world with state } }

def System.run (system : System ι Ans σ χ ω) (config : Config ι Ans σ ε α)
    (events : List (Event ι χ ω)) : Option (Config ι Ans σ ε α) :=
  events.foldlM system.next config

/-- The steps that a run may take: a condition on what a step meets, never on what it gives. -/
structure Condition (ι : Type) {Op : Type} (Ans : Op → Type) (σ ω : Type) where
  /-- When a task may perform an operation. -/
  perform : ι → Op → World ι Ans σ → Prop := fun _ _ _ => True
  /-- When a task may be cancelled or crash. -/
  abandon : ι → World ι Ans σ → Prop := fun _ _ => True
  /-- When the outside world may move. -/
  world : ω → World ι Ans σ → Prop := fun _ _ => True

/-- The condition allows the event in this configuration. -/
def Condition.Allows (condition : Condition ι Ans σ ω) (config : Config ι Ans σ ε α) :
    Event ι χ ω → Prop
  | .perform task _ =>
      ∀ op resume, config.tasks task = some (.call op resume) →
        condition.perform task op config.world
  | .abandon task => condition.abandon task config.world
  | .world event => condition.world event config.world

/-- One event that the condition allows. -/
def System.Step (system : System ι Ans σ χ ω) (condition : Condition ι Ans σ ω)
    (event : Event ι χ ω) (before after : Config ι Ans σ ε α) : Prop :=
  condition.Allows before event ∧ system.next before event = some after

/-- Reachability by steps that the condition allows. -/
def System.Reaches (system : System ι Ans σ χ ω) (condition : Condition ι Ans σ ω) :
    Config ι Ans σ ε α → Config ι Ans σ ε α → Prop :=
  Relation.ReflTransGen fun before after => ∃ event, system.Step condition event before after

variable {system : System ι Ans σ χ ω} {condition : Condition ι Ans σ ω}
  {before after : Config ι Ans σ ε α}

omit [DecidableEq ι] in
theorem System.answer_eq_some {task : ι} {op : Op} {choice : χ} {world later : World ι Ans σ}
    {answer : Ans op} :
    system.answer task op choice world = some (answer, later) ↔
      system.perform task op choice world.state = some (answer, later.state) ∧
        later.log = world.log ++ [.answered task op answer] := by
  obtain ⟨state, log⟩ := later
  simp only [System.answer, Option.map_eq_some_iff, Prod.exists, Prod.mk.injEq, World.mk.injEq]
  constructor
  · rintro ⟨_, _, performed, rfl, rfl, rfl⟩
    exact ⟨performed, rfl⟩
  · rintro ⟨performed, rfl⟩
    exact ⟨answer, state, performed, rfl, rfl, rfl⟩

/-- What one step can be: an answer, a cancellation, or a move of the outside world. -/
theorem System.next_cases {event : Event ι χ ω} (step : system.next before event = some after) :
    (∃ task choice op resume answer later,
        event = .perform task choice ∧ before.tasks task = some (.call op resume) ∧
          system.answer task op choice before.world = some (answer, later) ∧
          after =
            { world := later
              tasks := Function.update before.tasks task (some (resume answer)) }) ∨
      (∃ task op resume,
        event = .abandon task ∧ before.tasks task = some (.call op resume) ∧
          after =
            { world := system.abandoned task before.world
              tasks := Function.update before.tasks task none }) ∨
      ∃ move state,
        event = .world move ∧ system.world move before.world.state = some state ∧
          after = { before with world := { before.world with state } } := by
  cases event with
  | perform task choice =>
      left
      cases program : before.tasks task with
      | none => simp [System.next, program] at step
      | some left_to_run =>
          cases left_to_run with
          | done value => simp [System.next, program] at step
          | raise error => simp [System.next, program] at step
          | call op resume =>
              simp only [System.next, program, Option.map_eq_some_iff, Prod.exists] at step
              obtain ⟨answer, later, answered, rfl⟩ := step
              exact ⟨task, choice, op, resume, answer, later, rfl, program, answered, rfl⟩
  | abandon task =>
      right; left
      cases program : before.tasks task with
      | none => simp [System.next, program] at step
      | some left_to_run =>
          cases left_to_run with
          | done value => simp [System.next, program] at step
          | raise error => simp [System.next, program] at step
          | call op resume =>
              simp only [System.next, program, Option.some.injEq] at step
              exact ⟨task, op, resume, rfl, program, step.symm⟩
  | world move =>
      right; right
      simp only [System.next, Option.map_eq_some_iff] at step
      obtain ⟨state, moved, rfl⟩ := step
      exact ⟨move, state, rfl, moved, rfl⟩

/-- Every executed schedule is a run. -/
theorem System.reaches_of_run {events : List (Event ι χ ω)}
    (executed : system.run before events = some after) :
    system.Reaches {} before after := by
  induction events generalizing before with
  | nil =>
      obtain rfl : before = after := by simpa [System.run] using executed
      exact .refl
  | cons event events ih =>
      simp only [System.run, List.foldlM_cons] at executed
      obtain ⟨middle, first, rest⟩ := Option.bind_eq_some_iff.mp executed
      refine .head ⟨event, ?_, first⟩ (ih rest)
      cases event <;> simp [Condition.Allows]

theorem System.reaches_run (events : List (Event ι χ ω))
    (executed : (system.run before events).isSome) :
    system.Reaches {} before ((system.run before events).get executed) :=
  System.reaches_of_run (Option.some_get executed).symm

theorem System.Reaches.perform {final : Config ι Ans σ ε α} (task : ι) (choice : χ) {op : Op}
    {resume : Ans op → Program Ans ε α} {answer : Ans op} {later : World ι Ans σ}
    (program : before.tasks task = some (.call op resume))
    (answered : system.answer task op choice before.world = some (answer, later))
    (allowed : condition.perform task op before.world)
    (rest : system.Reaches condition
      { world := later
        tasks := Function.update before.tasks task (some (resume answer)) } final) :
    system.Reaches condition before final := by
  refine .head ⟨.perform task choice, fun op resume present => ?_, ?_⟩ rest
  · rw [program] at present
    obtain ⟨rfl, -⟩ := Program.call.inj (Option.some.inj present)
    exact allowed
  · simp [System.next, program, answered]

/-- Execute a schedule, where a check may refuse each event. -/
def System.runChecked (system : System ι Ans σ χ ω)
    (check : Config ι Ans σ ε α → Event ι χ ω → Bool) (config : Config ι Ans σ ε α)
    (events : List (Event ι χ ω)) : Option (Config ι Ans σ ε α) :=
  events.foldlM (fun config event =>
    if check config event then system.next config event else none) config

theorem System.reaches_runChecked (check : Config ι Ans σ ε α → Event ι χ ω → Bool)
    (sound : ∀ config event, check config event → condition.Allows config event)
    (events : List (Event ι χ ω)) (executed : (system.runChecked check before events).isSome) :
    system.Reaches condition before ((system.runChecked check before events).get executed) := by
  suffices reaches : ∀ after, system.runChecked check before events = some after →
      system.Reaches condition before after from reaches _ (Option.some_get executed).symm
  clear executed
  induction events generalizing before with
  | nil =>
      intro after executed
      obtain rfl : before = after := by simpa [System.runChecked] using executed
      exact .refl
  | cons event events ih =>
      intro after executed
      simp only [System.runChecked, List.foldlM_cons] at executed
      obtain ⟨middle, first, rest⟩ := Option.bind_eq_some_iff.mp executed
      split at first
      · next passed => exact .head ⟨event, sound _ _ passed, first⟩ (ih after rest)
      · contradiction

theorem System.Reaches.tasks_stay (reach : system.Reaches condition before after)
    (stay : ∀ task world, ¬ condition.abandon task world) (task : ι)
    (started : (before.tasks task).isSome) : (after.tasks task).isSome := by
  induction reach with
  | refl => exact started
  | tail _ step ih =>
      obtain ⟨event, allowed, stepped⟩ := step
      rcases System.next_cases stepped with
        ⟨other, choice, op, resume, answer, later, -, -, -, rfl⟩ |
        ⟨other, op, resume, rfl, -⟩ | ⟨move, state, -, -, rfl⟩
      · by_cases same : task = other <;> simp [same, ih]
      · exact absurd allowed (stay other _)
      · exact ih

end Runs

end Await
