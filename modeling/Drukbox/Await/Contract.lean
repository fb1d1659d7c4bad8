import Drukbox.Await.Program

/-!
# Contracts of awaiting programs

A contract is an automaton over a program's own steps: it says which operation may come next, which
answers the program counts on, and what each of them leads to.  A program follows it or not,
whatever the other tasks do.  When each operation that a contract allows gets such an answer and
keeps one invariant and the assertions of all tasks, they hold throughout every run, for any number
of tasks and any order of their steps.
-/

namespace Await

variable {ι Op : Type} {Ans : Op → Type} {σ χ ω ε δ α β φ ψ : Type}

/-- An automaton over the operations of one program. -/
structure Contract (Ans : Op → Type) (φ : Type) where
  /-- The operations that a phase allows. -/
  allows : φ → Op → Prop
  /-- The answers that a phase counts on. -/
  expects : φ → (op : Op) → Ans op → Prop := fun _ _ _ => True
  /-- The phase after an answer. -/
  next : φ → (op : Op) → Ans op → φ

def Contract.prod (first : Contract Ans φ) (second : Contract Ans ψ) : Contract Ans (φ × ψ) where
  allows phase op := first.allows phase.1 op ∧ second.allows phase.2 op
  expects phase op answer := first.expects phase.1 op answer ∧ second.expects phase.2 op answer
  next phase op answer := (first.next phase.1 op answer, second.next phase.2 op answer)

/-- The program keeps to the contract from a phase on, and ends in a phase and with an outcome
that satisfy `post`. -/
def Follows (contract : Contract Ans φ) (post : φ → Except ε α → Prop) :
    φ → Program Ans ε α → Prop
  | phase, .done value => post phase (.ok value)
  | phase, .raise error => post phase (.error error)
  | phase, .call op resume =>
      contract.allows phase op ∧
        ∀ answer, contract.expects phase op answer →
          Follows contract post (contract.next phase op answer) (resume answer)

/-- A postcondition for a normal return and one for an error. -/
@[simp] def Ends (fails : φ → Prop) (holds : φ → α → Prop) (phase : φ) : Except ε α → Prop
  | .ok value => holds phase value
  | .error _ => fails phase

/-- A postcondition of the programs that return. -/
abbrev Returns (holds : φ → α → Prop) : φ → Except ε α → Prop :=
  Ends (fun _ => True) holds

namespace Follows

variable {contract : Contract Ans φ} {phase : φ}

@[simp] theorem done_iff {post : φ → Except ε α → Prop} {value : α} :
    Follows contract post phase (.done value) ↔ post phase (.ok value) := Iff.rfl

@[simp] theorem raise_iff {post : φ → Except ε α → Prop} {error : ε} :
    Follows contract post phase (.raise error) ↔ post phase (.error error) := Iff.rfl

@[simp] theorem call_iff {post : φ → Except ε α → Prop} {op : Op}
    {resume : Ans op → Program Ans ε α} :
    Follows contract post phase (.call op resume) ↔
      contract.allows phase op ∧
        ∀ answer, contract.expects phase op answer →
          Follows contract post (contract.next phase op answer) (resume answer) := Iff.rfl

theorem step {post : φ → Except ε α → Prop} {op : Op} {next : Ans op → Program Ans ε α}
    (allowed : contract.allows phase op)
    (rest : ∀ answer, contract.expects phase op answer →
      Follows contract post (contract.next phase op answer) (next answer)) :
    Follows contract post phase ((Program.await op).bind next) :=
  ⟨allowed, rest⟩

theorem weaken {post weaker : φ → Except ε α → Prop} {program : Program Ans ε α}
    (follows : Follows contract post phase program)
    (weaken : ∀ phase outcome, post phase outcome → weaker phase outcome) :
    Follows contract weaker phase program := by
  induction program generalizing phase with
  | done value => exact weaken _ _ follows
  | raise error => exact weaken _ _ follows
  | call op resume ih =>
      exact ⟨follows.1, fun answer expected => ih answer (follows.2 answer expected)⟩

/-- What follows a program starts from that program's postcondition. -/
theorem bind {post : φ → Except ε β → Prop} {program : Program Ans ε α}
    {next : α → Program Ans ε β}
    (follows : Follows contract
      (fun phase outcome => match outcome with
        | .ok value => Follows contract post phase (next value)
        | .error error => post phase (.error error)) phase program) :
    Follows contract post phase (program.bind next) := by
  induction program generalizing phase with
  | done value => exact follows
  | raise error => exact follows
  | call op resume ih =>
      exact ⟨follows.1, fun answer expected => ih answer (follows.2 answer expected)⟩

/-- Sequential composition, where an error skips what follows. -/
theorem seq {fails : φ → Prop} {middle : φ → α → Prop} {holds : φ → β → Prop}
    {program : Program Ans ε α} {next : α → Program Ans ε β}
    (first : Follows contract (Ends fails middle) phase program)
    (rest : ∀ later value, middle later value →
      Follows contract (Ends fails holds) later (next value)) :
    Follows contract (Ends fails holds) phase (program.bind next) := by
  refine .bind (first.weaken fun later outcome ended => ?_)
  cases outcome with
  | ok value => exact rest later value ended
  | error error => exact ended

theorem returns {fails : φ → Prop} {stronger holds : φ → α → Prop} {program : Program Ans ε α}
    (follows : Follows contract (Ends fails stronger) phase program)
    (weaken : ∀ later value, stronger later value → holds later value) :
    Follows contract (Ends fails holds) phase program := by
  refine follows.weaken fun later outcome ended => ?_
  cases outcome with
  | ok value => exact weaken later value ended
  | error error => exact ended

theorem any {post : φ → Except ε α → Prop} {program : Program Ans ε α}
    (follows : Follows contract post phase program) :
    Follows contract (Returns fun _ _ => True) phase program := by
  refine follows.weaken fun _ outcome _ => ?_
  cases outcome <;> trivial

theorem attempt {post : φ → Except ε (Except δ α) → Prop} {program : Program Ans δ α}
    (follows : Follows contract (fun phase outcome => post phase (.ok outcome)) phase program) :
    Follows contract post phase program.attempt := by
  induction program generalizing phase with
  | done value => exact follows
  | raise error => exact follows
  | call op resume ih =>
      exact ⟨follows.1, fun answer expected => ih answer (follows.2 answer expected)⟩

/-- The cleanup starts from the program's outcome and keeps it. -/
theorem closing {post : φ → Except ε α → Prop} {program : Program Ans ε α}
    {cleanup : Program Ans ε Unit}
    (follows : Follows contract
      (fun phase outcome => Follows contract
        (fun phase closed => match closed with
          | .ok _ => post phase outcome
          | .error error => post phase (.error error)) phase cleanup) phase program) :
    Follows contract post phase (program.closing cleanup) := by
  refine .bind (.attempt (follows.weaken fun phase outcome closes => ?_))
  refine .bind (closes.weaken fun phase closed ended => ?_)
  cases closed with
  | ok _ => cases outcome <;> exact ended
  | error error => exact ended

theorem of_all {good : Op → Prop} {program : Program Ans ε α} (all : program.All good)
    (holds : φ → Prop) (held : holds phase)
    (keeps : ∀ op phase, good op → holds phase →
      contract.allows phase op ∧
        ∀ answer, contract.expects phase op answer → holds (contract.next phase op answer)) :
    Follows contract (fun phase (_ : Except ε α) => holds phase) phase program := by
  induction program generalizing phase with
  | done value => exact held
  | raise error => exact held
  | call op resume ih =>
      obtain ⟨allowed, next⟩ := keeps op phase all.1 held
      exact ⟨allowed, fun answer expected => ih answer (all.2 answer) (next answer expected)⟩

/-- A property of the phase that every answer keeps holds at the end. -/
theorem keeping {post : φ → Except ε α → Prop} {program : Program Ans ε α}
    (follows : Follows contract post phase program) (holds : φ → Prop) (held : holds phase)
    (keeps : ∀ phase op answer, holds phase → holds (contract.next phase op answer)) :
    Follows contract (fun later outcome => post later outcome ∧ holds later) phase program := by
  induction program generalizing phase with
  | done value => exact ⟨follows, held⟩
  | raise error => exact ⟨follows, held⟩
  | call op resume ih =>
      exact ⟨follows.1, fun answer expected =>
        ih answer (follows.2 answer expected) (keeps phase op answer held)⟩

/-- A program that follows two contracts follows both at once. -/
theorem prod {second : Contract Ans ψ} {other : ψ} {post : φ → Except ε α → Prop}
    {also : ψ → Except ε α → Prop} {program : Program Ans ε α}
    (follows : Follows contract post phase program)
    (follows_also : Follows second also other program) :
    Follows (contract.prod second)
      (fun phases outcome => post phases.1 outcome ∧ also phases.2 outcome) (phase, other)
      program := by
  induction program generalizing phase other with
  | done value => exact ⟨follows, follows_also⟩
  | raise error => exact ⟨follows, follows_also⟩
  | call op resume ih =>
      exact ⟨⟨follows.1, follows_also.1⟩, fun answer expected =>
        ih answer (follows.2 answer expected.1) (follows_also.2 answer expected.2)⟩

end Follows

/-- The invariant and every task's assertion survive every step that a contract, a condition and
the system allow. -/
structure Upheld (system : System ι Ans σ χ ω) (condition : Condition ι Ans σ ω)
    (contract : Contract Ans φ) (inv : World ι Ans σ → Prop)
    (assertion : ι → φ → World ι Ans σ → Prop) : Prop where
  /-- An answer is expected, keeps the invariant and brings its task to the next phase. -/
  perform : ∀ {task phase op choice answer before after}, contract.allows phase op →
    inv before → assertion task phase before → condition.perform task op before →
      system.answer task op choice before = some (answer, after) →
        contract.expects phase op answer ∧ inv after ∧
          assertion task (contract.next phase op answer) after
  /-- An answer keeps what the other tasks assert. -/
  others : ∀ {task phase op choice answer before after other standing},
    contract.allows phase op → inv before → assertion task phase before →
      condition.perform task op before →
        system.answer task op choice before = some (answer, after) → other ≠ task →
          assertion other standing before → assertion other standing after
  /-- A cancellation keeps the invariant and what the other tasks assert. -/
  abandon : ∀ {task before}, condition.abandon task before → inv before →
    inv (system.abandoned task before) ∧ ∀ {other standing}, other ≠ task →
      assertion other standing before → assertion other standing (system.abandoned task before)
  /-- The outside world keeps the invariant and what the tasks assert. -/
  world : ∀ {move before state}, condition.world move before → inv before →
    system.world move before.state = some state →
      inv { before with state } ∧ ∀ {task standing},
        assertion task standing before → assertion task standing { before with state }

/-- A further invariant beside one that is upheld. -/
theorem Upheld.also {system : System ι Ans σ χ ω} {condition : Condition ι Ans σ ω}
    {contract : Contract Ans φ} {inv : World ι Ans σ → Prop}
    {assertion : ι → φ → World ι Ans σ → Prop}
    (upheld : Upheld system condition contract inv assertion) (extra : World ι Ans σ → Prop)
    (perform : ∀ {task phase op choice answer before after}, contract.allows phase op →
      inv before → extra before → assertion task phase before → condition.perform task op before →
        system.answer task op choice before = some (answer, after) → extra after)
    (abandon : ∀ {task before}, inv before → extra before →
      extra (system.abandoned task before))
    (world : ∀ {move before state}, inv before → extra before →
      system.world move before.state = some state → extra { before with state }) :
    Upheld system condition contract (fun world => inv world ∧ extra world) assertion where
  perform allowed holds stands allows answered := by
    obtain ⟨expected, inv_after, own⟩ := upheld.perform allowed holds.1 stands allows answered
    exact ⟨expected, ⟨inv_after, perform allowed holds.1 holds.2 stands allows answered⟩, own⟩
  others allowed holds stands allows answered different held :=
    upheld.others allowed holds.1 stands allows answered different held
  abandon allows holds := by
    obtain ⟨inv_after, others⟩ := upheld.abandon allows holds.1
    exact ⟨⟨inv_after, abandon holds.1 holds.2⟩, others⟩
  world allows holds moved := by
    obtain ⟨inv_after, others⟩ := upheld.world allows holds.1 moved
    exact ⟨⟨inv_after, world holds.1 holds.2 moved⟩, others⟩

/-- A further contract, whose invariant and assertions may count on those of the first. -/
theorem Upheld.extend {system : System ι Ans σ χ ω} {condition : Condition ι Ans σ ω}
    {contract : Contract Ans φ} {inv : World ι Ans σ → Prop}
    {assertion : ι → φ → World ι Ans σ → Prop}
    (upheld : Upheld system condition contract inv assertion) (second : Contract Ans ψ)
    (extra : World ι Ans σ → Prop) (asserts : ι → φ × ψ → World ι Ans σ → Prop)
    (perform : ∀ {task phases op choice answer before after},
      (contract.prod second).allows phases op →
      inv before ∧ extra before → assertion task phases.1 before ∧ asserts task phases before →
        condition.perform task op before →
          system.answer task op choice before = some (answer, after) →
            contract.expects phases.1 op answer →
              second.expects phases.2 op answer ∧ extra after ∧
                asserts task ((contract.prod second).next phases op answer) after)
    (others : ∀ {task phases op choice answer before after other standing},
      (contract.prod second).allows phases op → inv before ∧ extra before →
        assertion task phases.1 before ∧ asserts task phases before →
          system.answer task op choice before = some (answer, after) → other ≠ task →
            assertion other standing.1 before ∧ asserts other standing before →
              asserts other standing after)
    (abandon : ∀ {task before}, extra before →
      extra (system.abandoned task before) ∧ ∀ {other standing}, other ≠ task →
        asserts other standing before → asserts other standing (system.abandoned task before))
    (world : ∀ {move before state}, extra before → system.world move before.state = some state →
      extra { before with state } ∧ ∀ {task standing},
        asserts task standing before → asserts task standing { before with state }) :
    Upheld system condition (contract.prod second) (fun world => inv world ∧ extra world)
      fun task phases world => assertion task phases.1 world ∧ asserts task phases world where
  perform allowed holds stands allows answered := by
    obtain ⟨expected, inv_after, own⟩ :=
      upheld.perform allowed.1 holds.1 stands.1 allows answered
    obtain ⟨also, extra_after, own_also⟩ := perform allowed holds stands allows answered expected
    exact ⟨⟨expected, also⟩, ⟨inv_after, extra_after⟩, own, own_also⟩
  others allowed holds stands allows answered different held :=
    ⟨upheld.others allowed.1 holds.1 stands.1 allows answered different held.1,
      others allowed holds stands answered different held⟩
  abandon allows holds := by
    obtain ⟨inv_after, kept⟩ := upheld.abandon allows holds.1
    obtain ⟨extra_after, kept_also⟩ := abandon holds.2
    exact ⟨⟨inv_after, extra_after⟩, fun different held =>
      ⟨kept different held.1, kept_also different held.2⟩⟩
  world allows holds moved := by
    obtain ⟨inv_after, kept⟩ := upheld.world allows holds.1 moved
    obtain ⟨extra_after, kept_also⟩ := world holds.2 moved
    exact ⟨⟨inv_after, extra_after⟩, fun held => ⟨kept held.1, kept_also held.2⟩⟩

/-- The invariant holds, and every task is in a phase whose assertion holds and from which the rest
of its program follows the contract. -/
structure Upholds (contract : Contract Ans φ) (inv : World ι Ans σ → Prop)
    (assertion : ι → φ → World ι Ans σ → Prop) (post : ι → φ → Except ε α → Prop)
    (config : Config ι Ans σ ε α) : Prop where
  inv : inv config.world
  follows : ∀ {task program}, config.tasks task = some program →
    ∃ phase, assertion task phase config.world ∧ Follows contract (post task) phase program

section Runs

variable [DecidableEq ι] {system : System ι Ans σ χ ω} {condition : Condition ι Ans σ ω}
  {contract : Contract Ans φ} {inv : World ι Ans σ → Prop}
  {assertion : ι → φ → World ι Ans σ → Prop} {post : ι → φ → Except ε α → Prop}
  {before after : Config ι Ans σ ε α}

theorem Upholds.step (upheld : Upheld system condition contract inv assertion)
    (upholds : Upholds contract inv assertion post before) {event : Event ι χ ω}
    (step : system.Step condition event before after) :
    Upholds contract inv assertion post after := by
  obtain ⟨allowed, stepped⟩ := step
  rcases System.next_cases stepped with
    ⟨task, choice, op, resume, answer, later, rfl, program, answered, rfl⟩ |
    ⟨task, op, resume, rfl, program, rfl⟩ | ⟨move, state, rfl, moved, rfl⟩
  · obtain ⟨phase, asserted, allows, resumes⟩ := upholds.follows program
    have condition_holds := allowed op resume program
    obtain ⟨expected, inv_after, own⟩ :=
      upheld.perform allows upholds.inv asserted condition_holds answered
    refine ⟨inv_after, fun {other left} present => ?_⟩
    by_cases same : other = task
    · subst other
      obtain rfl : resume answer = left := by simpa using present
      exact ⟨_, own, resumes answer expected⟩
    · have untouched : before.tasks other = some left := by simpa [same] using present
      obtain ⟨standing, held, follows⟩ := upholds.follows untouched
      exact ⟨standing,
        upheld.others allows upholds.inv asserted condition_holds answered same held, follows⟩
  · obtain ⟨inv_after, others⟩ := upheld.abandon allowed upholds.inv
    refine ⟨inv_after, fun {other left} present => ?_⟩
    by_cases same : other = task
    · simp [same] at present
    · have untouched : before.tasks other = some left := by simpa [same] using present
      obtain ⟨standing, held, follows⟩ := upholds.follows untouched
      exact ⟨standing, others same held, follows⟩
  · obtain ⟨inv_after, others⟩ := upheld.world allowed upholds.inv moved
    refine ⟨inv_after, fun {other left} present => ?_⟩
    obtain ⟨standing, held, follows⟩ := upholds.follows present
    exact ⟨standing, others held, follows⟩

/-- Every run keeps the invariant and the assertions. -/
theorem Upholds.reaches (upheld : Upheld system condition contract inv assertion)
    (upholds : Upholds contract inv assertion post before)
    (reach : system.Reaches condition before after) :
    Upholds contract inv assertion post after := by
  induction reach with
  | refl => exact upholds
  | tail _ step ih =>
      obtain ⟨event, step⟩ := step
      exact ih.step upheld step

end Runs

end Await
