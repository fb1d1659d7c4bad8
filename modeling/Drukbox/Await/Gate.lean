import Drukbox.Await.History
import Drukbox.Await.Machine

/-!
# Gated runs

Some schedulers deliver nothing while a task waits for an operation of a certain kind.  Between such
an operation and the one before it no other task moves, so what a task asserts there need not
survive the others' steps.
-/

namespace Await

variable {ι Op : Type} {Ans : Op → Type} {σ χ ω ε α φ : Type}

/-- No other task waits for a gated operation. -/
def Config.Open (config : Config ι Ans σ ε α) (gated : Op → Prop) (task : ι) : Prop :=
  ∀ other op resume, other ≠ task → config.tasks other = some (.call op resume) → ¬ gated op

/-- An event that the gate lets through; nobody is cancelled. -/
def Delivered (gated : Op → Prop) (config : Config ι Ans σ ε α) : Event ι χ ω → Prop
  | .perform task _ => config.Open gated task
  | .abandon _ => False
  | .world _ => True

/-- The other tasks may move while a task stands in this phase: it waits for an operation that is
not gated, or it has ended. -/
def Contract.Yields (contract : Contract Ans φ) (gated : Op → Prop)
    (post : φ → Except ε α → Prop) (standing : φ) : Prop :=
  (∃ op, contract.allows standing op ∧ ¬ gated op) ∨ ∃ outcome, post standing outcome

/-- The invariant and every task's assertion survive every step that a contract, a gate and the
system allow. -/
structure GatedUpheld (system : System ι Ans σ χ ω) (gated : Op → Prop) (contract : Contract Ans φ)
    (inv : World ι Ans σ → Prop) (assertion : ι → φ → World ι Ans σ → Prop)
    (post : ι → φ → Except ε α → Prop) : Prop where
  /-- An answer is expected, keeps the invariant and brings its task to the next phase. -/
  perform : ∀ {task phase op choice answer before after}, contract.allows phase op →
    inv before → assertion task phase before →
      system.answer task op choice before = some (answer, after) →
        contract.expects phase op answer ∧ inv after ∧
          assertion task (contract.next phase op answer) after
  /-- An answer keeps what the other tasks assert where they yield. -/
  others : ∀ {task phase op choice answer before after other standing},
    contract.allows phase op → inv before → assertion task phase before →
      system.answer task op choice before = some (answer, after) → other ≠ task →
        contract.Yields gated (post other) standing → assertion other standing before →
          assertion other standing after
  /-- The outside world keeps the invariant and what the tasks assert. -/
  world : ∀ {move before state}, inv before → system.world move before.state = some state →
    inv { before with state } ∧ ∀ {task phase}, assertion task phase before →
      assertion task phase { before with state }

section Runs

variable [DecidableEq ι] {system : System ι Ans σ χ ω} {gated : Op → Prop}
  {contract : Contract Ans φ} {inv : World ι Ans σ → Prop}
  {assertion : ι → φ → World ι Ans σ → Prop} {post : ι → φ → Except ε α → Prop}
  {before after : Config ι Ans σ ε α}

/-- The steps of a system, as a machine over its configurations. -/
def System.machine (system : System ι Ans σ χ ω) :
    Machine (Config ι Ans σ ε α) (Event ι χ ω) where
  next := system.next

omit [DecidableEq ι] in
/-- Where the gate is open, what is left of another task says that it yields. -/
theorem Config.Open.yields {task other : ι} {program : Program Ans ε α} {standing : φ}
    (isOpen : before.Open gated task) (different : other ≠ task)
    (present : before.tasks other = some program)
    (follows : Follows contract (post other) standing program) :
    contract.Yields gated (post other) standing := by
  cases program with
  | done value => exact .inr ⟨.ok value, follows⟩
  | raise error => exact .inr ⟨.error error, follows⟩
  | call op resume =>
      left
      exists op
      exact ⟨follows.1, isOpen other op resume different present⟩

theorem Upholds.gated_step (upheld : GatedUpheld system gated contract inv assertion post)
    (upholds : Upholds contract inv assertion post before) {event : Event ι χ ω}
    (delivered : Delivered gated before event) (stepped : system.next before event = some after) :
    Upholds contract inv assertion post after := by
  rcases System.next_cases stepped with
    ⟨task, choice, op, resume, answer, later, rfl, program, answered, rfl⟩ |
    ⟨task, op, resume, rfl, program, rfl⟩ | ⟨move, state, rfl, moved, rfl⟩
  · obtain ⟨phase, asserted, allows, resumes⟩ := upholds.follows program
    obtain ⟨expected, inv_after, own⟩ := upheld.perform allows upholds.inv asserted answered
    refine ⟨inv_after, fun {other left} present => ?_⟩
    by_cases same : other = task
    · subst other
      obtain rfl : resume answer = left := by simpa using present
      exact ⟨_, own, resumes answer expected⟩
    · have untouched : before.tasks other = some left := by simpa [same] using present
      obtain ⟨standing, held, follows⟩ := upholds.follows untouched
      have yields := delivered.yields same untouched follows
      exact ⟨standing,
        upheld.others allows upholds.inv asserted answered same yields held, follows⟩
  · exact delivered.elim
  · obtain ⟨inv_after, others⟩ := upheld.world upholds.inv moved
    refine ⟨inv_after, fun {other left} present => ?_⟩
    obtain ⟨standing, held, follows⟩ := upholds.follows present
    exact ⟨standing, others held, follows⟩

/-- Every gated run keeps the invariant and the assertions. -/
theorem Upholds.gated_reaches (upheld : GatedUpheld system gated contract inv assertion post)
    (upholds : Upholds contract inv assertion post before)
    (reach : system.machine.Reaches (Delivered gated) before after) :
    Upholds contract inv assertion post after :=
  reach.keeps (Upholds contract inv assertion post)
    (fun upholds delivered stepped => upholds.gated_step upheld delivered stepped) upholds

theorem System.machine_log (reach : system.machine.Reaches (Delivered gated) before after)
    {entry : Entry ι Ans} (member : entry ∈ before.world.log) : entry ∈ after.world.log := by
  refine reach.keeps (fun config => entry ∈ config.world.log) ?_ member
  intro event config next held delivered stepped
  rcases System.next_cases stepped with
    ⟨task, choice, op, resume, answer, later, -, -, answered, rfl⟩ |
    ⟨task, op, resume, rfl, -⟩ | ⟨move, state, -, -, rfl⟩
  · obtain ⟨-, log⟩ := System.answer_eq_some.mp answered
    simp [log, held]
  · exact delivered.elim
  · exact held

theorem System.machine_tasks (reach : system.machine.Reaches (Delivered gated) before after)
    (task : ι) (present : (before.tasks task).isSome) : (after.tasks task).isSome := by
  refine reach.keeps (fun config => (config.tasks task).isSome) ?_ present
  intro event config next held delivered stepped
  rcases System.next_cases stepped with
    ⟨other, choice, op, resume, answer, later, -, -, -, rfl⟩ |
    ⟨other, op, resume, rfl, -⟩ | ⟨move, state, -, -, rfl⟩
  · by_cases same : task = other <;> simp [same, held]
  · exact delivered.elim
  · exact held

end Runs

end Await
