import Drukbox.Await.Contract
import Mathlib.Data.List.Induction

/-!
# Histories

The log of a run determines the phase of each task: replay the answers that it got.  So where every
task follows a contract, each answer in the log was to an operation that the contract allowed after
the answers before it.

A task can also run alone: what it can do from one configuration is part of a run.
-/

namespace Await

variable {ι Op : Type} {Ans : Op → Type} {σ χ ω ε δ α β φ : Type} [DecidableEq ι]

/-- The phase after one entry of the log, which may be another task's. -/
def Contract.after (contract : Contract Ans φ) (task : ι) (phase : φ) : Entry ι Ans → φ
  | .answered other op answer => if other = task then contract.next phase op answer else phase
  | .abandoned _ => phase

/-- The phase of a task, from its own answers so far. -/
def Contract.replay (contract : Contract Ans φ) (task : ι) (initial : φ)
    (log : List (Entry ι Ans)) : φ :=
  log.foldl (contract.after task) initial

/-- Each answer of the log was to an operation that the contract allowed. -/
def Contract.Obeyed (contract : Contract Ans φ) (initial : ι → φ) (log : List (Entry ι Ans)) :
    Prop :=
  ∀ earlier task op answer later, log = earlier ++ .answered task op answer :: later →
    contract.allows (contract.replay task (initial task) earlier) op

section Replay

variable {contract : Contract Ans φ} {task other : ι} {op : Op} {answer : Ans op} {phase : φ}
  {initial : ι → φ} {log : List (Entry ι Ans)} {entry : Entry ι Ans}

@[simp] theorem Contract.replay_nil : contract.replay task phase [] = phase := rfl

theorem Contract.replay_append :
    contract.replay task phase (log ++ [entry]) =
      contract.after task (contract.replay task phase log) entry := by
  simp [replay]

@[simp] theorem Contract.after_self :
    contract.after task phase (.answered task op answer) = contract.next phase op answer := by
  simp [after]

@[simp] theorem Contract.after_other (different : other ≠ task) :
    contract.after task phase (.answered other op answer) = phase := by
  simp [after, different]

@[simp] theorem Contract.after_abandoned :
    contract.after task phase (.abandoned other) = phase := rfl

theorem Contract.obeyed_nil : contract.Obeyed initial [] := by
  intro earlier task op answer later split
  simp at split

theorem Contract.Obeyed.append (obeyed : contract.Obeyed initial log)
    (allowed : ∀ task op answer, entry = .answered task op answer →
      contract.allows (contract.replay task (initial task) log) op) :
    contract.Obeyed initial (log ++ [entry]) := by
  intro earlier task op answer later split
  rcases List.eq_nil_or_concat later with rfl | ⟨rest, last, rfl⟩
  · obtain ⟨rfl, same⟩ := List.append_inj' split rfl
    exact allowed task op answer (List.singleton_inj.mp same)
  · rw [List.concat_eq_append, ← List.cons_append, ← List.append_assoc] at split
    obtain ⟨same, -⟩ := List.append_inj' split rfl
    exact obeyed earlier task op answer rest same

end Replay

/-- The last call that a task was answered. -/
def lastCall (task : ι) (log : List (Entry ι Ans)) : Option (Σ op, Ans op) :=
  Contract.replay { allows := fun _ _ => True, next := fun _ op answer => some ⟨op, answer⟩ } task
    none log

section LastCall

variable {task other : ι} {op : Op} {answer : Ans op} {log : List (Entry ι Ans)}

theorem lastCall_self : lastCall task (log ++ [.answered task op answer]) = some ⟨op, answer⟩ := by
  rw [lastCall, Contract.replay_append, Contract.after_self]

theorem lastCall_other (different : other ≠ task) :
    lastCall task (log ++ [.answered other op answer]) = lastCall task log := by
  rw [lastCall, Contract.replay_append, Contract.after_other different, lastCall]

theorem lastCall_mem (last : lastCall task log = some ⟨op, answer⟩) :
    .answered task op answer ∈ log := by
  induction log using List.reverseRecOn with
  | nil => contradiction
  | append_singleton log entry ih =>
      cases entry with
      | abandoned owner =>
          rw [lastCall, Contract.replay_append, Contract.after_abandoned] at last
          exact List.mem_append_left _ (ih last)
      | answered owner call value =>
          by_cases mine : owner = task
          · subst mine
            rw [lastCall_self] at last
            cases last
            simp
          · rw [lastCall_other mine] at last
            exact List.mem_append_left _ (ih last)

theorem lastCall_abandoned : lastCall task (log ++ [.abandoned other]) = lastCall task log := by
  rw [lastCall, Contract.replay_append, Contract.after_abandoned, lastCall]

end LastCall

/-- Each entry is right after the ones before it. -/
def Each (right : List (Entry ι Ans) → Entry ι Ans → Prop) (log : List (Entry ι Ans)) : Prop :=
  ∀ earlier entry later, log = earlier ++ entry :: later → right earlier entry

section Each

variable {right stronger : List (Entry ι Ans) → Entry ι Ans → Prop} {log : List (Entry ι Ans)}
  {entry : Entry ι Ans}

omit [DecidableEq ι]

theorem each_nil : Each right [] := by
  intro earlier entry later split
  simp at split

theorem Each.append (each : Each right log) (last : right log entry) :
    Each right (log ++ [entry]) := by
  intro earlier other later split
  rcases List.eq_nil_or_concat later with rfl | ⟨rest, final, rfl⟩
  · obtain ⟨rfl, same⟩ := List.append_inj' split rfl
    obtain rfl := List.singleton_inj.mp same
    exact last
  · rw [List.concat_eq_append, ← List.cons_append, ← List.append_assoc] at split
    obtain ⟨same, -⟩ := List.append_inj' split rfl
    exact each earlier other rest same

theorem Each.mono (each : Each stronger log)
    (weaken : ∀ earlier entry, stronger earlier entry → right earlier entry) : Each right log :=
  fun earlier entry later split => weaken earlier entry (each earlier entry later split)

end Each

variable {system : System ι Ans σ χ ω} {condition : Condition ι Ans σ ω}
  {contract : Contract Ans φ} {inv : World ι Ans σ → Prop}
  {assertion : ι → φ → World ι Ans σ → Prop}

/-- What is upheld is upheld together with the history: the log obeys the contract, and each task is
in the phase that it replays to. -/
theorem Upheld.history (upheld : Upheld system condition contract inv assertion)
    (initial : ι → φ) :
    Upheld system condition contract
      (fun world => inv world ∧ contract.Obeyed initial world.log)
      fun task phase world =>
        assertion task phase world ∧ phase = contract.replay task (initial task) world.log where
  perform {task phase op choice answer before after} allowed holds stands allows answered := by
    obtain ⟨expected, inv_after, own⟩ :=
      upheld.perform allowed holds.1 stands.1 allows answered
    obtain ⟨-, log⟩ := System.answer_eq_some.mp answered
    refine ⟨expected, ⟨inv_after, ?_⟩, own, ?_⟩
    · rw [log]
      refine holds.2.append fun other op' answer' same => ?_
      obtain ⟨rfl, rfl, -⟩ := Entry.answered.inj same
      exact stands.2 ▸ allowed
    · rw [log, Contract.replay_append, Contract.after_self, ← stands.2]
  others {task phase op choice answer before after other standing} allowed holds stands allows
      answered different held := by
    obtain ⟨-, log⟩ := System.answer_eq_some.mp answered
    refine ⟨upheld.others allowed holds.1 stands.1 allows answered different held.1, ?_⟩
    rw [log, Contract.replay_append, Contract.after_other different.symm]
    exact held.2
  abandon {task before} allows holds := by
    obtain ⟨inv_after, others⟩ := upheld.abandon allows holds.1
    refine ⟨⟨inv_after, holds.2.append (by simp)⟩, fun {other standing} different held =>
      ⟨others different held.1, ?_⟩⟩
    rw [System.abandoned, Contract.replay_append, Contract.after_abandoned]
    exact held.2
  world allows holds moved := by
    obtain ⟨inv_after, others⟩ := upheld.world allows holds.1 moved
    exact ⟨⟨inv_after, holds.2⟩, fun held => ⟨others held.1, held.2⟩⟩

/-- Alone and for some answers, the program comes to an outcome. -/
inductive System.Finishes (system : System ι Ans σ χ ω) (task : ι) :
    Program Ans ε α → World ι Ans σ → Except ε α → World ι Ans σ → Prop
  | done {value : α} {world : World ι Ans σ} :
      Finishes system task (.done value) world (.ok value) world
  | raise {error : ε} {world : World ι Ans σ} :
      Finishes system task (.raise error) world (.error error) world
  | call {op : Op} {resume : Ans op → Program Ans ε α} {world middle after : World ι Ans σ}
      {answer : Ans op} {outcome : Except ε α} (choice : χ)
      (answered : system.answer task op choice world = some (answer, middle))
      (rest : Finishes system task (resume answer) middle outcome after) :
      Finishes system task (.call op resume) world outcome after

namespace System.Finishes

variable {task : ι} {world middle after : World ι Ans σ}

omit [DecidableEq ι] in
theorem bind {program : Program Ans ε α} {next : α → Program Ans ε β} {value : α}
    {outcome : Except ε β} (first : system.Finishes task program world (.ok value) middle)
    (rest : system.Finishes task (next value) middle outcome after) :
    system.Finishes task (program.bind next) world outcome after := by
  generalize ended : Except.ok value = result at first
  induction first with
  | done =>
      cases ended
      exact rest
  | raise => cases ended
  | call choice answered _ ih => exact .call choice answered (ih rest ended)

omit [DecidableEq ι] in
theorem attempt {program : Program Ans δ α} {outcome : Except δ α}
    (finishes : system.Finishes task program world outcome after) :
    system.Finishes task (program.attempt : Program Ans ε (Except δ α)) world (.ok outcome)
      after := by
  induction finishes with
  | done => exact .done
  | raise => exact .done
  | call choice answered _ ih => exact .call choice answered ih

/-- What a task can do alone is a run. -/
theorem reaches {program : Program Ans ε α} {value : α} {config : Config ι Ans σ ε α}
    (finishes : system.Finishes task program config.world (.ok value) after)
    (present : config.tasks task = some program) :
    system.Reaches {} config
      { world := after, tasks := Function.update config.tasks task (some (.done value)) } := by
  generalize begins : config.world = world at finishes
  generalize ended : Except.ok value = outcome at finishes
  induction finishes generalizing config with
  | done =>
      cases ended
      subst begins
      rw [← present, Function.update_eq_self]
      exact .refl
  | raise => cases ended
  | @call op resume _ middle _ answer _ choice answered _ ih =>
      subst begins
      refine .perform task choice present answered trivial ?_
      let next : Config ι Ans σ ε α :=
        { world := middle, tasks := Function.update config.tasks task (some (resume answer)) }
      have waits : next.tasks task = some (resume answer) := Function.update_self ..
      have rest := ih waits rfl ended
      rwa [Function.update_idem] at rest

end System.Finishes

end Await
