import Drukbox.Await.Program

/-!
# Scripts

One program alone, with its answers in order.  A program whose script ends while it waits has
crashed there.  Postconditions are proved along the program, for every script at once.
-/

namespace Await

inductive Outcome (ε α : Type) where
  | returned (value : α)
  | raised (error : ε)
  /-- Its process ended while it waited. -/
  | crashed
  deriving DecidableEq, Repr

namespace Program

variable {Op : Type} {Ans : Op → Type} {ε δ α β χ σ : Type}
  {perform : (op : Op) → χ → σ → Ans op × σ}

/-- Run a program alone against a script. -/
def play (perform : (op : Op) → χ → σ → Ans op × σ) :
    Program Ans ε α → List χ → σ → Outcome ε α × σ
  | done value, _, state => (.returned value, state)
  | raise error, _, state => (.raised error, state)
  | call _ _, [], state => (.crashed, state)
  | call op resume, choice :: script, state =>
      (resume (perform op choice state).1).play perform script (perform op choice state).2

/-- Whatever the script, the program ends so that the postcondition holds. -/
def Ensures (perform : (op : Op) → χ → σ → Ans op × σ) :
    Program Ans ε α → σ → (Outcome ε α → σ → Prop) → Prop
  | done value, state, post => post (.returned value) state
  | raise error, state, post => post (.raised error) state
  | call op resume, state, post =>
      post .crashed state ∧
        ∀ choice, (resume (perform op choice state).1).Ensures perform (perform op choice state).2
          post

theorem Ensures.play {program : Program Ans ε α} {state : σ} {post : Outcome ε α → σ → Prop}
    (ensures : program.Ensures perform state post) (script : List χ) :
    post (program.play perform script state).1 (program.play perform script state).2 := by
  induction program generalizing state script with
  | done value => exact ensures
  | raise error => exact ensures
  | call op resume ih =>
      cases script with
      | nil => exact ensures.1
      | cons choice script => exact ih _ (ensures.2 choice) script

/-- `play`, with what it leaves of the script. -/
def run (perform : (op : Op) → χ → σ → Ans op × σ) :
    Program Ans ε α → List χ → σ → Outcome ε α × List χ × σ
  | done value, script, state => (.returned value, script, state)
  | raise error, script, state => (.raised error, script, state)
  | call _ _, [], state => (.crashed, [], state)
  | call op resume, choice :: script, state =>
      (resume (perform op choice state).1).run perform script (perform op choice state).2

section Run

variable {script rest : List χ} {state later : σ}

theorem Ensures.run {program : Program Ans ε α} {post : Outcome ε α → σ → Prop}
    (ensures : program.Ensures perform state post) (script : List χ) :
    post (program.run perform script state).1 (program.run perform script state).2.2 := by
  induction program generalizing state script with
  | done value => exact ensures
  | raise error => exact ensures
  | call op resume ih =>
      cases script with
      | nil => exact ensures.1
      | cons choice script => exact ih _ (ensures.2 choice) script

theorem run_attempt {program : Program Ans δ α} {value : α}
    (ran : program.run perform script state = (.returned value, rest, later)) :
    (program.attempt : Program Ans ε (Except δ α)).run perform script state =
      (.returned (.ok value), rest, later) := by
  induction program generalizing script state with
  | done value => cases ran; rfl
  | raise error => cases ran
  | call op resume ih =>
      cases script with
      | nil => cases ran
      | cons choice script => exact ih _ ran

theorem play_bind {program : Program Ans ε α} {next : α → Program Ans ε β} {value : α}
    (ran : program.run perform script state = (.returned value, rest, later)) :
    (program.bind next).play perform script state = (next value).play perform rest later := by
  induction program generalizing script state with
  | done value => cases ran; rfl
  | raise error => cases ran
  | call op resume ih =>
      cases script with
      | nil => cases ran
      | cons choice script => exact ih _ ran

theorem play_bind_raised {program : Program Ans ε α} {next : α → Program Ans ε β} {error : ε}
    (played : program.play perform script state = (.raised error, later)) :
    (program.bind next).play perform script state = (.raised error, later) := by
  induction program generalizing script state with
  | done value => cases played
  | raise error => cases played; rfl
  | call op resume ih =>
      cases script with
      | nil => cases played
      | cons choice script => exact ih _ played

end Run

section Along

variable {good : (op : Op) → χ → σ → Prop}

/-- Every answer that a script gives meets a condition. -/
def Along (perform : (op : Op) → χ → σ → Ans op × σ) (good : (op : Op) → χ → σ → Prop) :
    Program Ans ε α → List χ → σ → Prop
  | done _, _, _ | raise _, _, _ | call _ _, [], _ => True
  | call op resume, choice :: script, state =>
      good op choice state ∧
        (resume (perform op choice state).1).Along perform good script (perform op choice state).2

/-- Execution with a history variable: whether every answer so far has met the condition. -/
def watch (perform : (op : Op) → χ → σ → Ans op × σ) (good : (op : Op) → χ → σ → Prop) (op : Op)
    (choice : χ) (state : σ × Prop) : Ans op × σ × Prop :=
  ((perform op choice state.1).1, (perform op choice state.1).2, state.2 ∧ good op choice state.1)

/-- A postcondition that rests on the history variable holds where every answer meets the
condition. -/
theorem Ensures.along {program : Program Ans ε α} {state : σ} {before : Prop}
    {post : Outcome ε α → σ × Prop → Prop}
    (ensures : program.Ensures (watch perform good) (state, before) post) (holds : before)
    {script : List χ} (along : program.Along perform good script state) :
    ∃ after : Prop, after ∧
      post (program.play perform script state).1
        ((program.play perform script state).2, after) := by
  induction program generalizing state before script with
  | done value => exact ⟨before, holds, ensures⟩
  | raise error => exact ⟨before, holds, ensures⟩
  | call op resume ih =>
      cases script with
      | nil => exact ⟨before, holds, ensures.1⟩
      | cons choice script => exact ih _ (ensures.2 choice) ⟨holds, along.1⟩ along.2

theorem Along.bind_raised {program : Program Ans ε α} {next : α → Program Ans ε β} {error : ε}
    {script : List χ} {state later : σ} (along : program.Along perform good script state)
    (played : program.play perform script state = (.raised error, later)) :
    (program.bind next).Along perform good script state := by
  induction program generalizing script state with
  | done value => cases played
  | raise error => trivial
  | call op resume ih =>
      cases script with
      | nil => trivial
      | cons choice script => exact ⟨along.1, ih _ along.2 played⟩

end Along

theorem Ensures.mono {program : Program Ans ε α} {state : σ}
    {post weaker : Outcome ε α → σ → Prop} (ensures : program.Ensures perform state post)
    (weakens : ∀ outcome state, post outcome state → weaker outcome state) :
    program.Ensures perform state weaker := by
  induction program generalizing state with
  | done value => exact weakens _ _ ensures
  | raise error => exact weakens _ _ ensures
  | call op resume ih =>
      exact ⟨weakens _ _ ensures.1, fun choice => ih _ (ensures.2 choice)⟩

/-- Sequential composition: what follows a return starts where that ended. -/
theorem Ensures.bind {program : Program Ans ε α} {next : α → Program Ans ε β} {state : σ}
    {middle : Outcome ε α → σ → Prop} {post : Outcome ε β → σ → Prop}
    (ensures : program.Ensures perform state middle)
    (returned : ∀ value state, middle (.returned value) state →
      (next value).Ensures perform state post)
    (raised : ∀ error state, middle (.raised error) state → post (.raised error) state)
    (crashed : ∀ state, middle .crashed state → post .crashed state) :
    (program.bind next).Ensures perform state post := by
  induction program generalizing state with
  | done value => exact returned _ _ ensures
  | raise error => exact raised _ _ ensures
  | call op resume ih =>
      exact ⟨crashed _ ensures.1, fun choice => ih _ (ensures.2 choice)⟩

/-- A handler: what the body returns or raises is known, and the handler starts there. -/
theorem Ensures.attempt {program : Program Ans δ α} {state : σ}
    {post : Outcome ε (Except δ α) → σ → Prop}
    (ensures : program.Ensures perform state fun outcome state =>
      match outcome with
      | .returned value => post (.returned (.ok value)) state
      | .raised error => post (.returned (.error error)) state
      | .crashed => post .crashed state) :
    (program.attempt : Program Ans ε (Except δ α)).Ensures perform state post := by
  induction program generalizing state with
  | done value => exact ensures
  | raise error => exact ensures
  | call op resume ih => exact ⟨ensures.1, fun choice => ih _ (ensures.2 choice)⟩

/-- What every operation of a program keeps holds wherever it ends. -/
theorem All.ensures {good : Op → Prop} {program : Program Ans ε α} {inv : σ → Prop}
    (all : program.All good)
    (keeps : ∀ op choice state, good op → inv state → inv (perform op choice state).2)
    {state : σ} (initial : inv state) :
    program.Ensures perform state fun _ state => inv state := by
  induction program generalizing state with
  | done value => exact initial
  | raise error => exact initial
  | call op resume ih =>
      exact ⟨initial, fun choice => ih _ (all.2 _) (keeps op choice state all.1 initial)⟩

end Program

end Await
