import Drukbox.Gateway.BridgeOrder

/-!
# The end of a session of the gateway

Once the sandbox process is over, a call of `_bridge` ends in a bounded number of sections, whatever
its caller sends, if only the caller reads.
-/

namespace Drukbox.Gateway.Session

open Await

/-- What a pump may still do before it ends, but for what it receives. -/
def Pump.rank : Pump → ℕ
  | .absent | .ended _ => 0
  | .cancelling => 1
  | .receiving => 2
  | .draining => 3

def Stage.rank : Stage → ℕ
  | .ended _ => 0
  | .closing _ => 1
  | .endingErrors _ => 2
  | .endingInput _ => 3
  | .waiting => 4
  | .joining => 5
  | .receiving => 6
  | .draining => 7
  | .opening => 8

/-- A section of `_bridge` or of a pump. -/
def Event.own : Event → Bool
  | .bridge _ | .pumpErrors _ | .pumpInput _ | .bridgeRaises | .errorsRaise | .inputRaises => true
  | _ => false

/-- The caller does something. -/
def Event.caller : Event → Bool
  | .type _ | .endInput | .pauseWriting | .resumeWriting => true
  | _ => false

/-- How much the caller sends. -/
def Event.typed : Event → ℕ
  | .type items => items.length
  | _ => 0

theorem Pump.rank_cancel (pump : Pump) : pump.cancel.rank ≤ pump.rank := by
  cases pump with
  | absent | ended => exact Nat.le_refl _
  | receiving | draining | cancelling => decide

theorem Pump.cancelling_of_stopping {pump : Pump} (stopping : pump.stopping = true)
    (running : ∀ way, pump ≠ .ended way) : pump = .cancelling := by
  cases pump with
  | absent | receiving | draining => contradiction
  | cancelling => rfl
  | ended how => exact absurd rfl (running how)

namespace Bridge

/-- What the streams and the pumps leave to do. -/
def load (bridge : Bridge) : ℕ :=
  2 * bridge.output.pending.length + 2 * bridge.errors.pending.length +
    bridge.input.pending.length + bridge.inputPump.rank + bridge.stderrPump.rank

/-- A bound of the sections that are left. -/
def left (bridge : Bridge) : ℕ :=
  bridge.load + bridge.stage.rank

/-- The sandbox process has ended, and so have its streams. -/
def Over (bridge : Bridge) : Prop :=
  bridge.output.ended = true ∧ bridge.errors.ended = true ∧ bridge.exited.isSome = true

/-- `_bridge` cannot go on before the caller reads: its own `drain` waits, or that of the pump that
it awaits. -/
def Blocked (bridge : Bridge) : Prop :=
  bridge.paused = true ∧
    (bridge.stage = .draining ∨ bridge.stage = .joining ∧ bridge.stderrPump = .draining)

variable {bridge after : Bridge} {how : Ended} {count : ℕ}

theorem load_finish (bridge : Bridge) (how : Ended) : (bridge.finish how).load ≤ bridge.load := by
  have input := bridge.inputPump.rank_cancel
  have errors := bridge.stderrPump.rank_cancel
  simp only [load, finish_rest]
  omega

theorem rank_awaitErrors (bridge : Bridge) (how : Ended) :
    (bridge.awaitErrors how).stage.rank ≤ 2 := by
  rw [awaitErrors]
  split
  · simp [Stage.rank]
  · simp [Stage.rank, close]
  · simp [Stage.rank]

theorem rank_awaitInput (bridge : Bridge) (how : Ended) :
    (bridge.awaitInput how).stage.rank ≤ 3 := by
  rw [awaitInput]
  split
  · simp [Stage.rank]
  · exact Nat.le_succ_of_le (rank_awaitErrors bridge how)
  · simp [Stage.rank]

theorem left_finish (bridge : Bridge) (how : Ended) :
    (bridge.finish how).left ≤ bridge.load + 3 :=
  Nat.add_le_add (load_finish bridge how) (rank_awaitInput _ how)

theorem left_exit (bridge : Bridge) : bridge.exit.left ≤ bridge.load + 4 := by
  rw [exit]
  split
  · exact Nat.le_succ_of_le (left_finish _ _)
  · exact Nat.le_refl _

theorem left_join (bridge : Bridge) : bridge.join.left ≤ bridge.load + 5 := by
  rw [join]
  split
  · exact Nat.le_succ_of_le (left_exit _)
  · exact Nat.le_trans (left_finish _ _) (Nat.add_le_add_left (by omega) _)
  · exact Nat.le_refl _

/-- What `_bridge` has awaited does not suspend it again. -/
theorem left_join_of_ended (ended : bridge.stderrPump = .ended how) :
    bridge.join.left ≤ bridge.load + 4 := by
  rw [join]
  split
  · exact left_exit _
  · exact Nat.le_succ_of_le (left_finish _ _)
  · next running => exact absurd ended (running _)

theorem left_exit_of_exited (exited : bridge.exited.isSome = true) :
    bridge.exit.left ≤ bridge.load + 3 := by
  rw [exit]
  split
  · exact left_finish _ _
  · next running =>
      rw [running] at exited
      contradiction

theorem left_awaitErrors_of_ended {way : Ended} (ended : bridge.stderrPump = .ended way) :
    (bridge.awaitErrors how).left ≤ bridge.load + 1 := by
  rw [awaitErrors]
  split
  · exact Nat.le_succ bridge.load
  · exact Nat.le_refl _
  · next running => exact absurd ended (running _)

theorem left_awaitInput_of_ended {way : Ended} (ended : bridge.inputPump = .ended way) :
    (bridge.awaitInput how).left ≤ bridge.load + 2 := by
  rw [awaitInput]
  split
  · exact Nat.le_add_right bridge.load 2
  · have same : (bridge.awaitErrors how).load = bridge.load := by simp only [load, awaitErrors_rest]
    have bound := rank_awaitErrors bridge how
    rw [left, same]
    omega
  · next running => exact absurd ended (running _)

/-- A piece that is not empty makes up for the `drain` behind it. -/
theorem pending_piece {α : Type} {pipe rest : Pipe α} {data : List α} (some_ : data ≠ [])
    (received : piece pipe count = some (data, rest)) :
    rest.pending.length + 1 ≤ pipe.pending.length :=
  Pipe.receive_pending (receive_of_piece received) some_

theorem left_eq {stage : Stage} (at_ : bridge.stage = stage) :
    bridge.left = bridge.load + stage.rank := by
  rw [left, at_]

theorem left_resume (ran : bridge.resume count = some after) : after.left < bridge.left := by
  rw [resume] at ran
  split at ran
  · contradiction
  · contradiction
  · next receiving =>
      rw [left_eq receiving]
      split at ran
      · obtain rfl := Option.some.inj ran
        exact Nat.lt_succ_of_le (left_join bridge)
      · next data output other received =>
          obtain rfl := Option.some.inj ran
          have shorter := pending_piece other received
          simp only [left, load, Stage.rank]
          omega
      · contradiction
  · next draining =>
      split at ran
      · contradiction
      · obtain rfl := Option.some.inj ran
        rw [left_eq draining]
        exact Nat.lt_succ_self _
  · next joining =>
      rw [left_eq joining]
      split at ran
      · next ended =>
          obtain rfl := Option.some.inj ran
          exact Nat.lt_succ_of_le (left_join_of_ended ended)
      · contradiction
  · next waiting =>
      rw [left_eq waiting]
      split at ran
      · next exited =>
          obtain rfl := Option.some.inj ran
          exact Nat.lt_succ_of_le (left_exit_of_exited exited)
      · contradiction
  · next how ending =>
      rw [left_eq ending]
      split at ran
      · next ended =>
          obtain rfl := Option.some.inj ran
          exact Nat.lt_succ_of_le (left_awaitInput_of_ended ended)
      · contradiction
  · next how ending =>
      rw [left_eq ending]
      split at ran
      · next ended =>
          obtain rfl := Option.some.inj ran
          exact Nat.lt_succ_of_le (left_awaitErrors_of_ended ended)
      · contradiction
  · next how closing =>
      rw [left_eq closing]
      split at ran
      · obtain rfl := Option.some.inj ran
        exact Nat.lt_succ_self _
      · contradiction

theorem left_pumpErrors (ran : bridge.pumpStderrToChannel count = some after) :
    after.left < bridge.left := by
  rw [pumpStderrToChannel] at ran
  split at ran
  · contradiction
  · contradiction
  · next receiving =>
      split at ran
      · obtain rfl := Option.some.inj ran
        simp only [left, load, receiving, Pump.rank]
        omega
      · next data errors other received =>
          obtain rfl := Option.some.inj ran
          have shorter := pending_piece other received
          simp only [left, load, receiving, Pump.rank]
          omega
      · contradiction
  · next draining =>
      split at ran
      · contradiction
      · obtain rfl := Option.some.inj ran
        simp only [left, load, draining, Pump.rank]
        omega
  · next cancelling =>
      obtain rfl := Option.some.inj ran
      simp only [left, load, cancelling, Pump.rank]
      omega

theorem left_feed {items : List Item} {input : Pipe Item}
    (receiving : bridge.inputPump = .receiving)
    (received : piece bridge.input count = some (items, input))
    (given : { bridge with input }.feed items = some after) : after.left < bridge.left := by
  rw [feed.eq_def] at given
  split at given
  · obtain rfl := Option.some.inj given
    obtain ⟨rfl, -⟩ := Pipe.receive_nil (receive_of_piece received)
    simp only [left, load, receiving, Pump.rank]
    omega
  · obtain rfl := Option.some.inj given
    have shorter := pending_piece (List.cons_ne_nil _ _) received
    simp only [left, load]
    omega
  · obtain rfl := Option.some.inj given
    have shorter := pending_piece (List.cons_ne_nil _ _) received
    simp only [left, load]
    omega
  · obtain rfl := Option.some.inj given
    have shorter := pending_piece (List.cons_ne_nil _ _) received
    simp only [left, load, Pump.rank]
    omega
  · next other _ _ _ =>
      split at given
      · obtain rfl := Option.some.inj given
        have shorter := pending_piece other received
        simp only [left, load]
        omega
      · contradiction

theorem left_pumpInput (ran : bridge.pumpChannelToProcess count = some after) :
    after.left < bridge.left := by
  rw [pumpChannelToProcess] at ran
  split at ran
  · contradiction
  · contradiction
  · contradiction
  · next receiving =>
      split at ran
      · next items input received => exact left_feed receiving received ran
      · contradiction
  · next cancelling =>
      obtain rfl := Option.some.inj ran
      simp only [left, load, cancelling, Pump.rank]
      omega

theorem left_next {event : Event} (own : event.own = true)
    (ran : bridge.next event = some after) : after.left < bridge.left := by
  cases event with
  | bridge count => exact left_resume ran
  | pumpErrors count => exact left_pumpErrors ran
  | pumpInput count => exact left_pumpInput ran
  | bridgeRaises =>
      simp only [next] at ran
      split at ran
      · next opening =>
          obtain rfl := Option.some.inj ran
          rw [left_eq opening]
          exact Nat.lt_add_of_pos_right (by decide)
      · next how closing =>
          obtain rfl := Option.some.inj ran
          rw [left_eq closing]
          exact Nat.lt_succ_self _
      · next receiving =>
          obtain rfl := Option.some.inj ran
          have bound := left_finish bridge .raised
          rw [left_eq receiving]
          exact Nat.lt_of_le_of_lt bound (Nat.add_lt_add_left (by decide) _)
      · next draining =>
          obtain rfl := Option.some.inj ran
          have bound := left_finish bridge .raised
          rw [left_eq draining]
          exact Nat.lt_of_le_of_lt bound (Nat.add_lt_add_left (by decide) _)
      · next waiting =>
          obtain rfl := Option.some.inj ran
          have bound := left_finish bridge .raised
          rw [left_eq waiting]
          exact Nat.lt_of_le_of_lt bound (Nat.add_lt_add_left (by decide) _)
      · contradiction
  | errorsRaise =>
      simp only [next] at ran
      split at ran
      · next receiving =>
          obtain rfl := Option.some.inj ran
          simp only [left, load, receiving, Pump.rank]
          omega
      · next draining =>
          obtain rfl := Option.some.inj ran
          simp only [left, load, draining, Pump.rank]
          omega
      · contradiction
  | inputRaises =>
      simp only [next] at ran
      split at ran
      · next receiving =>
          obtain rfl := Option.some.inj ran
          simp only [left, load, receiving, Pump.rank]
          omega
      · contradiction
  | opened | openFailed | print | complain | endOutput | endErrors | exit | type | endInput
  | pauseWriting | resumeWriting | cancel => contradiction

/-- What the caller does changes nothing of the sandbox process, and leaves no more to do than it
sends. -/
theorem left_caller {event : Event} (caller : event.caller = true)
    (ran : bridge.next event = some after) :
    (after.Over ↔ bridge.Over) ∧ after.left = bridge.left + event.typed := by
  cases event with
  | type items =>
      obtain ⟨input, written, rfl⟩ := Option.map_eq_some_iff.mp ran
      refine ⟨Iff.rfl, ?_⟩
      rw [Pipe.write] at written
      split at written
      · contradiction
      · obtain rfl := Option.some.inj written
        simp only [left, load, Event.typed, List.length_append]
        omega
  | endInput | pauseWriting | resumeWriting =>
      obtain rfl := Option.some.inj ran
      exact ⟨Iff.rfl, rfl⟩
  | opened | openFailed | print | complain | endOutput | endErrors | exit | bridge | pumpErrors
  | pumpInput | bridgeRaises | errorsRaise | inputRaises | cancel => contradiction

theorem exit_flow (bridge : Bridge) : bridge.exit.toFlow = bridge.toFlow := by
  rw [exit]
  split
  · simp
  · rfl

theorem join_flow (bridge : Bridge) : bridge.join.toFlow = bridge.toFlow := by
  rw [join]
  split
  · exact exit_flow bridge
  · simp
  · rfl

theorem Over.of_flow (finished : bridge.Over) (same : after.toFlow = bridge.toFlow) :
    after.Over := by
  rw [Over, same]
  exact finished

theorem ended_of_piece {α : Type} {pipe rest : Pipe α} {data : List α}
    (received : piece pipe count = some (data, rest)) : rest.ended = pipe.ended :=
  (Pipe.receive_taken (receive_of_piece received)).2.2

theorem Over.resume (finished : bridge.Over) (ran : bridge.resume count = some after) :
    after.Over := by
  rw [Bridge.resume] at ran
  split at ran
  · contradiction
  · contradiction
  · split at ran
    · obtain rfl := Option.some.inj ran
      exact finished.of_flow (join_flow bridge)
    · next data output other received =>
        obtain rfl := Option.some.inj ran
        exact ⟨(ended_of_piece received).trans finished.1, finished.2⟩
    · contradiction
  · split at ran
    · contradiction
    · obtain rfl := Option.some.inj ran
      exact finished
  · split at ran
    · obtain rfl := Option.some.inj ran
      exact finished.of_flow (join_flow bridge)
    · contradiction
  · split at ran
    · obtain rfl := Option.some.inj ran
      exact finished.of_flow (exit_flow bridge)
    · contradiction
  · split at ran
    · obtain rfl := Option.some.inj ran
      exact finished.of_flow (by simp)
    · contradiction
  · split at ran
    · obtain rfl := Option.some.inj ran
      exact finished.of_flow (by simp)
    · contradiction
  · split at ran
    · obtain rfl := Option.some.inj ran
      exact finished
    · contradiction

theorem Over.pumpErrors (finished : bridge.Over)
    (ran : bridge.pumpStderrToChannel count = some after) : after.Over := by
  rw [pumpStderrToChannel] at ran
  split at ran
  · contradiction
  · contradiction
  · split at ran
    · obtain rfl := Option.some.inj ran
      exact finished
    · next data errors other received =>
        obtain rfl := Option.some.inj ran
        exact ⟨finished.1, (ended_of_piece received).trans finished.2.1, finished.2.2⟩
    · contradiction
  · split at ran
    · contradiction
    · obtain rfl := Option.some.inj ran
      exact finished
  · obtain rfl := Option.some.inj ran
    exact finished

theorem over_feed {items : List Item} (given : bridge.feed items = some after) :
    after.Over ↔ bridge.Over := by
  rw [feed.eq_def] at given
  split at given
  · obtain rfl := Option.some.inj given
    exact Iff.rfl
  · obtain rfl := Option.some.inj given
    exact Iff.rfl
  · obtain rfl := Option.some.inj given
    exact Iff.rfl
  · obtain rfl := Option.some.inj given
    exact Iff.rfl
  · split at given
    · obtain rfl := Option.some.inj given
      exact Iff.rfl
    · contradiction

theorem Over.pumpInput (finished : bridge.Over)
    (ran : bridge.pumpChannelToProcess count = some after) : after.Over := by
  rw [pumpChannelToProcess] at ran
  split at ran
  · contradiction
  · contradiction
  · contradiction
  · split at ran
    · exact (over_feed ran).mpr finished
    · contradiction
  · obtain rfl := Option.some.inj ran
    exact finished

theorem Over.next (finished : bridge.Over) {event : Event} (own : event.own = true)
    (ran : bridge.next event = some after) : after.Over := by
  cases event with
  | bridge count => exact finished.resume ran
  | pumpErrors count => exact finished.pumpErrors ran
  | pumpInput count => exact finished.pumpInput ran
  | bridgeRaises =>
      simp only [Bridge.next] at ran
      split at ran
      · obtain rfl := Option.some.inj ran
        exact finished
      · obtain rfl := Option.some.inj ran
        exact finished
      · obtain rfl := Option.some.inj ran
        exact finished.of_flow (by simp)
      · obtain rfl := Option.some.inj ran
        exact finished.of_flow (by simp)
      · obtain rfl := Option.some.inj ran
        exact finished.of_flow (by simp)
      · contradiction
  | errorsRaise =>
      simp only [Bridge.next] at ran
      split at ran
      · obtain rfl := Option.some.inj ran
        exact finished
      · obtain rfl := Option.some.inj ran
        exact finished
      · contradiction
  | inputRaises =>
      simp only [Bridge.next] at ran
      split at ran
      · obtain rfl := Option.some.inj ran
        exact finished
      · contradiction
  | opened | openFailed | print | complain | endOutput | endErrors | exit | type | endInput
  | pauseWriting | resumeWriting | cancel => contradiction

/-- A reader of a stream that has ended goes on. -/
theorem exists_piece {α : Type} {pipe : Pipe α} (ended : pipe.ended = true) :
    ∃ found, piece pipe 1 = some found := by
  rw [piece, if_pos (by decide)]
  exact Pipe.exists_receive ended

/-- The pump of the error stream goes on, unless it has ended or waits for the caller. -/
theorem goes_pumpErrors (finished : bridge.Over) (present : bridge.stderrPump ≠ .absent)
    (running : ∀ way, bridge.stderrPump ≠ .ended way) :
    (bridge.pumpStderrToChannel 1).isSome = true ∨
      bridge.paused = true ∧ bridge.stderrPump = .draining := by
  rw [pumpStderrToChannel]
  split
  · next absent => exact absurd absent present
  · next way ended => exact absurd ended (running way)
  · obtain ⟨⟨data, rest⟩, received⟩ := exists_piece finished.2.1
    rw [received]
    cases data with
    | nil => exact .inl rfl
    | cons => exact .inl rfl
  · next draining =>
      split
      · next paused => exact .inr ⟨paused, draining⟩
      · exact .inl rfl
  · exact .inl rfl

theorem goes_on (sound : bridge.Sound) (finished : bridge.Over) (opened : bridge.stage ≠ .opening)
    (unended : ∀ how, bridge.stage ≠ .ended how) :
    (bridge.resume 1).isSome = true ∨ (bridge.pumpStderrToChannel 1).isSome = true ∨
      bridge.inputPump = .cancelling ∨ bridge.Blocked := by
  have fits := sound.stands.fits
  rw [resume]
  split
  · next opening => exact absurd opening opened
  · next how ended => exact absurd ended (unended how)
  · obtain ⟨⟨data, rest⟩, received⟩ := exists_piece finished.1
    rw [received]
    cases data with
    | nil => exact .inl rfl
    | cons => exact .inl rfl
  · next draining =>
      split
      · next paused => exact .inr (.inr (.inr ⟨paused, .inl draining⟩))
      · exact .inl rfl
  · next joining =>
      rw [joining] at fits
      split
      · exact .inl rfl
      · next running =>
          rcases goes_pumpErrors finished fits.1.2 running with goes | ⟨paused, draining⟩
          · exact .inr (.inl goes)
          · exact .inr (.inr (.inr ⟨paused, .inr ⟨joining, draining⟩⟩))
  · exact .inl (by simp [finished.2.2])
  · next how ending =>
      rw [ending] at fits
      split
      · exact .inl rfl
      · next running =>
          exact .inr (.inr (.inl (Pump.cancelling_of_stopping fits.1 running)))
  · next how ending =>
      rw [ending] at fits
      split
      · exact .inl rfl
      · next running =>
          have cancelling := Pump.cancelling_of_stopping fits.2.1 running
          exact .inr (.inl (by rw [pumpStderrToChannel, cancelling]; rfl))
  · exact .inl (by simp [finished.2.2])

/-- Once the sandbox process is over, the further sections of a call are no more than it had left
and its caller sends.  While the call has not ended, it can go on, unless its caller does not read.
-/
theorem session_ends (terminal : Option TerminalSize) (bridge after : Bridge) (events : List Event)
    (reach : machine.Reaches (fun _ _ => True) { terminal } bridge) (finished : bridge.Over)
    (each : ∀ event ∈ events, event.own = true ∨ event.caller = true)
    (ran : machine.run bridge events = some after) :
    (events.map fun event => if event.own then 1 else 0).sum ≤
        bridge.left + (events.map Event.typed).sum ∧
      (after.stage = .opening ∨ (∃ how, after.stage = .ended how) ∨ after.Blocked ∨
        ∃ event ∈ [.bridge 1, .pumpErrors 1, .pumpInput 0], (after.next event).isSome = true) := by
  have step {event : Event} {before later : Bridge} (holds : before.Sound ∧ before.Over)
      (mine : event.own = true ∨ event.caller = true)
      (moved : machine.next before event = some later) :
      (later.Sound ∧ later.Over) ∧
        later.left + (if event.own then 1 else 0) ≤ before.left + event.typed := by
    have sound := holds.1.step moved
    rcases mine with own | caller
    · have less := left_next own moved
      refine ⟨⟨sound, holds.2.next own moved⟩, ?_⟩
      rw [if_pos own]
      omega
    · obtain ⟨same, more⟩ := left_caller caller moved
      refine ⟨⟨sound, same.mpr holds.2⟩, ?_⟩
      have other : ¬event.own = true := by
        cases event <;> simp [Event.caller, Event.own] at caller ⊢
      rw [if_neg other, more]
      exact Nat.le_refl _
  obtain ⟨⟨sound, finished⟩, bound⟩ :=
    Machine.cost_le_of_run events step ⟨sound_of_reaches reach, finished⟩ each ran
  refine ⟨by omega, ?_⟩
  by_cases opening : after.stage = .opening
  · exact .inl opening
  · by_cases ended : ∃ how, after.stage = .ended how
    · exact .inr (.inl ended)
    · refine .inr (.inr ?_)
      rcases goes_on sound finished opening (not_exists.mp ended) with
        own | errors | cancelling | blocked
      · exact .inr ⟨_, List.mem_cons_self, own⟩
      · exact .inr ⟨.pumpErrors 1, by simp, errors⟩
      · exact .inr ⟨.pumpInput 0, by simp, by simp [next, pumpChannelToProcess, cancelling]⟩
      · exact .inl blocked

/-- A caller that sends no end of its input does not hold its session: it reads, and `_bridge` goes
on. -/
theorem session_ends_silent :
    ∃ bridge after : Bridge, machine.Reaches (fun _ _ => True) { terminal := none } bridge ∧
      machine.run bridge
        [.bridge 2, .pauseWriting, .type [.byte 97], .resumeWriting, .bridge 0, .bridge 0] =
          some after ∧
      3 ≤ bridge.left + 1 ∧ after.stage = .joining ∧
      (after.stage = .opening ∨ (∃ how, after.stage = .ended how) ∨ after.Blocked ∨
        ∃ event ∈ [.bridge 1, .pumpErrors 1, .pumpInput 0], (after.next event).isSome = true) := by
  have reach : machine.Reaches (fun _ _ => True) ({ terminal := none } : Bridge) _ :=
    Machine.reaches_of_run [.opened, .print [104, 105], .endOutput, .endErrors, .exit 5]
      (by simp) rfl
  have ends := session_ends none _ _
    [.bridge 2, .pauseWriting, .type [.byte 97], .resumeWriting, .bridge 0, .bridge 0] reach
    ⟨rfl, rfl, rfl⟩ (by decide) rfl
  exact ⟨_, _, reach, rfl, ends.1, rfl, ends.2⟩

end Bridge

end Drukbox.Gateway.Session
