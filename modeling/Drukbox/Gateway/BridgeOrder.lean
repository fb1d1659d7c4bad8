import Drukbox.Gateway.Bridge

/-!
# What a session of the gateway keeps

The streams keep their order, the exit status comes behind all output, and the sandbox process is
closed once unless a pump raised.
-/

namespace Drukbox.Gateway.Session

open Await

namespace Pump

/-- The pump has ended, and not by an exception of its own. -/
def stopped : Pump → Bool
  | .ended .returned | .ended .cancelled => true
  | _ => false

/-- It ends without an exception of its own. -/
def stopping : Pump → Bool
  | .cancelling => true
  | pump => pump.stopped

/-- It was cancelled, or has ended. -/
def halted : Pump → Bool
  | .cancelling | .ended _ => true
  | _ => false

theorem cancel_eq_ended {pump : Pump} {how : Ended} :
    pump.cancel = .ended how ↔ pump = .ended how := by
  cases pump <;> simp [cancel]

theorem cancel_eq_absent {pump : Pump} : pump.cancel = .absent ↔ pump = .absent := by
  cases pump <;> simp [cancel]

theorem cancel_halted {pump : Pump} (present : pump ≠ .absent) : pump.cancel.halted = true := by
  cases pump with
  | absent => contradiction
  | receiving | draining | cancelling | ended => rfl

theorem stopping_of_halted {pump : Pump} (halted : pump.halted = true)
    (other : pump ≠ .ended .raised) : pump.stopping = true := by
  cases pump with
  | absent | receiving | draining => contradiction
  | cancelling => rfl
  | ended how =>
      cases how with
      | raised => contradiction
      | returned | cancelled => rfl

theorem halted_of_stopping {pump : Pump} (stopping : pump.stopping = true) :
    pump.halted = true := by
  cases pump with
  | absent | receiving | draining => contradiction
  | cancelling | ended => rfl

theorem halted_of_stopped {pump : Pump} (stopped : pump.stopped = true) : pump.halted = true := by
  cases pump with
  | absent | receiving | draining | cancelling => contradiction
  | ended => rfl

theorem exists_of_stopped {pump : Pump} (stopped : pump.stopped = true) :
    ∃ how, pump = .ended how ∧ how ≠ .raised := by
  cases pump with
  | absent | receiving | draining | cancelling => contradiction
  | ended how =>
      refine ⟨how, rfl, ?_⟩
      rintro rfl
      contradiction

theorem stopped_ended {how : Ended} (other : how ≠ .raised) : (Pump.ended how).stopped = true := by
  cases how with
  | raised => contradiction
  | returned | cancelled => rfl

end Pump

/-- `_bridge` has its sandbox process, and has not come to the end of it. -/
def Stage.runs : Stage → Bool
  | .receiving | .draining | .joining | .waiting => true
  | _ => false

namespace Bridge

variable {bridge after : Bridge} {how : Ended}

section Rest

@[simp] theorem awaitErrors_rest (bridge : Bridge) (how : Ended) :
    (bridge.awaitErrors how).toFlow = bridge.toFlow ∧
      (bridge.awaitErrors how).inputPump = bridge.inputPump ∧
      (bridge.awaitErrors how).stderrPump = bridge.stderrPump ∧
      (bridge.awaitErrors how).exits = bridge.exits ∧
      (bridge.awaitErrors how).refused = bridge.refused := by
  rw [awaitErrors]
  split <;> exact ⟨rfl, rfl, rfl, rfl, rfl⟩

@[simp] theorem awaitInput_rest (bridge : Bridge) (how : Ended) :
    (bridge.awaitInput how).toFlow = bridge.toFlow ∧
      (bridge.awaitInput how).inputPump = bridge.inputPump ∧
      (bridge.awaitInput how).stderrPump = bridge.stderrPump ∧
      (bridge.awaitInput how).exits = bridge.exits ∧
      (bridge.awaitInput how).refused = bridge.refused := by
  rw [awaitInput]
  split
  · exact ⟨rfl, rfl, rfl, rfl, rfl⟩
  · exact awaitErrors_rest bridge how
  · exact ⟨rfl, rfl, rfl, rfl, rfl⟩

@[simp] theorem finish_rest (bridge : Bridge) (how : Ended) :
    (bridge.finish how).toFlow = bridge.toFlow ∧
      (bridge.finish how).inputPump = bridge.inputPump.cancel ∧
      (bridge.finish how).stderrPump = bridge.stderrPump.cancel ∧
      (bridge.finish how).exits = bridge.exits ∧
      (bridge.finish how).refused = bridge.refused :=
  awaitInput_rest _ how

end Rest

/-- What the streams of a call keep. -/
structure Flows (bridge : Bridge) : Prop where
  stdout : bridge.stdout = bridge.output.taken
  stderr : bridge.stderr = (if bridge.refused then refusal else []) ++ bridge.errors.taken
  fed : bridge.fed = bridge.input.taken.filterMap Item.byte?
  sizes : bridge.sizes = bridge.input.taken.filterMap Item.size?
  /-- The pump of the error stream returns at its end. -/
  errors : bridge.stderrPump = .ended .returned → bridge.errors.Drained
  /-- The pump of the input returns at its end, and then only it passes the end on. -/
  input : bridge.inputPump = .ended .returned → bridge.input.Drained
  eofs : bridge.eofs = if bridge.inputPump = .ended .returned then 1 else 0
  /-- Nothing is taken before the pumps start. -/
  idle : bridge.stderrPump = .absent → bridge.output.taken = [] ∧ bridge.errors.taken = []
  still : bridge.inputPump = .absent → bridge.input.taken = []
  /-- After a refusal they never start. -/
  refused : bridge.refused = true →
    bridge.inputPump = .absent ∧ bridge.stderrPump = .absent ∧ bridge.exits = [255]

theorem Flows.leave (flows : bridge.Flows) (same : after.toFlow = bridge.toFlow)
    (input : after.inputPump = bridge.inputPump ∨ after.inputPump = bridge.inputPump.cancel)
    (errors : after.stderrPump = bridge.stderrPump ∨ after.stderrPump = bridge.stderrPump.cancel)
    (told : after.exits = bridge.exits ∧ after.refused = bridge.refused) : after.Flows := by
  have ended {before later : Pump} (step : later = before ∨ later = before.cancel) :
      later = .ended .returned ↔ before = .ended .returned := by
    rcases step with rfl | rfl
    · exact Iff.rfl
    · exact Pump.cancel_eq_ended
  have absent {before later : Pump} (step : later = before ∨ later = before.cancel) :
      later = .absent ↔ before = .absent := by
    rcases step with rfl | rfl
    · exact Iff.rfl
    · exact Pump.cancel_eq_absent
  constructor
  · rw [same, flows.stdout]
  · rw [same, told.2, flows.stderr]
  · rw [same, flows.fed]
  · rw [same, flows.sizes]
  · rw [same, ended errors]
    exact flows.errors
  · rw [same, ended input]
    exact flows.input
  · rw [same, flows.eofs]
    simp only [ended input]
  · rw [same, absent errors]
    exact flows.idle
  · rw [same, absent input]
    exact flows.still
  · rw [told.1, told.2, absent input, absent errors]
    exact flows.refused

theorem Flows.stage (flows : bridge.Flows) (same : after.toFlow = bridge.toFlow)
    (input : after.inputPump = bridge.inputPump) (errors : after.stderrPump = bridge.stderrPump)
    (told : after.exits = bridge.exits ∧ after.refused = bridge.refused) : after.Flows :=
  flows.leave same (.inl input) (.inl errors) told

theorem Flows.awaitErrors (flows : bridge.Flows) (how : Ended) : (bridge.awaitErrors how).Flows :=
  flows.stage (by simp) (by simp) (by simp) (by simp)

theorem Flows.awaitInput (flows : bridge.Flows) (how : Ended) : (bridge.awaitInput how).Flows :=
  flows.stage (by simp) (by simp) (by simp) (by simp)

theorem Flows.finish (flows : bridge.Flows) (how : Ended) : (bridge.finish how).Flows :=
  flows.leave (by simp) (by simp) (by simp) (by simp)

theorem Flows.exit (flows : bridge.Flows) (present : bridge.stderrPump ≠ .absent) :
    bridge.exit.Flows := by
  rw [Bridge.exit]
  split
  · apply Flows.finish
    exact { flows with refused := fun refused => absurd (flows.refused refused).2.1 present }
  · exact flows.stage rfl rfl rfl ⟨rfl, rfl⟩

theorem Flows.join (flows : bridge.Flows) (present : bridge.stderrPump ≠ .absent) :
    bridge.join.Flows := by
  rw [Bridge.join]
  split
  · exact flows.exit present
  · exact flows.finish _
  · exact flows.stage rfl rfl rfl ⟨rfl, rfl⟩

theorem receive_of_piece {α : Type} {pipe rest : Pipe α} {count : ℕ} {data : List α}
    (received : piece pipe count = some (data, rest)) : pipe.receive count = some (data, rest) := by
  rw [piece] at received
  split at received
  · exact received
  · contradiction

theorem Flows.resume (flows : bridge.Flows)
    (present : bridge.stage.runs = true → bridge.stderrPump ≠ .absent) {count : ℕ}
    (ran : bridge.resume count = some after) : after.Flows := by
  rw [Bridge.resume] at ran
  split at ran
  · contradiction
  · contradiction
  · next receiving =>
      have present := present (by rw [receiving]; rfl)
      split at ran
      · obtain rfl := Option.some.inj ran
        exact flows.join present
      · next data output received =>
          obtain rfl := Option.some.inj ran
          have taken := (Pipe.receive_taken (receive_of_piece received)).1
          refine { flows with stdout := ?_, idle := fun absent => absurd absent present }
          rw [taken, flows.stdout]
      · contradiction
  · split at ran
    · contradiction
    · obtain rfl := Option.some.inj ran
      exact flows.stage rfl rfl rfl ⟨rfl, rfl⟩
  · next joining =>
      split at ran
      · obtain rfl := Option.some.inj ran
        exact flows.join (present (by rw [joining]; rfl))
      · contradiction
  · next waiting =>
      split at ran
      · obtain rfl := Option.some.inj ran
        exact flows.exit (present (by rw [waiting]; rfl))
      · contradiction
  · split at ran
    · obtain rfl := Option.some.inj ran
      exact flows.awaitInput _
    · contradiction
  · split at ran
    · obtain rfl := Option.some.inj ran
      exact flows.awaitErrors _
    · contradiction
  · split at ran
    · obtain rfl := Option.some.inj ran
      exact flows.stage rfl rfl rfl ⟨rfl, rfl⟩
    · contradiction

theorem Flows.pumpErrors (flows : bridge.Flows) {count : ℕ}
    (ran : bridge.pumpStderrToChannel count = some after) : after.Flows := by
  have pump {stderrPump : Pump} (other : bridge.stderrPump ≠ .absent)
      (errors : stderrPump = .ended .returned → bridge.errors.Drained)
      (present : stderrPump ≠ .absent) : { bridge with stderrPump }.Flows :=
    { flows with
      errors
      idle := fun absent => absurd absent present
      refused := fun refused => absurd (flows.refused refused).2.1 other }
  rw [pumpStderrToChannel] at ran
  split at ran
  · contradiction
  · contradiction
  · next receiving =>
      have other : bridge.stderrPump ≠ .absent := by simp [receiving]
      split at ran
      · next errors received =>
          obtain rfl := Option.some.inj ran
          exact pump other (fun _ => (Pipe.receive_nil (receive_of_piece received)).2) (by simp)
      · next data errors received =>
          obtain rfl := Option.some.inj ran
          have taken := (Pipe.receive_taken (receive_of_piece received)).1
          have drains : Bridge.Flows { bridge with stderrPump := .draining } :=
            pump other (by simp) (by simp)
          refine { drains with stderr := ?_, errors := by simp, idle := by simp }
          rw [taken, flows.stderr, List.append_assoc]
      · contradiction
  · next draining =>
      split at ran
      · contradiction
      · obtain rfl := Option.some.inj ran
        exact pump (by simp [draining]) (by simp) (by simp)
  · next cancelling =>
      obtain rfl := Option.some.inj ran
      exact pump (by simp [cancelling]) (by simp) (by simp)

theorem sizes_of_bytes {items : List Item}
    (bytes : (items.all fun item => item.byte?.isSome) = true) :
    items.filterMap Item.size? = [] := by
  rw [List.filterMap_eq_nil_iff]
  intro item member
  have byte := List.all_eq_true.mp bytes item member
  cases item with
  | byte value => rfl
  | sizeChanged | breakReceived | uncaught => contradiction

/-- Items that go to the process while the end of the input has not. -/
theorem Flows.given (flows : bridge.Flows) {items : List Item} {input : Pipe Item}
    (taken : input.taken = bridge.input.taken ++ items) (unended : bridge.eofs = 0)
    (same : after.toFlow =
      { bridge.toFlow with
        input
        fed := bridge.fed ++ items.filterMap Item.byte?
        sizes := bridge.sizes ++ items.filterMap Item.size? })
    (errors : after.stderrPump = bridge.stderrPump) (refused : after.refused = bridge.refused)
    (running : bridge.inputPump = .receiving) (present : after.inputPump ≠ .absent)
    (waits : after.inputPump ≠ .ended .returned) : after.Flows where
  stdout := by rw [same, flows.stdout]
  stderr := by rw [same, refused, flows.stderr]
  fed := by rw [same, taken, List.filterMap_append, flows.fed]
  sizes := by rw [same, taken, List.filterMap_append, flows.sizes]
  errors returned := by
    rw [errors] at returned
    rw [same]
    exact flows.errors returned
  input returned := absurd returned waits
  eofs := by rw [same, if_neg waits, unended]
  idle absent := by
    rw [errors] at absent
    rw [same]
    exact flows.idle absent
  still absent := absurd absent present
  refused told := by
    have absent := (flows.refused (refused.symm.trans told)).1
    rw [running] at absent
    contradiction

theorem Flows.feed (flows : bridge.Flows) (running : bridge.inputPump = .receiving)
    {items : List Item} {input : Pipe Item} {count : ℕ}
    (received : bridge.input.receive count = some (items, input))
    (given : { bridge with input }.feed items = some after) : after.Flows := by
  have taken := (Pipe.receive_taken received).1
  have unended : bridge.eofs = 0 := by simpa [running] using flows.eofs
  rw [Bridge.feed.eq_def] at given
  split at given
  · obtain rfl := Option.some.inj given
    obtain ⟨rfl, drained⟩ := Pipe.receive_nil received
    refine { flows with
      input := fun _ => drained, eofs := by simp [unended], still := by simp, refused := ?_ }
    intro refused
    have absent := (flows.refused refused).1
    rw [running] at absent
    contradiction
  · obtain rfl := Option.some.inj given
    exact flows.given taken unended (by simp [Item.byte?, Item.size?]) rfl rfl running
      (by simp [running]) (by simp [running])
  · obtain rfl := Option.some.inj given
    exact flows.given taken unended (by simp [Item.byte?, Item.size?]) rfl rfl running
      (by simp [running]) (by simp [running])
  · obtain rfl := Option.some.inj given
    exact flows.given taken unended (by simp [Item.byte?, Item.size?]) rfl rfl running
      (by simp) (by simp)
  · split at given
    · next bytes =>
        obtain rfl := Option.some.inj given
        exact flows.given taken unended (by simp [sizes_of_bytes bytes]) rfl rfl running
          (by simp [running]) (by simp [running])
    · contradiction

theorem Flows.pumpInput (flows : bridge.Flows) {count : ℕ}
    (ran : bridge.pumpChannelToProcess count = some after) : after.Flows := by
  rw [pumpChannelToProcess] at ran
  split at ran
  · contradiction
  · contradiction
  · contradiction
  · next running =>
      split at ran
      · next items input received =>
          exact flows.feed running (receive_of_piece received) ran
      · contradiction
  · next cancelling =>
      obtain rfl := Option.some.inj ran
      refine { flows with
        input := by simp, eofs := ?_, still := by simp, refused := fun refused => ?_ }
      · simpa [cancelling] using flows.eofs
      · have absent := (flows.refused refused).1
        rw [cancelling] at absent
        contradiction

theorem Flows.cancel (flows : bridge.Flows) (ran : bridge.cancel = some after) : after.Flows := by
  rw [Bridge.cancel] at ran
  split at ran
  · obtain rfl := Option.some.inj ran
    exact flows.stage rfl rfl rfl ⟨rfl, rfl⟩
  · obtain rfl := Option.some.inj ran
    exact flows.stage rfl rfl rfl ⟨rfl, rfl⟩
  · obtain rfl := Option.some.inj ran
    exact flows.finish _
  · obtain rfl := Option.some.inj ran
    exact flows.finish _
  · obtain rfl := Option.some.inj ran
    exact flows.finish _
  · split at ran
    · obtain rfl := Option.some.inj ran
      exact flows.finish _
    · obtain rfl := Option.some.inj ran
      exact flows.leave rfl (.inl rfl) (.inr rfl) ⟨rfl, rfl⟩
  · split at ran
    · obtain rfl := Option.some.inj ran
      exact flows.awaitErrors _
    · obtain rfl := Option.some.inj ran
      exact flows
  · split at ran
    · obtain rfl := Option.some.inj ran
      exact flows.stage rfl rfl rfl ⟨rfl, rfl⟩
    · obtain rfl := Option.some.inj ran
      exact flows
  · contradiction

theorem Flows.step (flows : bridge.Flows)
    (unopened : bridge.stage = .opening →
      bridge.inputPump = .absent ∧ bridge.stderrPump = .absent ∧ bridge.refused = false)
    (present : bridge.stage.runs = true → bridge.stderrPump ≠ .absent) {event : Event}
    (ran : bridge.next event = some after) : after.Flows := by
  cases event with
  | opened =>
      simp only [next] at ran
      split at ran
      · next opening =>
          obtain rfl := Option.some.inj ran
          obtain ⟨input, -, unrefused⟩ := unopened opening
          have eofs := flows.eofs
          have stderr := flows.stderr
          refine { flows with
            stderr := ?_, errors := by simp, input := by simp, eofs := ?_, idle := by simp,
            still := by simp, refused := by simp [unrefused] }
          · have taken : (if bridge.terminal.isSome then bridge.errors.close
                else bridge.errors).taken = bridge.errors.taken := by
              split
              · rfl
              · rfl
            simp only [taken, stderr]
          · simpa [input] using eofs
      · contradiction
  | openFailed =>
      simp only [next] at ran
      split at ran
      · next opening =>
          obtain rfl := Option.some.inj ran
          obtain ⟨input, errors, unrefused⟩ := unopened opening
          refine { flows with stderr := ?_, refused := fun _ => ⟨input, errors, rfl⟩ }
          have stderr := flows.stderr
          simp only [unrefused, (flows.idle errors).2] at stderr
          simp [stderr, (flows.idle errors).2]
      · contradiction
  | print data =>
      obtain ⟨output, written, rfl⟩ := Option.map_eq_some_iff.mp ran
      have taken := (Pipe.write_taken written).1
      refine { flows with stdout := ?_, idle := fun absent => ?_ }
      · rw [taken, flows.stdout]
      · rw [taken]
        exact flows.idle absent
  | complain data =>
      obtain ⟨errors, written, rfl⟩ := Option.map_eq_some_iff.mp ran
      have taken := (Pipe.write_taken written).1
      refine { flows with
        stderr := ?_, errors := fun returned => ?_, idle := fun absent => ?_ }
      · rw [taken, flows.stderr]
      · exact absurd (flows.errors returned) (Pipe.not_drained_of_write written)
      · rw [taken]
        exact flows.idle absent
  | endOutput =>
      obtain rfl := Option.some.inj ran
      exact { flows with }
  | endErrors =>
      obtain rfl := Option.some.inj ran
      exact { flows with errors := fun returned => (flows.errors returned).close }
  | exit status =>
      simp only [next] at ran
      split at ran
      · contradiction
      · obtain rfl := Option.some.inj ran
        exact { flows with }
  | type items =>
      obtain ⟨input, written, rfl⟩ := Option.map_eq_some_iff.mp ran
      have taken := (Pipe.write_taken written).1
      refine { flows with
        fed := ?_, sizes := ?_, input := fun returned => ?_, still := fun absent => ?_ }
      · rw [taken, flows.fed]
      · rw [taken, flows.sizes]
      · exact absurd (flows.input returned) (Pipe.not_drained_of_write written)
      · rw [taken]
        exact flows.still absent
  | endInput =>
      obtain rfl := Option.some.inj ran
      exact { flows with input := fun returned => (flows.input returned).close }
  | pauseWriting | resumeWriting =>
      obtain rfl := Option.some.inj ran
      exact { flows with }
  | bridge count => exact flows.resume present ran
  | pumpErrors count => exact flows.pumpErrors ran
  | pumpInput count => exact flows.pumpInput ran
  | bridgeRaises =>
      simp only [next] at ran
      split at ran
      · obtain rfl := Option.some.inj ran
        exact flows.stage rfl rfl rfl ⟨rfl, rfl⟩
      · obtain rfl := Option.some.inj ran
        exact flows.stage rfl rfl rfl ⟨rfl, rfl⟩
      · obtain rfl := Option.some.inj ran
        exact flows.finish _
      · obtain rfl := Option.some.inj ran
        exact flows.finish _
      · obtain rfl := Option.some.inj ran
        exact flows.finish _
      · contradiction
  | errorsRaise =>
      have raises (other : bridge.stderrPump ≠ .absent) :
          { bridge with stderrPump := .ended .raised }.Flows :=
        { flows with
          errors := by simp
          idle := by simp
          refused := fun refused => absurd (flows.refused refused).2.1 other }
      simp only [next] at ran
      split at ran
      · next receiving =>
          obtain rfl := Option.some.inj ran
          exact raises (by simp [receiving])
      · next draining =>
          obtain rfl := Option.some.inj ran
          exact raises (by simp [draining])
      · contradiction
  | inputRaises =>
      simp only [next] at ran
      split at ran
      · next running =>
          obtain rfl := Option.some.inj ran
          have eofs := flows.eofs
          refine { flows with
            input := by simp, eofs := ?_, still := by simp, refused := fun refused => ?_ }
          · simpa [running] using eofs
          · have absent := (flows.refused refused).1
            rw [running] at absent
            contradiction
      · contradiction
  | cancel => exact flows.cancel ran

/-- What the caller was told of the end: that there is no session, or the exit status of the sandbox
process behind all of its output. -/
def Told (bridge : Bridge) : Prop :=
  bridge.exits = [] ∨ (bridge.refused = true ∧ bridge.exits = [255]) ∨
    ∃ status, bridge.exits = [status] ∧ bridge.exited = some status ∧ bridge.output.Drained ∧
      bridge.stderrPump = .ended .returned

/-- Both pumps have been started. -/
def Started (bridge : Bridge) : Prop :=
  bridge.inputPump ≠ .absent ∧ bridge.stderrPump ≠ .absent

/-- What holds of a call at a stage. -/
def Fits (bridge : Bridge) : Stage → Prop
  | .opening =>
      bridge.inputPump = .absent ∧ bridge.stderrPump = .absent ∧ bridge.exits = [] ∧
        bridge.closes = 0 ∧ bridge.refused = false
  | .receiving | .draining => bridge.Started ∧ bridge.exits = [] ∧ bridge.closes = 0
  | .joining => bridge.Started ∧ bridge.exits = [] ∧ bridge.closes = 0 ∧ bridge.output.Drained
  | .waiting =>
      bridge.inputPump ≠ .absent ∧ bridge.exits = [] ∧ bridge.closes = 0 ∧
        bridge.output.Drained ∧ bridge.stderrPump = .ended .returned
  | .endingInput _ =>
      bridge.inputPump.stopping = true ∧ bridge.stderrPump.halted = true ∧ bridge.closes = 0
  | .endingErrors _ =>
      bridge.inputPump.stopped = true ∧ bridge.stderrPump.stopping = true ∧ bridge.closes = 0
  | .closing _ =>
      bridge.inputPump.stopped = true ∧ bridge.stderrPump.stopped = true ∧ bridge.closes = 1
  | .ended _ =>
      bridge.inputPump = .absent ∧ bridge.stderrPump = .absent ∧ bridge.closes = 0 ∨
        bridge.inputPump.stopped = true ∧ bridge.stderrPump.stopped = true ∧ bridge.closes = 1 ∨
          (bridge.inputPump = .ended .raised ∨ bridge.stderrPump = .ended .raised) ∧
            bridge.inputPump.halted = true ∧ bridge.stderrPump.halted = true ∧ bridge.closes = 0

theorem Fits.present {stage : Stage} (fits : bridge.Fits stage) (runs : stage.runs = true) :
    bridge.stderrPump ≠ .absent := by
  cases stage with
  | receiving | draining | joining => exact fits.1.2
  | waiting => simp [fits.2.2.2.2]
  | opening | endingInput | endingErrors | closing | ended => contradiction

/-- How `_bridge` ends, once that is settled. -/
def how? : Stage → Option Ended
  | .endingInput how | .endingErrors how | .closing how | .ended how => some how
  | _ => none

/-- What holds at the stage of a call. -/
structure Stands (bridge : Bridge) : Prop where
  fits : bridge.Fits bridge.stage
  told : bridge.Told
  /-- A call that returns has told its caller of the end. -/
  returned : how? bridge.stage = some .returned → bridge.exits ≠ []

/-- One section of a pump. -/
inductive PumpStep : Pump → Pump → Prop
  | receive {pump : Pump} (present : pump ≠ .absent) : PumpStep .receiving pump
  | drain {pump : Pump} (present : pump ≠ .absent) : PumpStep .draining pump
  | stop : PumpStep .cancelling (.ended .cancelled)

/-- The pumps, the process and the caller, beside `_bridge` itself. -/
structure Aside (bridge after : Bridge) : Prop where
  stage : after.stage = bridge.stage
  exits : after.exits = bridge.exits
  closes : after.closes = bridge.closes
  refused : after.refused = bridge.refused
  output : bridge.output.Drained → after.output.Drained
  exited : ∀ status, bridge.exited = some status → after.exited = some status
  inputPump : after.inputPump = bridge.inputPump ∨ PumpStep bridge.inputPump after.inputPump
  stderrPump : after.stderrPump = bridge.stderrPump ∨ PumpStep bridge.stderrPump after.stderrPump

section PumpStep

variable {before later : Pump}

theorem PumpStep.present (step : later = before ∨ PumpStep before later) :
    later = .absent ↔ before = .absent := by
  rcases step with rfl | step
  · exact Iff.rfl
  · cases step with
    | receive present | drain present => simp [present]
    | stop => simp

theorem PumpStep.ended (step : later = before ∨ PumpStep before later) {how : Ended}
    (ended : before = .ended how) : later = .ended how := by
  rcases step with rfl | step
  · exact ended
  · cases step with
    | receive | drain | stop => contradiction

theorem PumpStep.halted (step : later = before ∨ PumpStep before later)
    (halted : before.halted = true) : later.halted = true := by
  rcases step with rfl | step
  · exact halted
  · cases step with
    | receive | drain => contradiction
    | stop => rfl

theorem PumpStep.stopping (step : later = before ∨ PumpStep before later)
    (stopping : before.stopping = true) : later.stopping = true := by
  rcases step with rfl | step
  · exact stopping
  · cases step with
    | receive | drain => contradiction
    | stop => rfl

theorem PumpStep.stopped (step : later = before ∨ PumpStep before later)
    (stopped : before.stopped = true) : later.stopped = true := by
  rcases step with rfl | step
  · exact stopped
  · cases step with
    | receive | drain | stop => contradiction

end PumpStep

theorem Told.aside (told : bridge.Told) (aside : bridge.Aside after) : after.Told := by
  rcases told with silent | ⟨refused, exits⟩ | ⟨status, exits, exited, drained, returned⟩
  · exact .inl (aside.exits.trans silent)
  · exact .inr (.inl ⟨aside.refused.trans refused, aside.exits.trans exits⟩)
  · exact .inr (.inr ⟨status, aside.exits.trans exits, aside.exited status exited,
      aside.output drained, PumpStep.ended aside.stderrPump returned⟩)

theorem Started.aside (started : bridge.Started) (aside : bridge.Aside after) : after.Started :=
  ⟨fun absent => started.1 ((PumpStep.present aside.inputPump).mp absent),
    fun absent => started.2 ((PumpStep.present aside.stderrPump).mp absent)⟩

/-- What goes on beside `_bridge` leaves it where it stands. -/
theorem Stands.aside (stands : bridge.Stands) (aside : bridge.Aside after) : after.Stands := by
  have returned : how? after.stage = some .returned → after.exits ≠ [] := by
    rw [aside.stage, aside.exits]
    exact stands.returned
  refine ⟨?_, stands.told.aside aside, returned⟩
  have fits := stands.fits
  rw [aside.stage]
  generalize bridge.stage = stage at fits ⊢
  cases stage with
  | opening =>
      obtain ⟨input, errors, exits, closes, unrefused⟩ := fits
      exact ⟨(PumpStep.present aside.inputPump).mpr input,
        (PumpStep.present aside.stderrPump).mpr errors, aside.exits.trans exits,
        aside.closes.trans closes, aside.refused.trans unrefused⟩
  | receiving | draining =>
      obtain ⟨started, exits, closes⟩ := fits
      exact ⟨started.aside aside, aside.exits.trans exits, aside.closes.trans closes⟩
  | joining =>
      obtain ⟨started, exits, closes, drained⟩ := fits
      exact ⟨started.aside aside, aside.exits.trans exits, aside.closes.trans closes,
        aside.output drained⟩
  | waiting =>
      obtain ⟨present, exits, closes, drained, returned⟩ := fits
      exact ⟨fun absent => present ((PumpStep.present aside.inputPump).mp absent),
        aside.exits.trans exits, aside.closes.trans closes, aside.output drained,
        PumpStep.ended aside.stderrPump returned⟩
  | endingInput how =>
      obtain ⟨input, errors, closes⟩ := fits
      exact ⟨PumpStep.stopping aside.inputPump input, PumpStep.halted aside.stderrPump errors,
        aside.closes.trans closes⟩
  | endingErrors how =>
      obtain ⟨input, errors, closes⟩ := fits
      exact ⟨PumpStep.stopped aside.inputPump input, PumpStep.stopping aside.stderrPump errors,
        aside.closes.trans closes⟩
  | closing how =>
      obtain ⟨input, errors, closes⟩ := fits
      exact ⟨PumpStep.stopped aside.inputPump input, PumpStep.stopped aside.stderrPump errors,
        aside.closes.trans closes⟩
  | ended how =>
      rcases fits with ⟨input, errors, closes⟩ | ⟨input, errors, closes⟩ |
        ⟨raised, input, errors, closes⟩
      · exact .inl ⟨(PumpStep.present aside.inputPump).mpr input,
          (PumpStep.present aside.stderrPump).mpr errors, aside.closes.trans closes⟩
      · exact .inr (.inl ⟨PumpStep.stopped aside.inputPump input,
          PumpStep.stopped aside.stderrPump errors, aside.closes.trans closes⟩)
      · refine .inr (.inr ⟨?_, PumpStep.halted aside.inputPump input,
          PumpStep.halted aside.stderrPump errors, aside.closes.trans closes⟩)
        exact raised.imp (PumpStep.ended aside.inputPump) (PumpStep.ended aside.stderrPump)

theorem Stands.awaitErrors (told : bridge.Told) (input : bridge.inputPump.stopped = true)
    (errors : bridge.stderrPump.halted = true) (closes : bridge.closes = 0)
    (returned : some how = some .returned → bridge.exits ≠ []) :
    (bridge.awaitErrors how).Stands := by
  rw [Bridge.awaitErrors]
  split
  · next raised =>
      have fits : bridge.Fits (.ended .raised) :=
        .inr (.inr ⟨.inr raised, Pump.halted_of_stopped input, errors, closes⟩)
      exact ⟨fits, told, by simp [how?]⟩
  · next other ended =>
      have stopped : bridge.stderrPump.stopped = true := by
        rw [ended]
        exact Pump.stopped_ended other
      exact ⟨⟨input, stopped, congrArg (· + 1) closes⟩, told, returned⟩
  · next running =>
      exact ⟨⟨input, Pump.stopping_of_halted errors (running _), closes⟩, told, returned⟩

theorem Stands.awaitInput (told : bridge.Told) (input : bridge.inputPump.halted = true)
    (errors : bridge.stderrPump.halted = true) (closes : bridge.closes = 0)
    (returned : some how = some .returned → bridge.exits ≠ []) :
    (bridge.awaitInput how).Stands := by
  rw [Bridge.awaitInput]
  split
  · next raised =>
      have fits : bridge.Fits (.ended .raised) :=
        .inr (.inr ⟨.inl raised, input, errors, closes⟩)
      exact ⟨fits, told, by simp [how?]⟩
  · next other ended =>
      have stopped : bridge.inputPump.stopped = true := by
        rw [ended]
        exact Pump.stopped_ended other
      exact Stands.awaitErrors told stopped errors closes returned
  · next running =>
      exact ⟨⟨Pump.stopping_of_halted input (running _), errors, closes⟩, told, returned⟩

theorem Told.cancel (told : bridge.Told) :
    { bridge with
      inputPump := bridge.inputPump.cancel
      stderrPump := bridge.stderrPump.cancel }.Told := by
  rcases told with silent | refused | ⟨status, exits, exited, drained, returned⟩
  · exact .inl silent
  · exact .inr (.inl refused)
  · exact .inr (.inr ⟨status, exits, exited, drained, Pump.cancel_eq_ended.mpr returned⟩)

theorem Stands.finish (told : bridge.Told) (started : bridge.Started) (closes : bridge.closes = 0)
    (returned : some how = some .returned → bridge.exits ≠ []) : (bridge.finish how).Stands :=
  Stands.awaitInput told.cancel (Pump.cancel_halted started.1) (Pump.cancel_halted started.2)
    closes returned

theorem Stands.abort (started : bridge.Started) (exits : bridge.exits = [])
    (closes : bridge.closes = 0) (other : how ≠ .returned) : (bridge.finish how).Stands :=
  Stands.finish (.inl exits) started closes fun same => absurd (Option.some.inj same) other

theorem Stands.exit (present : bridge.inputPump ≠ .absent) (exits : bridge.exits = [])
    (closes : bridge.closes = 0) (drained : bridge.output.Drained)
    (returned : bridge.stderrPump = .ended .returned) : bridge.exit.Stands := by
  have started : bridge.Started := ⟨present, by simp [returned]⟩
  rw [Bridge.exit]
  split
  · next status exited =>
      have told : { bridge with exits := bridge.exits ++ [status] }.Told :=
        .inr (.inr ⟨status, by simp [exits], exited, drained, returned⟩)
      exact Stands.finish told started closes fun _ => by simp
  · exact ⟨⟨present, exits, closes, drained, returned⟩, .inl exits, by simp [how?]⟩

theorem Stands.join (started : bridge.Started) (exits : bridge.exits = [])
    (closes : bridge.closes = 0) (drained : bridge.output.Drained) : bridge.join.Stands := by
  rw [Bridge.join]
  split
  · next returned => exact Stands.exit started.1 exits closes drained returned
  · next other _ => exact Stands.abort started exits closes other
  · exact ⟨⟨started, exits, closes, drained⟩, .inl exits, by simp [how?]⟩

theorem Stands.resume (stands : bridge.Stands) {count : ℕ}
    (ran : bridge.resume count = some after) :
    after.Stands := by
  have fits := stands.fits
  have returned := stands.returned
  rw [Bridge.resume] at ran
  split at ran
  · contradiction
  · contradiction
  · next stage =>
      rw [stage] at fits
      obtain ⟨started, exits, closes⟩ := fits
      split at ran
      · next output received =>
          obtain rfl := Option.some.inj ran
          exact Stands.join started exits closes (Pipe.receive_nil (receive_of_piece received)).2
      · obtain rfl := Option.some.inj ran
        exact ⟨⟨started, exits, closes⟩, .inl exits, by simp [how?]⟩
      · contradiction
  · next stage =>
      rw [stage] at fits
      obtain ⟨started, exits, closes⟩ := fits
      split at ran
      · contradiction
      · obtain rfl := Option.some.inj ran
        exact ⟨⟨started, exits, closes⟩, .inl exits, by simp [how?]⟩
  · next stage =>
      rw [stage] at fits
      obtain ⟨started, exits, closes, drained⟩ := fits
      split at ran
      · obtain rfl := Option.some.inj ran
        exact Stands.join started exits closes drained
      · contradiction
  · next stage =>
      rw [stage] at fits
      obtain ⟨present, exits, closes, drained, returned⟩ := fits
      split at ran
      · obtain rfl := Option.some.inj ran
        exact Stands.exit present exits closes drained returned
      · contradiction
  · next how stage =>
      rw [stage] at fits returned
      obtain ⟨input, errors, closes⟩ := fits
      split at ran
      · obtain rfl := Option.some.inj ran
        exact Stands.awaitInput stands.told (Pump.halted_of_stopping input) errors closes returned
      · contradiction
  · next how stage =>
      rw [stage] at fits returned
      obtain ⟨input, errors, closes⟩ := fits
      split at ran
      · obtain rfl := Option.some.inj ran
        exact Stands.awaitErrors stands.told input (Pump.halted_of_stopping errors) closes returned
      · contradiction
  · next how stage =>
      rw [stage] at fits returned
      split at ran
      · obtain rfl := Option.some.inj ran
        exact ⟨.inr (.inl fits), stands.told, returned⟩
      · contradiction

/-- A call that is cut short outside of its `try` block. -/
theorem Stands.drop (stands : bridge.Stands) (other : how ≠ .returned)
    (outside : bridge.stage = .opening ∨ ∃ kept, bridge.stage = .closing kept) :
    Stands { bridge with stage := .ended how } := by
  have fits := stands.fits
  have told : how? (.ended how) = some .returned → bridge.exits ≠ [] :=
    fun same => absurd (Option.some.inj same) other
  rcases outside with stage | ⟨kept, stage⟩
  · rw [stage] at fits
    obtain ⟨input, errors, -, closes, -⟩ := fits
    exact ⟨.inl ⟨input, errors, closes⟩, stands.told, told⟩
  · rw [stage] at fits
    exact ⟨.inr (.inl fits), stands.told, told⟩

/-- A call that is cut short in its `try` block, where it awaits no pump. -/
theorem Stands.interrupt (stands : bridge.Stands) (other : how ≠ .returned)
    (inside : bridge.stage = .receiving ∨ bridge.stage = .draining ∨ bridge.stage = .waiting) :
    (bridge.finish how).Stands := by
  have fits := stands.fits
  rcases inside with stage | stage | stage
  · rw [stage] at fits
    obtain ⟨started, exits, closes⟩ := fits
    exact Stands.abort started exits closes other
  · rw [stage] at fits
    obtain ⟨started, exits, closes⟩ := fits
    exact Stands.abort started exits closes other
  · rw [stage] at fits
    obtain ⟨present, exits, closes, drained, done⟩ := fits
    exact Stands.abort ⟨present, by simp [done]⟩ exits closes other

theorem Stands.cancel (stands : bridge.Stands) (ran : bridge.cancel = some after) :
    after.Stands := by
  have fits := stands.fits
  have returned := stands.returned
  rw [Bridge.cancel] at ran
  split at ran
  · next stage =>
      obtain rfl := Option.some.inj ran
      exact stands.drop (by simp) (.inl stage)
  · next how stage =>
      obtain rfl := Option.some.inj ran
      exact stands.drop (by simp) (.inr ⟨how, stage⟩)
  · next stage =>
      obtain rfl := Option.some.inj ran
      exact stands.interrupt (by simp) (.inl stage)
  · next stage =>
      obtain rfl := Option.some.inj ran
      exact stands.interrupt (by simp) (.inr (.inl stage))
  · next stage =>
      obtain rfl := Option.some.inj ran
      exact stands.interrupt (by simp) (.inr (.inr stage))
  · next stage =>
      rw [stage] at fits
      obtain ⟨started, exits, closes, drained⟩ := fits
      split at ran
      · obtain rfl := Option.some.inj ran
        exact Stands.abort started exits closes (by simp)
      · obtain rfl := Option.some.inj ran
        have still : Fits { bridge with stderrPump := bridge.stderrPump.cancel } .joining :=
          ⟨⟨started.1, mt Pump.cancel_eq_absent.mp started.2⟩, exits, closes, drained⟩
        exact ⟨stage ▸ still, .inl exits, by simp [stage, how?]⟩
  · next how stage =>
      rw [stage] at fits returned
      obtain ⟨input, errors, closes⟩ := fits
      split at ran
      · next ended present =>
          obtain rfl := Option.some.inj ran
          refine Stands.awaitErrors stands.told ?_ errors closes returned
          rw [present] at input ⊢
          exact input
      · obtain rfl := Option.some.inj ran
        exact stands
  · next how stage =>
      rw [stage] at fits returned
      obtain ⟨input, errors, closes⟩ := fits
      split at ran
      · next ended present =>
          obtain rfl := Option.some.inj ran
          have stopped : bridge.stderrPump.stopped = true := by
            rw [present] at errors ⊢
            exact errors
          exact ⟨⟨input, stopped, congrArg (· + 1) closes⟩, stands.told, returned⟩
      · obtain rfl := Option.some.inj ran
        exact stands
  · contradiction

theorem Aside.of_pumpErrors {count : ℕ} (ran : bridge.pumpStderrToChannel count = some after) :
    bridge.Aside after := by
  rw [pumpStderrToChannel] at ran
  split at ran
  · contradiction
  · contradiction
  · next receiving =>
      have step {pump : Pump} (present : pump ≠ .absent) : PumpStep bridge.stderrPump pump :=
        receiving ▸ .receive present
      split at ran
      · obtain rfl := Option.some.inj ran
        exact ⟨rfl, rfl, rfl, rfl, id, fun _ => id, .inl rfl, .inr (step (by simp))⟩
      · obtain rfl := Option.some.inj ran
        exact ⟨rfl, rfl, rfl, rfl, id, fun _ => id, .inl rfl, .inr (step (by simp))⟩
      · contradiction
  · next draining =>
      split at ran
      · contradiction
      · obtain rfl := Option.some.inj ran
        exact ⟨rfl, rfl, rfl, rfl, id, fun _ => id, .inl rfl, .inr (draining ▸ .drain (by simp))⟩
  · next cancelling =>
      obtain rfl := Option.some.inj ran
      exact ⟨rfl, rfl, rfl, rfl, id, fun _ => id, .inl rfl, .inr (cancelling ▸ .stop)⟩

theorem Aside.of_feed {items : List Item} (running : bridge.inputPump = .receiving)
    (given : bridge.feed items = some after) : bridge.Aside after := by
  have step {pump : Pump} (present : pump ≠ .absent) : PumpStep bridge.inputPump pump :=
    running ▸ .receive present
  rw [Bridge.feed.eq_def] at given
  split at given
  · obtain rfl := Option.some.inj given
    exact ⟨rfl, rfl, rfl, rfl, id, fun _ => id, .inr (step (by simp)), .inl rfl⟩
  · obtain rfl := Option.some.inj given
    exact ⟨rfl, rfl, rfl, rfl, id, fun _ => id, .inl rfl, .inl rfl⟩
  · obtain rfl := Option.some.inj given
    exact ⟨rfl, rfl, rfl, rfl, id, fun _ => id, .inl rfl, .inl rfl⟩
  · obtain rfl := Option.some.inj given
    exact ⟨rfl, rfl, rfl, rfl, id, fun _ => id, .inr (step (by simp)), .inl rfl⟩
  · split at given
    · obtain rfl := Option.some.inj given
      exact ⟨rfl, rfl, rfl, rfl, id, fun _ => id, .inl rfl, .inl rfl⟩
    · contradiction

theorem Aside.of_pumpInput {count : ℕ} (ran : bridge.pumpChannelToProcess count = some after) :
    bridge.Aside after := by
  rw [pumpChannelToProcess] at ran
  split at ran
  · contradiction
  · contradiction
  · contradiction
  · next running =>
      split at ran
      · next items input received =>
          have still : { bridge with input }.inputPump = .receiving := running
          exact { Aside.of_feed still ran with }
      · contradiction
  · next cancelling =>
      obtain rfl := Option.some.inj ran
      exact ⟨rfl, rfl, rfl, rfl, id, fun _ => id, .inr (cancelling ▸ .stop), .inl rfl⟩

theorem Stands.step (stands : bridge.Stands) {event : Event}
    (ran : bridge.next event = some after) :
    after.Stands := by
  cases event with
  | opened =>
      simp only [next] at ran
      split at ran
      · next opening =>
          have fits := stands.fits
          rw [opening] at fits
          obtain ⟨-, -, exits, closes, -⟩ := fits
          obtain rfl := Option.some.inj ran
          exact ⟨⟨⟨by simp, by simp⟩, exits, closes⟩, .inl exits, by simp [how?]⟩
      · contradiction
  | openFailed =>
      simp only [next] at ran
      split at ran
      · next opening =>
          have fits := stands.fits
          rw [opening] at fits
          obtain ⟨input, errors, -, closes, -⟩ := fits
          obtain rfl := Option.some.inj ran
          exact ⟨.inl ⟨input, errors, closes⟩, .inr (.inl ⟨rfl, rfl⟩), by simp⟩
      · contradiction
  | print data =>
      obtain ⟨output, written, rfl⟩ := Option.map_eq_some_iff.mp ran
      exact stands.aside ⟨rfl, rfl, rfl, rfl, fun drained =>
        absurd drained (Pipe.not_drained_of_write written), fun _ => id, .inl rfl, .inl rfl⟩
  | complain data =>
      obtain ⟨errors, written, rfl⟩ := Option.map_eq_some_iff.mp ran
      exact stands.aside ⟨rfl, rfl, rfl, rfl, id, fun _ => id, .inl rfl, .inl rfl⟩
  | endOutput =>
      obtain rfl := Option.some.inj ran
      exact stands.aside ⟨rfl, rfl, rfl, rfl, Pipe.Drained.close, fun _ => id, .inl rfl, .inl rfl⟩
  | endErrors | endInput | pauseWriting | resumeWriting =>
      obtain rfl := Option.some.inj ran
      exact stands.aside ⟨rfl, rfl, rfl, rfl, id, fun _ => id, .inl rfl, .inl rfl⟩
  | exit status =>
      simp only [next] at ran
      split at ran
      · contradiction
      · next running =>
          obtain rfl := Option.some.inj ran
          refine stands.aside ⟨rfl, rfl, rfl, rfl, id, fun known exited => ?_, .inl rfl, .inl rfl⟩
          exact absurd (Option.isSome_of_mem exited) running
  | type items =>
      obtain ⟨input, written, rfl⟩ := Option.map_eq_some_iff.mp ran
      exact stands.aside ⟨rfl, rfl, rfl, rfl, id, fun _ => id, .inl rfl, .inl rfl⟩
  | bridge count => exact stands.resume ran
  | pumpErrors count => exact stands.aside (.of_pumpErrors ran)
  | pumpInput count => exact stands.aside (.of_pumpInput ran)
  | bridgeRaises =>
      simp only [next] at ran
      split at ran
      · next stage =>
          obtain rfl := Option.some.inj ran
          exact stands.drop (by simp) (.inl stage)
      · next how stage =>
          obtain rfl := Option.some.inj ran
          exact stands.drop (by simp) (.inr ⟨how, stage⟩)
      · next stage =>
          obtain rfl := Option.some.inj ran
          exact stands.interrupt (by simp) (.inl stage)
      · next stage =>
          obtain rfl := Option.some.inj ran
          exact stands.interrupt (by simp) (.inr (.inl stage))
      · next stage =>
          obtain rfl := Option.some.inj ran
          exact stands.interrupt (by simp) (.inr (.inr stage))
      · contradiction
  | errorsRaise =>
      simp only [next] at ran
      split at ran
      · next receiving =>
          obtain rfl := Option.some.inj ran
          exact stands.aside ⟨rfl, rfl, rfl, rfl, id, fun _ => id, .inl rfl,
            .inr (receiving ▸ .receive (by simp))⟩
      · next draining =>
          obtain rfl := Option.some.inj ran
          exact stands.aside ⟨rfl, rfl, rfl, rfl, id, fun _ => id, .inl rfl,
            .inr (draining ▸ .drain (by simp))⟩
      · contradiction
  | inputRaises =>
      simp only [next] at ran
      split at ran
      · next receiving =>
          obtain rfl := Option.some.inj ran
          exact stands.aside ⟨rfl, rfl, rfl, rfl, id, fun _ => id,
            .inr (receiving ▸ .receive (by simp)), .inl rfl⟩
      · contradiction
  | cancel => exact stands.cancel ran

/-- What every call keeps. -/
structure Sound (bridge : Bridge) : Prop where
  flows : bridge.Flows
  stands : bridge.Stands

theorem Sound.step (sound : bridge.Sound) {event : Event} (ran : bridge.next event = some after) :
    after.Sound := by
  refine ⟨sound.flows.step (fun opening => ?_) sound.stands.fits.present ran,
    sound.stands.step ran⟩
  have fits := sound.stands.fits
  rw [opening] at fits
  obtain ⟨input, errors, -, -, unrefused⟩ := fits
  exact ⟨input, errors, unrefused⟩

theorem initial_sound (terminal : Option TerminalSize) : ({ terminal } : Bridge).Sound where
  flows := by constructor <;> simp
  stands := ⟨⟨rfl, rfl, rfl, rfl, rfl⟩, .inl rfl, by simp [how?]⟩

theorem sound_of_reaches {terminal : Option TerminalSize}
    (reach : machine.Reaches (fun _ _ => True) { terminal } bridge) : bridge.Sound :=
  reach.keeps Sound (fun sound _ ran => sound.step ran) (initial_sound terminal)

/-- Each stream arrives in order, with nothing lost before what arrived.  The end of the input comes
once, behind all of it.  An exit status is told once: behind all that the sandbox process wrote to
both of its streams, or with the text of a refusal, and then nothing else went either way. -/
theorem session_in_order (terminal : Option TerminalSize) (bridge : Bridge)
    (reach : machine.Reaches (fun _ _ => True) { terminal } bridge) :
    bridge.stdout <+: bridge.output.sent ∧
      (bridge.refused = false → bridge.stderr <+: bridge.errors.sent) ∧
      bridge.fed <+: bridge.input.sent.filterMap Item.byte? ∧
      bridge.sizes <+: bridge.input.sent.filterMap Item.size? ∧
      (bridge.eofs = 0 ∨
        bridge.eofs = 1 ∧ bridge.input.ended = true ∧
          bridge.fed = bridge.input.sent.filterMap Item.byte? ∧
          bridge.sizes = bridge.input.sent.filterMap Item.size?) ∧
      (bridge.exits = [] ∨
        bridge.refused = true ∧ bridge.exits = [255] ∨
          ∃ status, bridge.exits = [status] ∧ bridge.exited = some status ∧
            bridge.output.ended = true ∧ bridge.stdout = bridge.output.sent ∧
            bridge.errors.ended = true ∧ bridge.stderr = bridge.errors.sent) ∧
      (bridge.refused = true →
        bridge.stdout = [] ∧ bridge.stderr = refusal ∧ bridge.fed = [] ∧ bridge.sizes = [] ∧
          bridge.eofs = 0 ∧ bridge.exits = [255]) := by
  obtain ⟨flows, stands⟩ := sound_of_reaches reach
  refine ⟨?_, fun unrefused => ?_, ?_, ?_, ?_, ?_, fun refused => ?_⟩
  · rw [flows.stdout]
    exact Pipe.taken_prefix _
  · rw [flows.stderr, unrefused]
    exact Pipe.taken_prefix _
  · rw [flows.fed]
    exact (Pipe.taken_prefix _).filterMap _
  · rw [flows.sizes]
    exact (Pipe.taken_prefix _).filterMap _
  · have eofs := flows.eofs
    split at eofs
    · next returned =>
        have drained := flows.input returned
        rw [flows.fed, flows.sizes, drained.taken_eq]
        exact .inr ⟨eofs, drained.1, rfl, rfl⟩
    · exact .inl eofs
  · rcases stands.told with silent | refused | ⟨status, exits, exited, drained, returned⟩
    · exact .inl silent
    · exact .inr (.inl refused)
    · have errors := flows.errors returned
      have unrefused : bridge.refused = false := by
        rw [Bool.eq_false_iff]
        intro refused
        have absent := (flows.refused refused).2.1
        rw [returned] at absent
        contradiction
      refine .inr (.inr ⟨status, exits, exited, drained.1, ?_, errors.1, ?_⟩)
      · rw [flows.stdout, drained.taken_eq]
      · rw [flows.stderr, unrefused, errors.taken_eq]
        rfl
  · obtain ⟨input, errors, exits⟩ := flows.refused refused
    obtain ⟨output, complaints⟩ := flows.idle errors
    have unfed := flows.still input
    refine ⟨flows.stdout.trans output, ?_, ?_, ?_, ?_, exits⟩
    · rw [flows.stderr, refused, complaints]
      rfl
    · rw [flows.fed, unfed]
      rfl
    · rw [flows.sizes, unfed]
      rfl
    · rw [flows.eofs, if_neg (by simp [input])]

theorem Fits.closes_le {stage : Stage} (fits : bridge.Fits stage) : bridge.closes ≤ 1 := by
  cases stage with
  | opening =>
      obtain ⟨-, -, -, closes, -⟩ := fits
      omega
  | joining | waiting =>
      obtain ⟨-, -, closes, -⟩ := fits
      omega
  | receiving | draining | endingInput | endingErrors | closing =>
      obtain ⟨-, -, closes⟩ := fits
      omega
  | ended =>
      rcases fits with ⟨-, -, closes⟩ | ⟨-, -, closes⟩ | ⟨-, -, -, closes⟩
      · omega
      · omega
      · omega

/-- The input of a caller is cancelled at the end of a session. -/
theorem session_in_order_exit :
    ∃ bridge : Bridge, machine.Reaches (fun _ _ => True) { terminal := none } bridge ∧
      bridge.stdout = [104, 105] ∧ bridge.stderr = [33] ∧ bridge.exits = [5] ∧
      bridge.fed <+: bridge.input.sent.filterMap Item.byte? := by
  have reach : machine.Reaches (fun _ _ => True) ({ terminal := none } : Bridge) _ :=
    Machine.reaches_of_run
      [.opened, .print [104, 105], .type [.byte 97, .byte 98], .pumpInput 1, .complain [33],
        .endOutput, .endErrors, .exit 5, .bridge 2, .bridge 0, .bridge 0, .pumpErrors 1,
        .pumpErrors 0, .pumpErrors 0, .bridge 0, .pumpInput 0, .bridge 0, .bridge 0]
      (by simp) rfl
  exact ⟨_, reach, rfl, rfl, rfl, (session_in_order none _ reach).2.2.1⟩

/-- A call that is over has closed its sandbox process once, and its pumps have ended, unless a pump
raised: then it has not closed it.  A call that returned has told its caller of the end. -/
theorem session_closes (terminal : Option TerminalSize) (bridge : Bridge)
    (reach : machine.Reaches (fun _ _ => True) { terminal } bridge) :
    bridge.closes ≤ 1 ∧
      ∀ how, bridge.stage = .ended how →
        (bridge.closes = 1 ↔ bridge.Started ∧ bridge.inputPump ≠ .ended .raised ∧
          bridge.stderrPump ≠ .ended .raised) ∧
        (bridge.closes = 1 →
          (∃ way, bridge.inputPump = .ended way) ∧ ∃ way, bridge.stderrPump = .ended way) ∧
        (how = .returned → bridge.exits ≠ []) := by
  obtain ⟨-, stands⟩ := sound_of_reaches reach
  refine ⟨stands.fits.closes_le, fun how stage => ?_⟩
  have fits := stands.fits
  have returned := stands.returned
  rw [stage] at fits returned
  have told : how = .returned → bridge.exits ≠ [] := fun same => returned (congrArg some same)
  rcases fits with ⟨input, errors, closes⟩ | ⟨input, errors, closes⟩ |
    ⟨raised, input, errors, closes⟩
  · refine ⟨⟨fun one => by omega, fun started => absurd input started.1.1⟩,
      fun one => by omega, told⟩
  · obtain ⟨first, input, quiet⟩ := Pump.exists_of_stopped input
    obtain ⟨second, errors, silent⟩ := Pump.exists_of_stopped errors
    refine ⟨⟨fun _ => ?_, fun _ => closes⟩, fun _ => ⟨⟨first, input⟩, second, errors⟩, told⟩
    simp [Started, input, errors, quiet, silent]
  · refine ⟨⟨fun one => by omega, fun ⟨_, quiet, silent⟩ => ?_⟩, fun one => by omega, told⟩
    exact (raised.elim quiet silent).elim

/-- A signal of the caller ends the pump of the input, and then the process is not closed. -/
theorem session_closes_signal :
    ∃ bridge : Bridge, machine.Reaches (fun _ _ => True) { terminal := none } bridge ∧
      bridge.exits = [5] ∧ bridge.stage = .ended .raised ∧ bridge.closes ≠ 1 := by
  have reach : machine.Reaches (fun _ _ => True) ({ terminal := none } : Bridge) _ :=
    Machine.reaches_of_run
      [.opened, .type [.uncaught], .pumpInput 1, .endOutput, .endErrors, .exit 5, .bridge 0,
        .pumpErrors 0, .bridge 0]
      (by simp) rfl
  obtain ⟨closes, -, -⟩ := (session_closes none _ reach).2 .raised rfl
  exact ⟨_, reach, rfl, rfl, fun one => (closes.mp one).2.1 rfl⟩

end Bridge

end Drukbox.Gateway.Session
