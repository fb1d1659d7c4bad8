import Drukbox.Await.Machine
import Mathlib.Data.Nat.Notation
import Mathlib.Logic.Function.Basic

/-!
# The tunnel of a caller connection

The forwarded channels of a caller share one tunnel into the sandbox.  Each call of
`connection_requested` that awaits a failed opening clears `_tunnel`, whatever `_tunnel` holds by
then.  Where no call starts an opening before all of these have run, and none starts one after
`connection_lost`, the connection has one tunnel at most and closes every one.
-/

namespace Drukbox.Gateway

open Await

def loopback : List String := ["127.0.0.1", "localhost"]

/-- The future in `_tunnel`, with the tunnel that it holds. -/
inductive Opening
  /-- `open_gateway_tunnel` has not ended. -/
  | pending
  | opened
  /-- `ProviderError`. -/
  | failed
  /-- Any other exception. -/
  | raised
  /-- `cancel` was called before the end. -/
  | cancelled
  /-- `close` was called on the tunnel. -/
  | closed
  deriving DecidableEq, Repr

/-- The tunnel is open or being opened. -/
def Opening.live : Opening → Bool
  | pending | opened => true
  | failed | raised | cancelled | closed => false

/-- How `open_gateway_tunnel` ends. -/
inductive Outcome
  | tunnel
  /-- `ProviderError`. -/
  | providerError
  /-- Any other exception. -/
  | otherError
  deriving DecidableEq, Repr

/-- The future after the end. -/
def Outcome.opening : Outcome → Opening
  | tunnel => .opened
  | providerError => .failed
  | otherError => .raised

structure ChannelOpenError where
  code : ℕ
  reason : String
  deriving DecidableEq, Repr

/-- `OPEN_ADMINISTRATIVELY_PROHIBITED`. -/
def prohibited : ChannelOpenError where
  code := 1
  reason := "only sandbox loopback is allowed"

/-- `OPEN_CONNECT_FAILED`. -/
def connectFailed : ChannelOpenError where
  code := 2
  reason := "cannot connect to this host"

/-- How far a call of `connection_requested` has come. -/
inductive Request
  /-- It awaits the future. -/
  | awaiting (opening : ℕ)
  /-- It has the tunnel, and forwards the channel through it. -/
  | forwarding (opening : ℕ)
  | refused (error : ChannelOpenError)
  /-- Another exception of the future. -/
  | raised
  deriving DecidableEq, Repr

/-- `GatewayConnection`, with its calls `ι` of `connection_requested`. -/
structure Connection (ι : Type) where
  /-- The futures by number, in the order of their start. -/
  openings : ℕ → Option Opening := fun _ => none
  started : ℕ := 0
  /-- `_tunnel`. -/
  tunnel : Option ℕ := none
  /-- `connection_lost` was called. -/
  lost : Bool := false
  requests : ι → Option Request := fun _ => none

namespace Connection

variable {ι : Type} [DecidableEq ι]

def setRequest (connection : Connection ι) (task : ι) (request : Request) : Connection ι :=
  { connection with requests := Function.update connection.requests task (some request) }

omit [DecidableEq ι] in
def setOpening (connection : Connection ι) (number : ℕ) (opening : Opening) : Connection ι :=
  { connection with openings := Function.update connection.openings number (some opening) }

omit [DecidableEq ι] in
/-- `self._tunnel = asyncio.ensure_future(...)`. -/
def start (connection : Connection ι) : Connection ι :=
  { connection.setOpening connection.started .pending with
    started := connection.started + 1
    tunnel := some connection.started }

/-- `await self._tunnel` and what follows.  A future that is done does not suspend the call. -/
def resume (connection : Connection ι) (task : ι) (number : ℕ) : Connection ι :=
  match connection.openings number with
  | some .opened | some .closed => connection.setRequest task (.forwarding number)
  | some .failed => { connection with tunnel := none }.setRequest task (.refused connectFailed)
  | some .raised | some .cancelled => connection.setRequest task .raised
  | some .pending | none => connection.setRequest task (.awaiting number)

/-- `connection_requested` up to its first suspension. -/
def connectionRequested (connection : Connection ι) (task : ι) (destHost : String) :
    Connection ι :=
  if destHost ∉ loopback then
    connection.setRequest task (.refused prohibited)
  else
    match connection.tunnel with
    | some number => connection.resume task number
    | none => connection.start.resume task connection.started

omit [DecidableEq ι] in
def connectionLost (connection : Connection ι) : Connection ι :=
  match connection.tunnel with
  | none => { connection with lost := true }
  | some number =>
      match connection.openings number with
      | some .pending => { connection.setOpening number .cancelled with lost := true }
      | some .opened => { connection.setOpening number .closed with lost := true }
      | _ => { connection with lost := true }

end Connection

/-- What the event loop may run next. -/
inductive Event (ι : Type)
  /-- A call begins. -/
  | request (task : ι) (destHost : String)
  /-- An opening ends. -/
  | settle (number : ℕ) (outcome : Outcome)
  /-- A call whose future is done goes on. -/
  | resume (task : ι)
  | lose
  deriving DecidableEq, Repr

namespace Connection

variable {ι : Type} [DecidableEq ι]

def next (connection : Connection ι) : Event ι → Option (Connection ι)
  | .request task destHost =>
      match connection.requests task with
      | none => some (connection.connectionRequested task destHost)
      | some _ => none
  | .settle number outcome =>
      if connection.openings number = some .pending then
        some (connection.setOpening number outcome.opening)
      else none
  | .resume task =>
      match connection.requests task with
      | some (.awaiting number) =>
          if connection.openings number = some .pending then none
          else some (connection.resume task number)
      | _ => none
  | .lose => if connection.lost then none else some connection.connectionLost

/-- The event loop.  A call may go on at any time after its future is done. -/
def machine : Machine (Connection ι) (Event ι) where
  next := next

/-- The tunnel is open or being opened. -/
def Live (connection : Connection ι) (number : ℕ) : Prop :=
  ∃ opening, connection.openings number = some opening ∧ opening.live

/-- The connection has one tunnel at most, it holds that tunnel, and it has none once it is lost. -/
structure Owned (connection : Connection ι) : Prop where
  one : ∀ first second, connection.Live first → connection.Live second → first = second
  held : ∀ number, connection.Live number → connection.tunnel = some number
  closed : connection.lost → ∀ number, ¬ connection.Live number

/-- A call still awaits an opening that failed. -/
def Late (connection : Connection ι) (task : ι) : Prop :=
  ∃ number, connection.requests task = some (.awaiting number) ∧
    connection.openings number = some .failed

/-- A call starts an opening only after every call that awaited a failed one has gone on, and
before the connection is lost. -/
def InTurn (connection : Connection ι) : Event ι → Prop
  | .request _ destHost =>
      destHost ∈ loopback → connection.tunnel = none →
        connection.lost = false ∧ ∀ task, ¬ connection.Late task
  | .settle _ _ | .resume _ | .lose => True

structure Sound (connection : Connection ι) : Prop where
  held : ∀ {number}, connection.Live number → connection.tunnel = some number
  closed : connection.lost → ∀ {number}, ¬ connection.Live number
  /-- A late call finds the tunnel that it awaited, or none. -/
  late : ∀ {task number}, connection.requests task = some (.awaiting number) →
    connection.openings number = some .failed →
      connection.tunnel = none ∨ connection.tunnel = some number
  made : ∀ {number opening}, connection.openings number = some opening →
    number < connection.started

variable {connection after : Connection ι} {task : ι} {number : ℕ}

omit [DecidableEq ι] in
theorem Sound.owned (sound : connection.Sound) : connection.Owned where
  one _ _ first second := Option.some.inj ((sound.held first).symm.trans (sound.held second))
  held _ := sound.held
  closed lost _ := sound.closed lost

omit [DecidableEq ι] in
theorem initial_sound : ({} : Connection ι).Sound where
  held live := by
    obtain ⟨opening, present, -⟩ := live
    contradiction
  closed lost := absurd lost Bool.false_ne_true
  late _ failed := by contradiction
  made present := by contradiction

omit [DecidableEq ι] in
theorem not_live_of_failed (failed : connection.openings number = some .failed) :
    ¬ connection.Live number := by
  rintro ⟨opening, present, live⟩
  obtain rfl := Option.some.inj (failed.symm.trans present)
  contradiction

omit [DecidableEq ι] in
theorem openings_setOpening (opening : Opening) (other : ℕ) :
    (connection.setOpening number opening).openings other =
      if other = number then some opening else connection.openings other := by
  simp only [setOpening, Function.update_apply]

omit [DecidableEq ι] in
/-- After a future was written, the others are live as before. -/
theorem live_setOpening {opening : Opening} {other : ℕ}
    (live : (connection.setOpening number opening).Live other) :
    other = number ∧ opening.live ∨ other ≠ number ∧ connection.Live other := by
  obtain ⟨found, present, live⟩ := live
  rw [openings_setOpening] at present
  split at present
  · next same =>
      obtain rfl := Option.some.inj present
      exact .inl ⟨same, live⟩
  · next different => exact .inr ⟨different, found, present, live⟩

omit [DecidableEq ι] in
theorem Sound.made_setOpening (sound : connection.Sound) {opening : Opening}
    (made : number < connection.started) {other : ℕ} {found : Opening}
    (present : (connection.setOpening number opening).openings other = some found) :
    other < connection.started := by
  rw [openings_setOpening] at present
  split at present
  · next same => exact same ▸ made
  · exact sound.made present

theorem Sound.setRequest (sound : connection.Sound) {request : Request}
    (fits : ∀ number, request = .awaiting number → connection.openings number = some .failed →
      connection.tunnel = none ∨ connection.tunnel = some number) :
    (connection.setRequest task request).Sound := by
  refine ⟨sound.held, sound.closed, fun {other number} awaiting failed => ?_, sound.made⟩
  simp only [Connection.setRequest, Function.update_apply] at awaiting
  split at awaiting
  · exact fits number (Option.some.inj awaiting) failed
  · exact sound.late awaiting failed

omit [DecidableEq ι] in
/-- A failed opening that is in the field, or in no field, can be cleared. -/
theorem Sound.clear (sound : connection.Sound) (failed : connection.openings number = some .failed)
    (own : connection.tunnel = none ∨ connection.tunnel = some number) :
    { connection with tunnel := none }.Sound := by
  have idle {other : ℕ} (live : connection.Live other) : False := by
    have held := sound.held live
    rcases own with none | own
    · rw [none] at held
      contradiction
    · obtain rfl := Option.some.inj (own.symm.trans held)
      exact not_live_of_failed failed live
  exact ⟨fun live => (idle live).elim, fun _ _ live => idle live, fun _ _ => .inl rfl, sound.made⟩

theorem Sound.resume (sound : connection.Sound)
    (own : connection.openings number = some .failed →
      connection.tunnel = none ∨ connection.tunnel = some number) :
    (connection.resume task number).Sound := by
  rw [Connection.resume]
  split
  · exact sound.setRequest (by simp)
  · exact sound.setRequest (by simp)
  · next failed => exact (sound.clear failed (own failed)).setRequest (by simp)
  · exact sound.setRequest (by simp)
  · exact sound.setRequest (by simp)
  · next pending =>
      refine sound.setRequest fun other same failed => ?_
      obtain rfl := Request.awaiting.inj same
      exact own failed
  · next missing =>
      refine sound.setRequest fun other same failed => ?_
      obtain rfl := Request.awaiting.inj same
      exact own failed

omit [DecidableEq ι] in
theorem Sound.start (sound : connection.Sound) (empty : connection.tunnel = none)
    (present : connection.lost = false) (prompt : ∀ task, ¬ connection.Late task) :
    connection.start.Sound := by
  refine ⟨fun {other} live => ?_, fun lost => ?_, fun {task number} awaiting failed => ?_,
    fun {number opening} present => ?_⟩
  · rcases live_setOpening live with ⟨rfl, -⟩ | ⟨-, live⟩
    · rfl
    · have held := sound.held live
      rw [empty] at held
      contradiction
  · exact absurd lost (by simp [Connection.start, setOpening, present])
  · by_cases same : number = connection.started
    · exact .inr (congrArg some same.symm)
    · have before : connection.openings number = some .failed := by
        simpa [Connection.start, setOpening, same] using failed
      exact (prompt task ⟨number, awaiting, before⟩).elim
  · have present : (connection.setOpening connection.started .pending).openings number =
        some opening := present
    rw [openings_setOpening] at present
    split at present
    · next same => exact same ▸ Nat.lt_succ_self _
    · exact Nat.lt_succ_of_lt (sound.made present)

theorem Sound.request (sound : connection.Sound) {destHost : String}
    (turn : connection.InTurn (.request task destHost)) :
    (connection.connectionRequested task destHost).Sound := by
  rw [connectionRequested]
  split
  · exact sound.setRequest (by simp)
  · next allowed =>
      split
      · next number held => exact sound.resume fun _ => .inr held
      · next empty =>
          obtain ⟨present, prompt⟩ := turn (not_not.mp allowed) empty
          refine (sound.start empty present prompt).resume fun _ => .inr rfl

omit [DecidableEq ι] in
theorem Sound.settle (sound : connection.Sound)
    (pending : connection.openings number = some .pending) (outcome : Outcome) :
    (connection.setOpening number outcome.opening).Sound := by
  have live : connection.Live number := ⟨_, pending, rfl⟩
  have held := sound.held live
  refine ⟨fun {other} left => ?_, fun lost => absurd live (sound.closed lost),
    fun {task other} awaiting failed => ?_, sound.made_setOpening (sound.made pending)⟩
  · rcases live_setOpening left with ⟨rfl, -⟩ | ⟨-, before⟩
    · exact held
    · exact sound.held before
  · by_cases same : other = number
    · exact .inr (same ▸ held)
    · refine sound.late awaiting ?_
      simpa [setOpening, same] using failed

omit [DecidableEq ι] in
theorem Sound.lose (sound : connection.Sound) : connection.connectionLost.Sound := by
  have idle_of_dead (dead : ∀ {number}, ¬ connection.Live number) :
      { connection with lost := true }.Sound :=
    ⟨fun live => (dead live).elim, fun _ _ live => dead live, sound.late, sound.made⟩
  have ended {number : ℕ} {before : Opening} (opening : Opening) (dead : opening.live = false)
      (other : opening ≠ .failed) (held : connection.tunnel = some number)
      (present : connection.openings number = some before) :
      { connection.setOpening number opening with lost := true }.Sound := by
    have idle {other : ℕ} (live : (connection.setOpening number opening).Live other) : False := by
      rcases live_setOpening live with ⟨-, live⟩ | ⟨different, live⟩
      · rw [dead] at live
        contradiction
      · exact different (Option.some.inj ((sound.held live).symm.trans held))
    refine ⟨fun live => (idle live).elim, fun _ _ live => idle live,
      fun {task waited} awaiting failed => ?_, sound.made_setOpening (sound.made present)⟩
    have failed : (connection.setOpening number opening).openings waited = some .failed := failed
    rw [openings_setOpening] at failed
    split at failed
    · exact absurd (Option.some.inj failed) other
    · exact sound.late awaiting failed
  rw [connectionLost]
  split
  · next empty =>
      refine idle_of_dead fun live => ?_
      have held := sound.held live
      rw [empty] at held
      contradiction
  · next number held =>
      split
      · next pending => exact ended .cancelled rfl (by decide) held pending
      · next opened => exact ended .closed rfl (by decide) held opened
      · next pending opened =>
          refine idle_of_dead fun {other} live => ?_
          obtain rfl := Option.some.inj (held.symm.trans (sound.held live))
          obtain ⟨opening, present, alive⟩ := live
          cases opening with
          | pending => exact pending present
          | opened => exact opened present
          | failed | raised | cancelled | closed => contradiction

/-- One section keeps the tunnel. -/
theorem Sound.step (sound : connection.Sound) {event : Event ι} (turn : connection.InTurn event)
    (step : connection.next event = some after) : after.Sound := by
  cases event with
  | request task destHost =>
      simp only [next] at step
      split at step
      · obtain rfl := Option.some.inj step
        exact sound.request turn
      · contradiction
  | settle number outcome =>
      simp only [next] at step
      split at step
      · next pending =>
          obtain rfl := Option.some.inj step
          exact sound.settle pending outcome
      · contradiction
  | resume task =>
      simp only [next] at step
      split at step
      · next number awaiting =>
          split at step
          · contradiction
          · obtain rfl := Option.some.inj step
            exact sound.resume (sound.late awaiting)
      · contradiction
  | lose =>
      simp only [next] at step
      split at step
      · contradiction
      · obtain rfl := Option.some.inj step
        exact sound.lose

omit [DecidableEq ι] in
theorem openings_start (other : ℕ) :
    connection.start.openings other =
      if other = connection.started then some .pending else connection.openings other :=
  openings_setOpening _ _

theorem resume_start :
    connection.start.resume task connection.started =
      connection.start.setRequest task (.awaiting connection.started) := by
  have pending : connection.start.openings connection.started = some .pending := by
    rw [openings_start, if_pos rfl]
  rw [Connection.resume, pending]

theorem next_resume (awaiting : connection.requests task = some (.awaiting number))
    (failed : connection.openings number = some .failed) :
    connection.next (.resume task) =
      some ({ connection with tunnel := none }.setRequest task (.refused connectFailed)) := by
  simp [next, awaiting, failed, Connection.resume]

/-- A call that starts an opening out of turn.  Either nothing ends that opening, or a call that
awaits another one forgets it. -/
theorem Sound.out_of_turn (sound : connection.Sound) {event : Event ι}
    (step : connection.next event = some after) (out : ¬ connection.InTurn event) :
    ∃ later, (later = after ∨ ∃ other, after.next (.resume other) = some later) ∧
      ¬ later.Owned := by
  cases event with
  | settle _ _ | resume _ | lose => exact absurd trivial out
  | request task destHost =>
      simp only [InTurn, Classical.not_imp] at out
      obtain ⟨allowed, empty, out⟩ := out
      simp only [next] at step
      split at step
      · next fresh =>
          obtain rfl := Option.some.inj step
          have started : connection.connectionRequested task destHost =
              connection.start.setRequest task (.awaiting connection.started) := by
            rw [connectionRequested, if_neg (not_not.mpr allowed), empty]
            exact resume_start
          rw [started]
          have pending : connection.start.openings connection.started = some .pending := by
            rw [openings_start, if_pos rfl]
          by_cases lost : connection.lost
          · exact ⟨_, .inl rfl, fun owned => owned.closed lost _ ⟨_, pending, rfl⟩⟩
          · have late : ∃ other, connection.Late other := by
              by_contra prompt
              exact out ⟨Bool.eq_false_iff.mpr lost, not_exists.mp prompt⟩
            obtain ⟨other, number, awaiting, failed⟩ := late
            have different : other ≠ task := by
              rintro rfl
              rw [fresh] at awaiting
              contradiction
            have earlier : number ≠ connection.started := Nat.ne_of_lt (sound.made failed)
            have failed : connection.start.openings number = some .failed := by
              rw [openings_start, if_neg earlier, failed]
            have still : (connection.start.setRequest task
                (.awaiting connection.started)).requests other = some (.awaiting number) := by
              rw [Connection.setRequest]
              exact (Function.update_of_ne different ..).trans awaiting
            refine ⟨_, .inr ⟨other, next_resume still failed⟩, fun owned => ?_⟩
            have held := owned.held connection.started ⟨_, pending, rfl⟩
            contradiction
      · contradiction

/-- In every run in which a call starts an opening only in its turn, the connection has one tunnel
at most, holds it, and ends it when it is lost.  Otherwise it does not. -/
theorem tunnel_owned (connection : Connection ι) (reach : machine.Reaches InTurn {} connection) :
    connection.Owned ∧
    ∀ event after, connection.next event = some after → ¬ connection.InTurn event →
      ∃ later, (later = after ∨ ∃ other, after.next (.resume other) = some later) ∧
        ¬ later.Owned := by
  have sound : connection.Sound :=
    reach.keeps Sound (fun sound turn step => sound.step turn step) initial_sound
  exact ⟨sound.owned, fun event after step out => sound.out_of_turn step out⟩

/-- Whether one of four channels starts an opening in its turn only. -/
def isInTurn (connection : Connection (Fin 4)) : Event (Fin 4) → Bool
  | .request _ _ =>
      decide (connection.lost = false ∧ ∀ task : Fin 4,
        (match connection.requests task with
        | some (.awaiting number) => decide (connection.openings number ≠ some .failed)
        | _ => true) = true)
  | .settle _ _ | .resume _ | .lose => true

theorem isInTurn_sound (connection : Connection (Fin 4)) (event : Event (Fin 4))
    (passes : isInTurn connection event) : connection.InTurn event := by
  cases event with
  | settle | resume | lose => trivial
  | request task destHost =>
      intro _ _
      obtain ⟨open_, prompt⟩ := of_decide_eq_true passes
      refine ⟨open_, fun other ⟨number, awaiting, failed⟩ => ?_⟩
      have still := prompt other
      simp only [awaiting, failed, ne_eq, not_true_eq_false, decide_false] at still
      contradiction

/-- Two channels share an opening that fails, two others the next one, and the caller goes. -/
def sharedOpenings {ι : Type} (first second third fourth : ι) : List (Event ι) :=
  [.request first "localhost", .request second "127.0.0.1", .settle 0 .providerError,
    .resume first, .resume second, .request third "localhost", .request fourth "localhost",
    .settle 1 .tunnel, .resume third, .resume fourth, .lose]

theorem tunnel_owned_shared :
    ∃ connection : Connection (Fin 4), machine.Reaches InTurn {} connection ∧
      connection.requests 1 = some (.refused connectFailed) ∧
      connection.requests 2 = some (.forwarding 1) ∧
      connection.requests 3 = some (.forwarding 1) ∧
      connection.openings 1 = some .closed ∧ connection.Owned := by
  have reach : machine.Reaches InTurn ({} : Connection (Fin 4)) _ :=
    Machine.reaches_of_runChecked isInTurn isInTurn_sound (sharedOpenings 0 1 2 3) rfl
  exact ⟨_, reach, rfl, rfl, rfl, rfl, (tunnel_owned _ reach).1⟩

/-- Two calls meet an opening that failed, before the call that awaits it goes on: the one clears
`_tunnel`, the other starts an opening.  The first call then clears `_tunnel` again, and the next
channel opens a second tunnel. -/
theorem tunnel_forgotten :
    ¬ ∀ connection : Connection ℕ,
      machine.Reaches (fun _ _ => True) {} connection → connection.Owned := by
  intro owned
  have reach : machine.Reaches (fun _ _ => True) ({} : Connection ℕ) _ :=
    Machine.reaches_of_run
      [.request 0 "localhost", .settle 0 .providerError, .request 1 "localhost",
        .request 2 "localhost", .resume 0, .request 3 "localhost"]
      (by simp) rfl
  have same := (owned _ reach).one 1 2 ⟨.pending, rfl, rfl⟩ ⟨.pending, rfl, rfl⟩
  contradiction

end Connection

end Drukbox.Gateway
