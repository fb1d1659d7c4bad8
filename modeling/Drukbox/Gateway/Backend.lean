import Drukbox.Await.Machine
import Mathlib.Data.Int.Notation
import Mathlib.Data.Nat.Notation
import Mathlib.Logic.Function.Basic

/-!
# The SFTP backend of a caller connection

`SandboxSftpBackend` as a machine whose steps are the sections between two `await`s: of the
sessions, of `aclose`, and of the idle timers.  Opening and teardown suspend inside the lock.  The
`sftp-server` process and the task that receives from it can end at any time.
-/

namespace Drukbox.Gateway.Sftp

open Await

/-- A process that `SandboxProcess.open` returned. -/
inductive Life
  | alive
  /-- It ended on its own. -/
  | died
  /-- `aclose` of the process returned. -/
  | closed
  deriving DecidableEq, Repr

/-- The task of `recv_packets`. -/
inductive Receive
  /-- `create_task` has not been called. -/
  | absent
  | running
  | finished
  deriving DecidableEq, Repr

/-- A process, with the receive task of its handler. -/
structure Server where
  life : Life := .alive
  receive : Receive := .absent
  deriving DecidableEq, Repr

/-- Who calls `_teardown`. -/
inductive Teardown
  /-- `_open`, after the handshake or the limits request failed. -/
  | opening
  /-- `_close_after_idle`. -/
  | idle
  /-- `aclose`. -/
  | aclose
  deriving DecidableEq, Repr

/-- The end of a task. -/
inductive Result
  /-- The session has released the backend. -/
  | served
  /-- `ConnectionError`. -/
  | refused
  /-- The exception of the process, of the handshake or of the limits request. -/
  | failed
  /-- `CancelledError`. -/
  | cancelled
  /-- `aclose` returned. -/
  | closed
  /-- `_close_after_idle` returned. -/
  | idle
  deriving DecidableEq, Repr

/-- The end of a task after its teardown. -/
def Teardown.result : Teardown → Result
  | opening => .failed
  | idle => .idle
  | aclose => .closed

/-- How far a task has come. -/
inductive Stage
  /-- `_acquire` awaits the lock. -/
  | acquiring
  /-- `_open` awaits `SandboxProcess.open`. -/
  | opening
  /-- `_open` awaits `handler.start`. -/
  | greeting (server : ℕ)
  /-- `_open` awaits `handler.request_limits`. -/
  | limiting (server : ℕ)
  /-- `session` has yielded the handler. -/
  | serving (server : ℕ)
  /-- `_release` awaits the lock. -/
  | releasing
  /-- `_close_after_idle` sleeps. -/
  | sleeping
  /-- `_close_after_idle` awaits the lock. -/
  | idling
  /-- `aclose` awaits the lock. -/
  | closing
  /-- `_teardown` awaits the receive task. -/
  | joining (teardown : Teardown)
  /-- `_teardown` awaits `aclose` of the process. -/
  | exiting (teardown : Teardown)
  | ended (result : Result)
  deriving DecidableEq, Repr

/-- The task has the lock. -/
def Stage.inside : Stage → Bool
  | opening | greeting _ | limiting _ | joining _ | exiting _ => true
  | acquiring | serving _ | releasing | sleeping | idling | closing | ended _ => false

/-- The tasks of a backend: sessions and calls of `aclose`, and the idle timers by number. -/
inductive Task (ι : Type)
  | caller (task : ι)
  | closer (number : ℕ)
  deriving DecidableEq, Repr

/-- `SandboxSftpBackend`. -/
structure Backend (ι : Type) where
  /-- The processes by number, in the order in which they were opened. -/
  servers : ℕ → Option Server := fun _ => none
  opened : ℕ := 0
  /-- The task that has `_lock`. -/
  lock : Option (Task ι) := none
  process : Option ℕ := none
  /-- The handler of a process. -/
  handler : Option ℕ := none
  /-- The receive task of a process. -/
  recvTask : Option ℕ := none
  inFlight : ℤ := 0
  idleCloser : Option ℕ := none
  /-- The number of idle timers so far. -/
  closers : ℕ := 0
  closed : Bool := false
  stages : Task ι → Option Stage := fun _ => none

namespace Backend

variable {ι : Type} [DecidableEq ι]

/-- Write how far a task has come. -/
def setStage (backend : Backend ι) (task : Task ι) (stage : Stage) : Backend ι :=
  { backend with stages := Function.update backend.stages task (some stage) }

omit [DecidableEq ι] in
def modifyServer (backend : Backend ι) (number : ℕ) (change : Server → Server) : Backend ι :=
  { backend with
    servers := Function.update backend.servers number ((backend.servers number).map change) }

/-- `self._idle_closer.cancel()`.  The caller has the lock, so the timer has not. -/
def cancelCloser (backend : Backend ι) : Backend ι :=
  match backend.idleCloser with
  | none => backend
  | some number =>
      match backend.stages (.closer number) with
      | some .sleeping | some .idling => backend.setStage (.closer number) (.ended .cancelled)
      | _ => backend

theorem cancelCloser_rest (backend : Backend ι) :
    backend.cancelCloser.lock = backend.lock ∧ backend.cancelCloser.closed = backend.closed ∧
      backend.cancelCloser.handler = backend.handler ∧
      backend.cancelCloser.servers = backend.servers := by
  rw [cancelCloser]
  split
  · exact ⟨rfl, rfl, rfl, rfl⟩
  · split <;> exact ⟨rfl, rfl, rfl, rfl⟩

/-- The end of `_teardown`. -/
def tornDown (backend : Backend ι) (task : Task ι) (teardown : Teardown) : Backend ι :=
  { backend with handler := none, lock := none }.setStage task (.ended teardown.result)

/-- `_teardown` from the process on. -/
def exit (backend : Backend ι) (task : Task ι) (teardown : Teardown) : Backend ι :=
  match backend.process with
  | some _ => backend.setStage task (.exiting teardown)
  | none => backend.tornDown task teardown

/-- `_teardown` up to its first suspension. -/
def teardown (backend : Backend ι) (task : Task ι) (teardown : Teardown) : Backend ι :=
  match backend.recvTask with
  | some _ => backend.setStage task (.joining teardown)
  | none => backend.exit task teardown

/-- The end of `_acquire`. -/
def handOut (backend : Backend ι) (task : Task ι) (server : ℕ) : Backend ι :=
  { backend with inFlight := backend.inFlight + 1, lock := none }.setStage task (.serving server)

/-- `_acquire` from the lock on. -/
def acquire (backend : Backend ι) (task : Task ι) : Backend ι :=
  if backend.closed then
    backend.setStage task (.ended .refused)
  else
    match backend.handler with
    | some server => { backend.cancelCloser with idleCloser := none }.handOut task server
    | none =>
        { backend.cancelCloser with idleCloser := none, lock := some task }.setStage task .opening

/-- `_release` from the lock on. -/
def release (backend : Backend ι) (task : Task ι) : Backend ι :=
  let released :=
    { backend with inFlight := backend.inFlight - 1 }.setStage task (.ended .served)
  if released.inFlight = 0 ∧ backend.closed = false then
    { released with
      idleCloser := some backend.closers
      closers := backend.closers + 1 }.setStage (.closer backend.closers) .sleeping
  else
    released

/-- `_close_after_idle` from the lock on. -/
def closeAfterIdle (backend : Backend ι) (task : Task ι) : Backend ι :=
  if backend.inFlight = 0 ∧ backend.closed = false then
    { backend with lock := some task }.teardown task .idle
  else
    backend.setStage task (.ended .idle)

/-- `aclose` from the lock on. -/
def aclose (backend : Backend ι) (task : Task ι) : Backend ι :=
  { backend.cancelCloser with closed := true, lock := some task }.teardown task .aclose

/-- `_open` after `SandboxProcess.open` has returned a process. -/
def greet (backend : Backend ι) (task : Task ι) : Backend ι :=
  { backend with
    servers := Function.update backend.servers backend.opened (some {})
    opened := backend.opened + 1
    process := some backend.opened }.setStage task (.greeting backend.opened)

/-- `_open` after the handshake. -/
def requestLimits (backend : Backend ι) (task : Task ι) (server : ℕ) : Backend ι :=
  { backend.modifyServer server ({ · with receive := .running }) with
    recvTask := some server }.setStage task (.limiting server)

end Backend

/-- What the event loop may run next. -/
inductive Event (ι : Type)
  /-- A session begins. -/
  | session (task : ι)
  /-- A call of `aclose` begins. -/
  | aclose (task : ι)
  /-- A task gets the lock. -/
  | lock (task : Task ι)
  /-- `SandboxProcess.open` returns a process or raises. -/
  | opened (task : Task ι) (success : Bool)
  /-- `handler.start` returns or raises. -/
  | greeted (task : Task ι) (success : Bool)
  /-- `handler.request_limits` returns or raises. -/
  | limited (task : Task ι) (success : Bool)
  /-- A session is done with the handler. -/
  | finish (task : Task ι)
  /-- A task is cancelled at its `await`. -/
  | cancel (task : ι)
  /-- A teardown goes on after the receive task. -/
  | joined (task : Task ι)
  /-- `aclose` of the process returns in a teardown. -/
  | exited (task : Task ι)
  /-- An idle timer fires. -/
  | wake (number : ℕ)
  /-- The receive task of a process ends. -/
  | receive (server : ℕ)
  /-- A process ends on its own. -/
  | die (server : ℕ)
  deriving DecidableEq, Repr

namespace Backend

variable {ι : Type} [DecidableEq ι]

/-- A cancelled session.  `_open` catches `Exception` only, and `_teardown` suppresses
`CancelledError` only while it awaits the receive task. -/
def cancel (backend : Backend ι) (task : Task ι) : Option (Backend ι) :=
  match backend.stages task with
  | some .acquiring | some .releasing => some (backend.setStage task (.ended .cancelled))
  | some .opening | some (.greeting _) | some (.limiting _) | some (.exiting .opening) =>
      some ({ backend with lock := none }.setStage task (.ended .cancelled))
  | some (.joining .opening) => some backend
  | some (.serving _) => some (backend.setStage task .releasing)
  | _ => none

def next (backend : Backend ι) : Event ι → Option (Backend ι)
  | .session task =>
      match backend.stages (.caller task) with
      | none => some (backend.setStage (.caller task) .acquiring)
      | some _ => none
  | .aclose task =>
      match backend.stages (.caller task) with
      | none => some (backend.setStage (.caller task) .closing)
      | some _ => none
  | .lock task =>
      match backend.lock, backend.stages task with
      | none, some .acquiring => some (backend.acquire task)
      | none, some .releasing => some (backend.release task)
      | none, some .idling => some (backend.closeAfterIdle task)
      | none, some .closing => some (backend.aclose task)
      | _, _ => none
  | .opened task success =>
      match backend.stages task with
      | some .opening =>
          if success then some (backend.greet task)
          else some ({ backend with lock := none }.setStage task (.ended .failed))
      | _ => none
  | .greeted task success =>
      match backend.stages task with
      | some (.greeting server) =>
          if success then some (backend.requestLimits task server)
          else some (backend.teardown task .opening)
      | _ => none
  | .limited task success =>
      match backend.stages task with
      | some (.limiting server) =>
          if success then some ({ backend with handler := some server }.handOut task server)
          else some (backend.teardown task .opening)
      | _ => none
  | .finish task =>
      match backend.stages task with
      | some (.serving _) => some (backend.setStage task .releasing)
      | _ => none
  | .cancel task => backend.cancel (.caller task)
  | .joined task =>
      match backend.stages task, backend.recvTask with
      | some (.joining teardown), some server =>
          if (backend.servers server).any (·.receive == .finished) then
            some ({ backend with recvTask := none }.exit task teardown)
          else none
      | _, _ => none
  | .exited task =>
      match backend.stages task, backend.process with
      | some (.exiting teardown), some server =>
          some ({ backend.modifyServer server ({ · with life := .closed }) with
            process := none }.tornDown task teardown)
      | _, _ => none
  | .wake number =>
      match backend.stages (.closer number) with
      | some .sleeping => some (backend.setStage (.closer number) .idling)
      | _ => none
  | .receive server =>
      if (backend.servers server).any (·.receive == .running) then
        some (backend.modifyServer server ({ · with receive := .finished }))
      else none
  | .die server =>
      if (backend.servers server).any (·.life == .alive) then
        some (backend.modifyServer server ({ · with life := .died }))
      else none

/-- The event loop.  A task that awaits the free lock may get it in any order. -/
def machine : Machine (Backend ι) (Event ι) where
  next := next

end Backend

end Drukbox.Gateway.Sftp
