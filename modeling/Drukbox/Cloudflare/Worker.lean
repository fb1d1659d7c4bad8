import Drukbox.Await.Gate
import Mathlib.Data.Int.Notation
import Mathlib.Data.Nat.Notation

/-!
# The Cloudflare sandbox

`Sandbox` is a Durable Object that owns one container.  Its storage keeps one status; a `PUT` claims
the name, starts the container and bootstraps it, a `DELETE` destroys it, and an alarm renews its
inactivity timeout.  Any number of these handlers run in turns, which end where a handler awaits.
-/

namespace Drukbox.Cloudflare

open Await Program

/-- The status in the object's storage. -/
inductive Status where
  | creating
  | active
  | deleted
  | error
  deriving DecidableEq, Repr

/-- What a handler can throw. -/
inductive Failure where
  /-- `request.json()` rejects, or its value has no properties to read. -/
  | unreadable
  /-- The container refuses, or the bootstrap process cannot run. -/
  | container
  /-- `Bootstrap timed out` -/
  | timedOut
  /-- `Bootstrap failed` -/
  | bootstrap
  deriving DecidableEq, Repr

/-- What a `PUT` reads of its body. -/
structure Body where
  /-- The property key of `body.image`. -/
  image : String
  /-- `body.instance` -/
  instanceType : String
  script : String
  label : String
  deriving DecidableEq, Repr

def instances : List String :=
  ["lite", "standard-1", "standard-2", "standard-3", "standard-4"]

def inactivityMs : ℕ := 5 * 60 * 1000

def alarmMs : ℕ := 60 * 1000

def bootstrapMs : ℕ := 120 * 1000

/-- The options of `container.start`. -/
structure StartOptions where
  image : String
  instanceType : String
  entrypoint : List String
  enableInternet : Bool
  labels : List (String × String)
  deriving DecidableEq, Repr

/-- A response with one JSON field, or none. -/
structure Response where
  status : ℕ
  json : Option (String × String) := none
  deriving DecidableEq, Repr

/-- What the object is called with. -/
inductive Call where
  | put (body : Except Failure Body)
  | delete
  /-- A request with another method. -/
  | other
  | alarm

/-- What a handler waits for. -/
inductive Op where
  /-- The delivery of its call. -/
  | arrive
  /-- `request.json()` -/
  | json
  /-- `storage.get("status")` -/
  | getStatus
  /-- `storage.put("status", …)` -/
  | putStatus (status : Status)
  /-- `storage.setAlarm(Date.now() + …)` -/
  | setAlarm (delay : ℕ)
  | deleteAlarm
  /-- `container.running` -/
  | running
  | start (options : StartOptions)
  | setInactivityTimeout (ms : ℕ)
  /-- `container.exec` in a race with a timer. -/
  | bootstrap (command : List String) (deadline : ℕ)
  | destroy

/-- The answer of each operation. -/
@[reducible] def Op.Answer : Op → Type
  | .getStatus => Option Status
  | .running => Bool
  | .start _ | .setInactivityTimeout _ => Except Failure Unit
  | .bootstrap _ _ => Except Failure ℤ
  | .arrive | .json | .putStatus _ | .setAlarm _ | .deleteAlarm | .destroy => Unit

/-- Nothing else is delivered before the answer: a storage operation, or a call that returns at
once. -/
def Op.gated : Op → Bool
  | .getStatus | .putStatus _ | .setAlarm _ | .deleteAlarm | .running | .start _ => true
  | .arrive | .json | .setInactivityTimeout _ | .bootstrap _ _ | .destroy => false

abbrev Handler (α : Type) : Type := Program Op.Answer Failure α

abbrev wait (op : Op) : Handler op.Answer := await op

namespace Sandbox

/-- What runs inside `blockConcurrencyWhile`. -/
def claim : Handler Bool := do
  if (← wait .getStatus).isSome then return false
  wait (.putStatus .creating)
  return true

/-- The `try` block of a `PUT`. -/
def provision (image : String) (body : Body) : Handler Response := do
  ofExcept (← wait (.start {
    image
    instanceType := body.instanceType
    entrypoint := ["sleep", "infinity"]
    enableInternet := true
    labels := [("managed-by", body.label)] }))
  ofExcept (← wait (.setInactivityTimeout inactivityMs))
  wait (.setAlarm alarmMs)
  let exitCode ← ofExcept (← wait (.bootstrap ["bash", "-e", "-c", body.script] bootstrapMs))
  if exitCode ≠ 0 then raise .bootstrap
  else if (← wait .getStatus) ≠ some .creating then
    wait .destroy
    return { status := 409, json := some ("error", "Sandbox was deleted") }
  else
    wait (.putStatus .active)
    return { status := 201, json := some ("status", "active") }

/-- The `catch` block of a `PUT`. -/
def abort : Handler Response := do
  if (← wait .getStatus) = some .creating then wait (.putStatus .error)
  wait .destroy
  wait .deleteAlarm
  return { status := 502, json := some ("error", "Sandbox provisioning failed") }

/-- A `PUT`, with the images that `container.images` has. -/
def put (images : List (String × String)) (body : Except Failure Body) : Handler Response := do
  wait .json
  let body ← ofExcept body
  match images.lookup body.image with
  | none => return { status := 400, json := some ("error", "Invalid sandbox configuration") }
  | some image =>
      if body.instanceType ∉ instances then
        return { status := 400, json := some ("error", "Invalid sandbox configuration") }
      if !(← claim) then
        return { status := 409, json := some ("error", "Sandbox name already exists") }
      match ← (provision image body).attempt with
      | .ok response => return response
      | .error (_ : Failure) => abort

def delete : Handler Response := do
  wait (.putStatus .deleted)
  wait .destroy
  wait .deleteAlarm
  return { status := 200, json := some ("status", "deleted") }

def alarm : Handler Unit := do
  let status ← wait .getStatus
  if (← wait .running) ∧ (status = some .active ∨ status = some .creating) then
    ofExcept (← wait (.setInactivityTimeout inactivityMs))
    wait (.setAlarm alarmMs)

/-- The handler of a call, from its delivery on; an alarm answers nobody. -/
def handle (images : List (String × String)) (call : Call) : Handler (Option Response) := do
  wait .arrive
  match call with
  | .put body => return some (← put images body)
  | .delete => return some (← delete)
  | .other => return some { status := 405 }
  | .alarm =>
      alarm
      return none

end Sandbox

/-- The object's storage, its container, and the time. -/
structure Ctx where
  status : Option Status := none
  alarm : Option ℕ := none
  running : Bool := false
  now : ℕ := 0
  deriving DecidableEq, Repr

/-- How the outside world settles an operation. -/
inductive Choice where
  | succeeds
  | fails
  /-- The bootstrap script ends. -/
  | exits (code : ℤ)
  /-- The timer is first. -/
  | timesOut
  deriving DecidableEq, Repr

/-- What happens without a handler. -/
inductive Outside where
  /-- The container stops by itself. -/
  | stops
  | tick
  deriving DecidableEq, Repr

namespace Sandbox

/-- What each operation does to the object.  `destroy` always succeeds. -/
def perform (op : Op) (choice : Choice) (ctx : Ctx) : Option (op.Answer × Ctx) :=
  match op, choice with
  | .arrive, _ | .json, _ => some ((), ctx)
  | .getStatus, _ => some (ctx.status, ctx)
  | .putStatus status, _ => some ((), { ctx with status := some status })
  | .setAlarm delay, _ => some ((), { ctx with alarm := some (ctx.now + delay) })
  | .deleteAlarm, _ => some ((), { ctx with alarm := none })
  | .running, _ => some (ctx.running, ctx)
  | .start _, .succeeds => some (.ok (), { ctx with running := true })
  | .start _, .fails => some (.error .container, ctx)
  | .setInactivityTimeout _, .succeeds => some (.ok (), ctx)
  | .setInactivityTimeout _, .fails => some (.error .container, ctx)
  | .bootstrap _ _, .exits code => some (.ok code, ctx)
  | .bootstrap _ _, .fails => some (.error .container, ctx)
  | .bootstrap _ _, .timesOut => some (.error .timedOut, ctx)
  | .destroy, _ => some ((), { ctx with running := false })
  | .start _, _ | .setInactivityTimeout _, _ | .bootstrap _ _, _ => none

variable {ι : Type}

/-- One object and its handlers. -/
def system : System ι Op.Answer Ctx Choice Outside where
  perform _ := Sandbox.perform
  world
    | .stops, ctx => some { ctx with running := false }
    | .tick, ctx => some { ctx with now := ctx.now + 1 }
  abandon _ ctx := ctx

/-- A run of the handlers of one object. -/
abbrev Run (ι : Type) : Type := Config ι Op.Answer Ctx Failure (Option Response)

/-- A new object, and the calls that it will get in any order. -/
def initial (images : List (String × String)) (calls : ι → Call) : Run ι where
  world := { state := {}, log := [] }
  tasks task := some (handle images (calls task))

variable [DecidableEq ι]

/-- Reachability where the input gate lets every event through. -/
def Reaches (before after : Run ι) : Prop :=
  system.machine.Reaches (Delivered fun op => op.gated) before after

end Sandbox

end Drukbox.Cloudflare
