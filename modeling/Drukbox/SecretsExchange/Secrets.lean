import Drukbox.Await.Machine
import Drukbox.Core
import Mathlib.Logic.Function.Basic

/-!
# The secrets of one entry

`RefreshableSecret` and the calls of `Secrets` on one entry with an issuer.  The exchange runs in
one thread: a call runs from one `await` to the next without interruption, so one step is such a
section.  A section reads the clock as often as the code does, and the scheduler chooses what it
reads.
-/

namespace Drukbox.SecretsExchange

open Await

def margin : ℤ := seconds 60

def firstRetry : ℤ := seconds 5

def longestRetry : ℤ := seconds 60

structure Secret where
  value : String
  expiresAt : Option ℤ := none
  deriving DecidableEq, Repr

namespace Secret

def isValid (secret : Secret) (instant : ℤ) : Bool :=
  secret.expiresAt.all fun expiresAt => instant < expiresAt

def isStale (secret : Secret) (instant : ℤ) : Bool :=
  secret.expiresAt.any fun expiresAt => expiresAt - margin ≤ instant

end Secret

/-- A `Secret` object.  `is` tells the answers of two fetches apart, whatever they hold. -/
structure Fetched where
  secret : Secret
  /-- The number of the fetch, counted from the first of the entry. -/
  fetch : ℕ
  deriving DecidableEq, Repr

/-- How a call of `Secret.fetch` ends. -/
inductive Answer
  | secret (secret : Secret)
  /-- `IssuerError`. -/
  | issuerError
  /-- Any other exception. -/
  | otherError
  deriving DecidableEq, Repr

/-- The task that a stale hit starts. -/
inductive Background
  /-- `create_task` has been called. -/
  | created
  | fetching (fetch : ℕ)
  /-- It has ended, and its callback has yet to run. -/
  | ended
  deriving DecidableEq, Repr

structure RefreshableSecret where
  latest : Option Fetched := none
  pushed : Option Fetched := none
  fetching : Option Background := none
  nextAttempt : ℤ
  wait : ℤ := firstRetry
  deriving DecidableEq, Repr

namespace RefreshableSecret

def retryLater (refreshable : RefreshableSecret) (now : ℤ) : RefreshableSecret :=
  { refreshable with
    nextAttempt := now + refreshable.wait
    wait := min (refreshable.wait * 2) longestRetry }

/-- `refresh` asks the issuer. -/
def refreshes (refreshable : RefreshableSecret) (now : ℤ) : Bool :=
  refreshable.nextAttempt ≤ now

/-- `refresh` from the issuer's answer on. -/
def refreshed (refreshable : RefreshableSecret) (fetch : ℕ) (answer : Answer) (now : ℤ) :
    RefreshableSecret :=
  match answer with
  | .secret secret =>
      { refreshable with latest := some { secret, fetch }, wait := firstRetry }
  | .issuerError => refreshable.retryLater now
  | .otherError => refreshable

def isDue (refreshable : RefreshableSecret) (instant : ℤ) : Bool :=
  refreshable.nextAttempt ≤ instant && refreshable.pushed.all (·.secret.isStale instant)

/-- The latest value, while it is valid. -/
def valid (refreshable : RefreshableSecret) (now : ℤ) : Option Fetched :=
  refreshable.latest.filter (·.secret.isValid now)

/-- `push` finds no valid value that the provider lacks. -/
def pushRefreshes (refreshable : RefreshableSecret) (now : ℤ) : Bool :=
  refreshable.latest == refreshable.pushed || (refreshable.valid now).isNone

/-- What `push` hands over. -/
def toDeliver (refreshable : RefreshableSecret) (now : ℤ) : Option Fetched :=
  if refreshable.latest = refreshable.pushed then none else refreshable.valid now

def refreshInBackground (refreshable : RefreshableSecret) : RefreshableSecret :=
  { refreshable with fetching := some (refreshable.fetching.getD .created) }

theorem refreshInBackground_cases {refreshable : RefreshableSecret} {running : Background}
    (busy : refreshable.refreshInBackground.fetching = some running) :
    running = .created ∧ refreshable.fetching = none ∨ refreshable.fetching = some running := by
  cases fetching : refreshable.fetching <;> simp_all [refreshInBackground]

end RefreshableSecret

/-- Who awaits `RefreshableSecret.refresh`. -/
inductive Purpose
  | current
  /-- `RefreshableSecret.push`, with its reading of the clock, for the timer or for the order that
  began after so many fetches. -/
  | push (now : ℤ) (order : Option ℕ)
  /-- The order that began after so many fetches, where the provider holds no value. -/
  | order (since : ℕ)
  deriving DecidableEq, Repr

inductive Result
  /-- `Secrets.current` returned a value, which was valid when it last read the clock. -/
  | served (latest : Fetched) (checked : ℤ)
  /-- `Secrets.push` returned. -/
  | pushed
  /-- `Secrets.refresh`, which made the object after so many fetches, returned. -/
  | refreshed (object since : ℕ)
  /-- `IssuerUnavailableError`, with the last reading of the clock of `Secrets.current`. -/
  | unavailable (checked : Option ℤ)
  /-- Any other exception. -/
  | raised
  deriving DecidableEq, Repr

inductive Call
  | fetching (object fetch : ℕ) (purpose : Purpose)
  /-- It hands a value to the provider, for the timer or for an order. -/
  | delivering (object : ℕ) (secret : Fetched) (order : Option ℕ)
  | ended (result : Result)
  deriving DecidableEq, Repr

/-- What the exchange holds of one entry, with the calls `ι` on it. -/
structure Secrets (ι : Type) where
  /-- The `RefreshableSecret` objects by address. -/
  objects : ℕ → RefreshableSecret := fun _ => { nextAttempt := 0 }
  /-- The next free address. -/
  created : ℕ := 0
  /-- The object in `_refreshable`. -/
  cached : Option ℕ := none
  /-- The number of fetches so far. -/
  fetches : ℕ := 0
  /-- The value that the provider holds since a push. -/
  held : Option Fetched := none
  calls : ι → Option Call := fun _ => none

/-- The calls on an entry. -/
inductive Method
  | current
  | push
  | refresh
  deriving DecidableEq, Repr

/-- How `push_secret` ends. -/
inductive Delivery
  | accepted
  /-- It raised, and the provider may have the value all the same. -/
  | failed (providerError stored : Bool)
  deriving DecidableEq, Repr

namespace Secrets

variable {ι : Type} [DecidableEq ι]

def setCall (secrets : Secrets ι) (task : ι) (call : Call) : Secrets ι :=
  { secrets with calls := Function.update secrets.calls task (some call) }

omit [DecidableEq ι] in
def setObject (secrets : Secrets ι) (object : ℕ) (refreshable : RefreshableSecret) : Secrets ι :=
  { secrets with objects := Function.update secrets.objects object refreshable }

omit [DecidableEq ι] in
/-- `self._refreshable[key] = RefreshableSecret()`. -/
def make (secrets : Secrets ι) (now : ℤ) : Secrets ι :=
  { secrets with
    objects := Function.update secrets.objects secrets.created { nextAttempt := now }
    created := secrets.created + 1
    cached := some secrets.created }

omit [DecidableEq ι] in
/-- `self._refreshable.setdefault(key, RefreshableSecret())`. -/
def setdefault (secrets : Secrets ι) (now : ℤ) : Secrets ι × ℕ :=
  match secrets.cached with
  | some object => (secrets, object)
  | none => (secrets.make now, secrets.created)

/-- What follows `RefreshableSecret.refresh`. -/
def resume (secrets : Secrets ι) (object : ℕ) (purpose : Purpose) (now : ℤ) : Call :=
  let refreshable := secrets.objects object
  match purpose with
  | .current =>
      match refreshable.valid now with
      | some latest => .ended (.served latest now)
      | none => .ended (.unavailable (some now))
  | .push began order =>
      match refreshable.toDeliver began with
      | some latest => .delivering object latest order
      | none => .ended (if order.isSome then .unavailable none else .pushed)
  | .order since =>
      if refreshable.latest.isSome then .ended (.refreshed object since)
      else .ended (.unavailable none)

/-- `await refreshable.refresh(...)`, up to the fetch or to the next `await` after it. -/
def refresh (secrets : Secrets ι) (task : ι) (object : ℕ) (purpose : Purpose) (now later : ℤ) :
    Secrets ι :=
  if (secrets.objects object).refreshes now then
    { secrets with fetches := secrets.fetches + 1 }.setCall task
      (.fetching object secrets.fetches purpose)
  else
    secrets.setCall task (secrets.resume object purpose later)

/-- `RefreshableSecret.push` up to its first `await`. -/
def push (secrets : Secrets ι) (task : ι) (object : ℕ) (order : Option ℕ) (now later : ℤ) :
    Secrets ι :=
  if (secrets.objects object).pushRefreshes now then
    secrets.refresh task object (.push now order) later later
  else
    secrets.setCall task (secrets.resume object (.push now order) later)

/-- A call up to its first `await`, for a provider that needs the value or not. -/
def begin (needsValue : Bool) (secrets : Secrets ι) (task : ι) (clock : ℕ → ℤ) :
    Method → Secrets ι
  | .current =>
      let (secrets, object) := secrets.setdefault (clock 0)
      let refreshable := secrets.objects object
      match refreshable.valid (clock 1) with
      | some latest =>
          let refreshable :=
            if latest.secret.isStale (clock 1) then refreshable.refreshInBackground
            else refreshable
          (secrets.setObject object refreshable).setCall task (.ended (.served latest (clock 1)))
      | none => secrets.refresh task object .current (clock 2) (clock 3)
  | .push =>
      let (secrets, object) := secrets.setdefault (clock 0)
      if needsValue && (secrets.objects object).isDue (clock 1) then
        secrets.push task object none (clock 2) (clock 3)
      else
        secrets.setCall task (.ended .pushed)
  | .refresh =>
      let since := secrets.fetches
      let object := secrets.created
      let secrets := secrets.make (clock 0)
      if needsValue then secrets.push task object (some since) (clock 1) (clock 2)
      else secrets.refresh task object (.order since) (clock 1) (clock 2)

/-- A call from the answer of its fetch on. -/
def answered (secrets : Secrets ι) (task : ι) (object fetch : ℕ) (purpose : Purpose)
    (answer : Answer) (clock : ℕ → ℤ) : Secrets ι :=
  let secrets :=
    secrets.setObject object ((secrets.objects object).refreshed fetch answer (clock 0))
  if answer = .otherError then secrets.setCall task (.ended .raised)
  else secrets.setCall task (secrets.resume object purpose (clock 1))

/-- `RefreshableSecret.push` and its caller from the provider's answer on. -/
def delivered (secrets : Secrets ι) (task : ι) (object : ℕ) (secret : Fetched)
    (order : Option ℕ) (delivery : Delivery) (clock : ℕ → ℤ) : Secrets ι :=
  let refreshable := secrets.objects object
  match delivery with
  | .accepted =>
      ({ secrets with held := some secret }.setObject object
        { refreshable with pushed := some secret, wait := firstRetry }).setCall task
          (.ended
            (match order with
            | none => .pushed
            | some since => .refreshed object since))
  | .failed providerError stored =>
      ({ secrets with held := if stored then some secret else secrets.held }.setObject object
        (if providerError then refreshable.retryLater (clock 0) else refreshable)).setCall task
          (.ended (if providerError && order.isNone then .pushed else .raised))

end Secrets

/-- What the event loop may run next. -/
inductive Event (ι : Type)
  /-- A call begins. -/
  | begin (task : ι) (method : Method) (clock : ℕ → ℤ)
  /-- The fetch of a call is answered. -/
  | answer (task : ι) (answer : Answer) (clock : ℕ → ℤ)
  /-- The provider answers a call. -/
  | deliver (task : ι) (delivery : Delivery) (clock : ℕ → ℤ)
  /-- The background task of an object begins. -/
  | wake (object : ℕ) (clock : ℕ → ℤ)
  /-- The fetch of a background task is answered. -/
  | answerBackground (object : ℕ) (answer : Answer) (clock : ℕ → ℤ)
  /-- The callback of an ended background task. -/
  | callback (object : ℕ)
  /-- `forget_deleted_hosts`, after the host is gone. -/
  | forget

namespace Secrets

variable {ι : Type} [DecidableEq ι]

def next (needsValue : Bool) (secrets : Secrets ι) : Event ι → Option (Secrets ι)
  | .begin task method clock =>
      match secrets.calls task with
      | none => some (secrets.begin needsValue task clock method)
      | some _ => none
  | .answer task answer clock =>
      match secrets.calls task with
      | some (.fetching object fetch purpose) =>
          some (secrets.answered task object fetch purpose answer clock)
      | _ => none
  | .deliver task delivery clock =>
      match secrets.calls task with
      | some (.delivering object secret order) =>
          some (secrets.delivered task object secret order delivery clock)
      | _ => none
  | .wake object clock =>
      let refreshable := secrets.objects object
      match refreshable.fetching with
      | some .created =>
          if refreshable.refreshes (clock 0) then
            some
              ({ secrets with fetches := secrets.fetches + 1 }.setObject object
                { refreshable with fetching := some (.fetching secrets.fetches) })
          else
            some (secrets.setObject object { refreshable with fetching := some .ended })
      | _ => none
  | .answerBackground object answer clock =>
      let refreshable := secrets.objects object
      match refreshable.fetching with
      | some (.fetching fetch) =>
          some
            (secrets.setObject object
              { refreshable.refreshed fetch answer (clock 0) with fetching := some .ended })
      | _ => none
  | .callback object =>
      let refreshable := secrets.objects object
      match refreshable.fetching with
      | some .ended => some (secrets.setObject object { refreshable with fetching := none })
      | _ => none
  | .forget => some { secrets with cached := none }

def machine (needsValue : Bool) : Machine (Secrets ι) (Event ι) where
  next := next needsValue

end Secrets

end Drukbox.SecretsExchange
