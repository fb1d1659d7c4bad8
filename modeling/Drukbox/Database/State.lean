import Drukbox.Database.Table
import Drukbox.Hosts.Models
import Drukbox.Templates.Models
import Drukbox.Providers.Base

/-!
# The shared state

What the processes of one deployment share: the clock, the committed rows of PostgreSQL, the locks
of open transactions, and the VMs of the providers.
-/

namespace Drukbox

/-- A `create_vm` call that can still make its VM. -/
structure Creation where
  host : HostId
  name : String
  createdAt : ℤ
  deriving DecidableEq, Repr

/-- The shared state of sessions `ι`.  A row that is not locked reads as it was last committed. -/
structure State (ι : Type) where
  /-- The one clock. -/
  now : ℤ
  /-- Every UUID that has been drawn. -/
  issued : Finset ℕ
  hosts : Table HostId Host
  keys : Table String IdempotencyKey
  templates : Table TemplateId Template
  /-- `SELECT ... FOR UPDATE` and uncommitted updates of host rows. -/
  hostLock : HostId → Option ι
  templateLock : TemplateId → Option ι
  /-- `pg_advisory_xact_lock`, by the hash of its key. -/
  advisory : ℤ → Option ι
  /-- The names of the VMs that exist. -/
  vms : Finset String
  /-- The `create_vm` call of each task. -/
  creating : ι → Option Creation

namespace State

variable {ι : Type} [DecidableEq ι]

/-- No other session holds the lock. -/
def Free (session : ι) (lock : Option ι) : Prop :=
  lock = none ∨ lock = some session

instance (session : ι) (lock : Option ι) : Decidable (Free session lock) :=
  inferInstanceAs (Decidable (_ ∨ _))

/-- Drop what a session holds of one kind of lock. -/
def drop {κ : Type} (session : ι) (locks : κ → Option ι) (key : κ) : Option ι :=
  if locks key = some session then none else locks key

/-- The end of a session's transaction: `COMMIT` after its writes, `ROLLBACK` without them. -/
def release (session : ι) (state : State ι) : State ι :=
  { state with
    hostLock := drop session state.hostLock
    templateLock := drop session state.templateLock
    advisory := drop session state.advisory }

section Release

variable (session : ι) (state : State ι)

@[simp] theorem release_now : (state.release session).now = state.now := rfl
@[simp] theorem release_issued : (state.release session).issued = state.issued := rfl
@[simp] theorem release_hosts : (state.release session).hosts = state.hosts := rfl
@[simp] theorem release_keys : (state.release session).keys = state.keys := rfl
@[simp] theorem release_templates : (state.release session).templates = state.templates := rfl
@[simp] theorem release_vms : (state.release session).vms = state.vms := rfl
@[simp] theorem release_creating : (state.release session).creating = state.creating := rfl

@[simp] theorem release_hostLock :
    (state.release session).hostLock = drop session state.hostLock := rfl

@[simp] theorem release_templateLock :
    (state.release session).templateLock = drop session state.templateLock := rfl

@[simp] theorem release_advisory :
    (state.release session).advisory = drop session state.advisory := rfl

theorem drop_eq_some {κ : Type} {locks : κ → Option ι} {key : κ} {holder : ι} :
    drop session locks key = some holder ↔ locks key = some holder ∧ holder ≠ session := by
  unfold drop
  split
  · simp_all [eq_comm]
  · simp_all only [iff_self_and]
    rintro held rfl
    contradiction

end Release

end State

/-- One configuration of the whole program. -/
structure Deployment where
  settings : Settings
  /-- The registered providers. -/
  providers : List VMProvider
  /-- The tailnet, when the Tailscale settings are there. -/
  tailnet : Option String
  gatewaySshHost : String
  gatewaySshPort : ℕ
  /-- `_SANDBOX_BOOTSTRAP_SCRIPT`. -/
  bootstrapScript : String
  /-- PostgreSQL's `hashtext`. -/
  hashtext : String → ℤ
  /-- `hashlib.sha256(...).hexdigest()`. -/
  sha256 : String → String

namespace Deployment

variable (deployment : Deployment)

def getVmProvider (name : Option String) : Except Failure VMProvider :=
  let resolved := name.getD deployment.settings.defaultHostProvider
  match deployment.providers.find? fun vm => vm.name == resolved with
  | some vm => .ok vm
  | none => .error { kind := .unknownProvider, detail := "unknown VM provider: " ++ resolved }

def getProviderNames : List String :=
  deployment.providers.map VMProvider.name

end Deployment

end Drukbox
