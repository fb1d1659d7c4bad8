import Drukbox.HostSecrets.Catalog
import Drukbox.HostSecrets.Placeholder

/-!
# Host rows and idempotency keys

The rows of `hosts.models`, the column updates that the service writes, and the classes of status
that the service tells apart.
-/

namespace Drukbox

inductive HostStatus
  | provisioning
  | creatingNetwork
  | creatingVm
  | bootstrapping
  | active
  | error
  deriving DecidableEq, Repr

namespace HostStatus

def value : HostStatus → String
  | provisioning => "provisioning"
  | creatingNetwork => "creating_network"
  | creatingVm => "creating_vm"
  | bootstrapping => "bootstrapping"
  | active => "active"
  | error => "error"

/-- `DELETE_BLOCKED_STATUSES`: the VM is not there yet, or may still come. -/
def deleteBlocked : HostStatus → Bool
  | provisioning | creatingNetwork | creatingVm => true
  | _ => false

/-- `VM_BACKED_STATUSES`. -/
def vmBacked : HostStatus → Bool
  | bootstrapping | active | error => true
  | _ => false

/-- `RENEWABLE_STATUSES`. -/
def renewable : HostStatus → Bool
  | bootstrapping | active => true
  | _ => false

/-- `provision` has ended. -/
def settled : HostStatus → Bool
  | active | error => true
  | _ => false

theorem vmBacked_eq_not_deleteBlocked (status : HostStatus) :
    status.vmBacked = !status.deleteBlocked := by
  cases status <;> rfl

theorem vmBacked_of_renewable {status : HostStatus} (renewable : status.renewable) :
    status.vmBacked := by
  cases status <;> first | rfl | exact renewable

end HostStatus

structure Host where
  id : HostId
  env : Dict String
  secrets : Dict SecretEntry
  name : String
  serviceAccount : Option String
  status : HostStatus
  provider : String
  image : String
  instanceType : Option String
  diskGb : Option ℕ
  externalSshHost : String := ""
  externalSshPort : ℕ := 22
  sshUsername : String := ""
  publicKey : String := ""
  internalSshHost : Option String := none
  knownHosts : String := ""
  tailscaleDeviceId : Option String := none
  createdAt : ℤ
  updatedAt : ℤ
  activatedAt : Option ℤ := none
  expiresAt : Option ℤ
  claimedAt : Option ℤ := none
  poolMember : Bool
  lastError : String := ""
  deriving DecidableEq, Repr

/-- The columns that one `UPDATE hosts` sets. -/
structure HostColumns where
  serviceAccount : Option (Option String) := none
  status : Option HostStatus := none
  secrets : Option (Dict SecretEntry) := none
  externalSshHost : Option String := none
  externalSshPort : Option ℕ := none
  sshUsername : Option String := none
  publicKey : Option String := none
  internalSshHost : Option (Option String) := none
  knownHosts : Option String := none
  tailscaleDeviceId : Option (Option String) := none
  updatedAt : ℤ
  activatedAt : Option (Option ℤ) := none
  expiresAt : Option (Option ℤ) := none
  claimedAt : Option (Option ℤ) := none
  lastError : Option String := none

namespace Host

/-- `_HOST_NAME_PREFIX` and `_HOST_NAME_UID_CHARS`: the name comes from the random end of the id. -/
def buildName (id : HostId) : String :=
  "sb-" ++ String.ofList (Uuid.hexDigits 12 id)

def set (host : Host) (columns : HostColumns) : Host :=
  { host with
    serviceAccount := columns.serviceAccount.getD host.serviceAccount
    status := columns.status.getD host.status
    secrets := columns.secrets.getD host.secrets
    externalSshHost := columns.externalSshHost.getD host.externalSshHost
    externalSshPort := columns.externalSshPort.getD host.externalSshPort
    sshUsername := columns.sshUsername.getD host.sshUsername
    publicKey := columns.publicKey.getD host.publicKey
    internalSshHost := columns.internalSshHost.getD host.internalSshHost
    knownHosts := columns.knownHosts.getD host.knownHosts
    tailscaleDeviceId := columns.tailscaleDeviceId.getD host.tailscaleDeviceId
    updatedAt := columns.updatedAt
    activatedAt := columns.activatedAt.getD host.activatedAt
    expiresAt := columns.expiresAt.getD host.expiresAt
    claimedAt := columns.claimedAt.getD host.claimedAt
    lastError := columns.lastError.getD host.lastError }

section Set

variable (host : Host) (columns : HostColumns)

@[simp] theorem set_id : (host.set columns).id = host.id := rfl
@[simp] theorem set_name : (host.set columns).name = host.name := rfl
@[simp] theorem set_provider : (host.set columns).provider = host.provider := rfl
@[simp] theorem set_createdAt : (host.set columns).createdAt = host.createdAt := rfl
@[simp] theorem set_poolMember : (host.set columns).poolMember = host.poolMember := rfl

@[simp] theorem set_serviceAccount :
    (host.set columns).serviceAccount = columns.serviceAccount.getD host.serviceAccount := rfl

@[simp] theorem set_status : (host.set columns).status = columns.status.getD host.status := rfl

@[simp] theorem set_expiresAt :
    (host.set columns).expiresAt = columns.expiresAt.getD host.expiresAt := rfl

@[simp] theorem set_claimedAt :
    (host.set columns).claimedAt = columns.claimedAt.getD host.claimedAt := rfl

@[simp] theorem set_updatedAt : (host.set columns).updatedAt = columns.updatedAt := rfl

@[simp] theorem set_tailscaleDeviceId :
    (host.set columns).tailscaleDeviceId =
      columns.tailscaleDeviceId.getD host.tailscaleDeviceId := rfl

end Set

/-- Two versions of one row: they agree in the columns that no update sets. -/
structure SameOrigin (row other : Host) : Prop where
  id : row.id = other.id
  name : row.name = other.name
  provider : row.provider = other.provider
  createdAt : row.createdAt = other.createdAt
  poolMember : row.poolMember = other.poolMember

namespace SameOrigin

variable {row other third : Host}

theorem refl (row : Host) : row.SameOrigin row := ⟨rfl, rfl, rfl, rfl, rfl⟩

theorem symm (same : row.SameOrigin other) : other.SameOrigin row :=
  ⟨same.id.symm, same.name.symm, same.provider.symm, same.createdAt.symm, same.poolMember.symm⟩

theorem trans (same : row.SameOrigin other) (next : other.SameOrigin third) :
    row.SameOrigin third :=
  ⟨same.id.trans next.id, same.name.trans next.name, same.provider.trans next.provider,
    same.createdAt.trans next.createdAt, same.poolMember.trans next.poolMember⟩

theorem set (row : Host) (columns : HostColumns) : (row.set columns).SameOrigin row :=
  ⟨rfl, rfl, rfl, rfl, rfl⟩

end SameOrigin

/-- `expires_at IS NULL OR expires_at > now`. -/
def unexpired (host : Host) (now : ℤ) : Bool :=
  match host.expiresAt with
  | none => true
  | some expiresAt => now < expiresAt

/-- `expires_at IS NOT NULL AND expires_at <= now`: the lease is over. -/
def leaseOver (host : Host) (now : ℤ) : Bool :=
  host.expiresAt.any fun expiresAt => expiresAt ≤ now

theorem leaseOver_mono {host : Host} {now later : ℤ} (lapsed : host.leaseOver now)
    (passes : now ≤ later) : host.leaseOver later := by
  cases expiresAt : host.expiresAt <;> simp_all [leaseOver]
  omega

/-- A live host: not in error, and not expired. -/
def live (host : Host) (now : ℤ) : Bool :=
  host.status != .error && host.unexpired now

end Host

/-- A row of `idempotency_keys`. -/
structure IdempotencyKey where
  key : String
  hostId : HostId
  createdAt : ℤ
  expiresAt : ℤ
  deriving DecidableEq, Repr

end Drukbox
