import Drukbox.Database.Query
import Drukbox.Providers.Environment

/-!
# The host service

`HostService` and the janitor as awaiting programs: one awaited operation for each statement, each
commit and each call to an outside party.
-/

namespace Drukbox

open Await

/-- The arguments of `get_or_create_host`. -/
structure HostRequest where
  serviceAccount : Option String := none
  env : Dict String := []
  secrets : Dict SecretEntry := []
  image : Option String := none
  template : Option TemplateId := none
  expiresAt : Option ℤ := none
  permanent : Bool := false
  idempotencyKey : Option String := none
  provider : Option String := none
  instanceType : Option String := none
  diskGb : Option ℕ := none

namespace HostRequest

/-- The request names something that the warm hosts do not have. -/
def customized (request : HostRequest) : Bool :=
  !request.env.isEmpty || !request.secrets.isEmpty || (given request.image).isSome ||
    request.template.isSome || (given request.instanceType).isSome || request.diskGb.any (· != 0)

end HostRequest

def ServiceAccount.admin : String := "admin"

namespace HostService

variable (deployment : Deployment)

def defaultLeaseExpiresAt : Task ℤ := do
  let now ← Task.clock
  return now + seconds deployment.settings.leaseDefaultTtl

/-- `None if permanent else expires_at or self._default_lease_expires_at()`. -/
def requestedLease (permanent : Bool) (expiresAt : Option ℤ) : Task (Option ℤ) :=
  if permanent then return none
  else
    match expiresAt with
    | some expiresAt => return some expiresAt
    | none => do
        let expiresAt ← defaultLeaseExpiresAt deployment
        return some expiresAt

/-- `session.refresh(host)`. -/
def refresh (id : HostId) : Task Host := do
  match ← Task.hosts (.get id) with
  | some host => return host
  | none => Task.fail .invalidRequest "Could not refresh instance"

/-- `session.commit()` after a loaded host was changed. -/
def commit (place : HostCommit) (id : HostId) (columns : HostColumns) : Task Unit := do
  let matched ← Task.hosts (.update place id columns)
  if matched then return ()
  else Task.fail .staleData "UPDATE statement on table 'hosts' expected to update 1 row(s)"

/-- `mark_failed`.  The commit also writes what `put_secrets` had changed. -/
def markFailed (id : HostId) (secrets : Dict SecretEntry) (failure : Failure) : Task Unit := do
  let now ← Task.clock
  commit .failure id
    { status := some .error
      secrets := some secrets
      lastError := some failure.describe
      expiresAt := some (some now)
      updatedAt := now }

def currentValue (entry : SecretEntry) : Task (Except Failure String) :=
  match entry.value, entry.issuer with
  | some value, _ => return .ok value
  | none, some issuer => Task.outside (.fetchSecret issuer)
  | none, none => return .error { kind := .key, detail := "'issuer'" }

/-- The loop of `put_secrets`: the entries as they are when it ends, with the environment or the
exception that ended it. -/
def putEntries (host : Host) (vm : VMProvider) :
    Dict SecretEntry → Dict SecretEntry → Dict String →
      Task (Dict SecretEntry × Except Failure (Dict String))
  | [], secrets, environment => return (secrets, .ok environment)
  | (name, entry) :: rest, secrets, environment => do
      let secret ← Task.outside .mintSecret
      let placeholder : Placeholder := { hostId := host.id, service := name, secret }
      let fingerprint := placeholder.fingerprint deployment.sha256
      let secrets := secrets.set name { entry with placeholderFingerprint := some fingerprint }
      match ← (if vm.needsValue then currentValue entry else pure (.ok "")) with
      | .error failure => return (secrets, .error failure)
      | .ok value =>
          match Catalog.service name entry with
          | none => return (secrets, .error { kind := .key, detail := "'" ++ name ++ "'" })
          | some service =>
              match ← Task.outside (.putSecret host.name service placeholder value) with
              | .error failure => return (secrets, .error failure)
              | .ok added => putEntries host vm rest secrets (environment.update added)

def putSecrets (host : Host) (vm : VMProvider) :
    Task (Dict SecretEntry × Except Failure (Dict String)) :=
  putEntries deployment host vm host.secrets host.secrets []

/-- The key scan that ends `provision`. -/
def activate (host : Host) : Task Unit := do
  match ← Task.outside (.scanKnownHosts host) with
  | .error failure =>
      if failure.kind = .hostKeyScan then markFailed host.id host.secrets failure
      else .raise failure
  | .ok knownHosts =>
      let activatedAt ← Task.clock
      let updatedAt ← Task.clock
      commit .progress host.id
        { knownHosts := some knownHosts
          status := some .active
          activatedAt := some (some activatedAt)
          updatedAt }

/-- The host with its addresses, once its VM is there.  The gateway is the SSH path for the hosts
of a gateway provider. -/
def booted (host : Host) (vm : VMProvider) (tailnet : Option String) (result : VMCreateResult) :
    Host :=
  { host with
    name := result.name
    externalSshHost := if vm.gateway then deployment.gatewaySshHost else result.sshHost
    externalSshPort := if vm.gateway then deployment.gatewaySshPort else result.sshPort
    sshUsername := if vm.gateway then result.name else result.sshUsername
    publicKey := result.publicKey.getD ""
    internalSshHost :=
      match tailnet with
      | some tailnet => some (result.name ++ "." ++ tailnet)
      | none => host.internalSshHost }

/-- `provision` from the return of `create_vm` on. -/
def bootstrap (host : Host) (vm : VMProvider) (tailnet : Option String)
    (result : VMCreateResult) : Task Unit := do
  let booted := booted deployment host vm tailnet result
  let updatedAt ← Task.clock
  -- The name is the row's own, so the update leaves its column out.
  commit .progress host.id
    { externalSshHost := some booted.externalSshHost
      externalSshPort := some booted.externalSshPort
      sshUsername := some booted.sshUsername
      publicKey := some booted.publicKey
      internalSshHost := some booted.internalSshHost
      status := some .bootstrapping
      updatedAt }
  match tailnet with
  | none => activate booted
  | some _ =>
      match ← Task.outside (.waitForDevice booted.name) with
      | .error failure =>
          if failure.kind.isNetworkError then markFailed host.id host.secrets failure
          else .raise failure
      | .ok deviceId =>
          let updatedAt ← Task.clock
          commit .progress host.id { tailscaleDeviceId := some (some deviceId), updatedAt }
          activate booted

/-- `provision` from the second commit on: the gateway check and `create_vm`. -/
def createVm (host : Host) (vm : VMProvider) (tailnet : Option String)
    (environment : Dict String) (setupScript : Option String) : Task Unit := do
  let updatedAt ← Task.clock
  commit .progress host.id
    { status := some .creatingVm, secrets := some host.secrets, updatedAt }
  if vm.gateway ∧ deployment.gatewaySshHost = "" then
    markFailed host.id host.secrets
      { kind := .provisioningFailed
        detail :=
          "provider '" ++ vm.name ++ "' requires the SSH gateway; set GATEWAY_SSH_HOST" }
  else do
    Task.vm (.start host environment setupScript)
    match ← Task.vm .finish with
    | .error failure =>
        if failure.kind.isProviderError then markFailed host.id host.secrets failure
        else .raise failure
    | .ok result => bootstrap deployment host vm tailnet result

/-- `provision` from the boot environment on: the secrets and the check of the environment. -/
def injectSecrets (host : Host) (vm : VMProvider) (tailnet : Option String)
    (environment : Dict String) (setupScript : Option String) : Task Unit := do
  let (secrets, outcome) ← putSecrets deployment host vm
  let checked : Except Failure (Dict String) := do
    let added ← outcome
    let environment := environment.update added
    let _ ← Environment.getPersist environment
    return environment
  match checked with
  | .ok environment =>
      createVm deployment { host with secrets } vm tailnet environment setupScript
  | .error failure =>
      if failure.kind = .missingSecret then do
        markFailed host.id secrets failure
        .raise failure
      else if failure.kind.isIssuerError ∨ failure.kind.isProviderError ∨
          failure.kind = .value then
        markFailed host.id secrets failure
      else
        .raise failure

def provision (host : Host) : Task Unit := do
  let updatedAt ← Task.clock
  commit .progress host.id { status := some .creatingNetwork, updatedAt }
  let vm ← Program.ofExcept (deployment.getVmProvider (some host.provider))
  if vm.tailnet then
    match deployment.tailnet with
    | none =>
        markFailed host.id host.secrets
          { kind := .provisioningFailed
            detail :=
              "provider '" ++ vm.name ++ "' joins the tailnet; set TAILSCALE_TAILNET, " ++
                "TAILSCALE_AUTH_TAGS, TAILSCALE_OAUTH_CLIENT_ID and " ++
                "TAILSCALE_OAUTH_CLIENT_SECRET" }
    | some tailnet =>
        match ← Task.outside (.issueJoinCredentials host.name) with
        | .error failure =>
            if failure.kind.isNetworkError then markFailed host.id host.secrets failure
            else .raise failure
        | .ok credentials =>
            injectSecrets deployment host vm (some tailnet) (host.env.update credentials)
              (some deployment.bootstrapScript)
  else
    injectSecrets deployment host vm none host.env none

def countLiveHosts (scope : CountScope) : Task ℕ := do
  Program.await (Op.advisoryLock scope.key)
  let now ← Task.clock
  Task.hosts (.count scope now)

/-- What `create_host` refuses before any row or VM exists. -/
def checkRequest (request : HostRequest) (vm : VMProvider) : Except Failure Unit := do
  if (given request.instanceType).isSome ∧ ¬ vm.supportsInstanceType then
    throw
      { kind := .unsupportedSizing
        detail := "provider '" ++ vm.name ++ "' does not support a per-request instance_type" }
  if request.diskGb.any (· != 0) ∧ ¬ vm.supportsDiskGb then
    throw
      { kind := .unsupportedSizing
        detail := "provider '" ++ vm.name ++ "' does not support a per-request disk_gb" }
  if request.secrets ≠ [] ∧ ¬ vm.needsValue ∧
      (deployment.settings.secretsProxyUrl = "" ∨ deployment.settings.secretsProxyCaFile = "") then
    throw
      { kind := .secretsProxyNotConfigured
        detail :=
          "SECRETS_PROXY_URL and SECRETS_PROXY_CA_FILE must name the proxy that " ++
            "sandboxes dial and its certificate" }

/-- The image of a request and the lease of its template. -/
def resolveImage (request : HostRequest) (vm : VMProvider) :
    Task (Option String × Option TemplateLease) :=
  match request.template with
  | none => return (request.image, none)
  | some id => do
      match ← Task.templates (.get id) with
      | none =>
          Task.fail .unknownTemplate
            ("template " ++ toString id ++ " not found for provider '" ++ vm.name ++ "'")
      | some found =>
          if found.provider ≠ vm.name then
            Task.fail .unknownTemplate
              ("template " ++ toString id ++ " not found for provider '" ++ vm.name ++ "'")
          else if found.status ≠ .available then
            let detail := "template " ++ toString id ++ " is " ++ found.status.value
            Task.fail .templateNotAvailable
              (if found.status = .failed then detail ++ ": " ++ found.lastError else detail)
          else do
            let usedAt ← Task.clock
            return (some found.image, some { template := id, loaded := found.lastUsedAt, usedAt })

/-- The count's first statement flushes the template's lease. -/
def flushLease : Option TemplateLease → Task Bool
  | none => return true
  | some lease => Task.templates (.touch lease)

/-- The provider's host limit. -/
def checkProviderLimit (vm : VMProvider) (lease : Option TemplateLease) : Task Unit :=
  match deployment.settings.hostLimits.lookup vm.name with
  | none => return ()
  | some limit => do
      let flushed ← flushLease lease
      if flushed then do
        let live ← countLiveHosts (.provider vm.name)
        if limit ≤ live then
          Task.fail .hostCapacity ("provider '" ++ vm.name ++ "' is at its host limit")
        else
          return ()
      else
        Task.fail .staleData "UPDATE statement on table 'templates' expected to update 1 row(s)"

/-- The row that `create_host` inserts. -/
def newHost (request : HostRequest) (poolMember : Bool) (vm : VMProvider) (image : Option String)
    (id : HostId) (now : ℤ) : Host :=
  let safetyExpiresAt := now + seconds deployment.settings.provisioningGraceSeconds
  { id
    serviceAccount := request.serviceAccount
    env := request.env
    secrets := request.secrets
    name := Host.buildName id
    provider := vm.name
    image := (given image).getD vm.defaultImage
    instanceType := request.instanceType
    diskGb := request.diskGb
    status := .provisioning
    createdAt := now
    updatedAt := now
    expiresAt :=
      match request.expiresAt with
      | some expiresAt => some (max expiresAt safetyExpiresAt)
      | none => some safetyExpiresAt
    poolMember }

def initialExpiresAt (host : Host) : ℤ :=
  host.expiresAt.getD host.createdAt

/-- The end of `create_host`: the lease stamp, in a session of its own. -/
def stampLease (request : HostRequest) (vm : VMProvider) (host : Host) (initial : ℤ) :
    Task Unit := do
  let expiresAt ← requestedLease deployment request.permanent request.expiresAt
  let updatedAt ← Task.clock
  Task.hosts (.stamp host.id initial (vm.leaseEnd host.createdAt expiresAt) updatedAt)

def createHost (request : HostRequest) (poolMember : Bool) : Task Host := do
  let vm ← Program.ofExcept (deployment.getVmProvider request.provider)
  Program.ofExcept (checkRequest deployment request vm)
  let (image, lease) ← resolveImage request vm
  let id ← Program.await Op.uuid7
  let now ← Task.clock
  let host := newHost deployment request poolMember vm image id now
  checkProviderLimit deployment vm lease
  let inserted ← Task.hosts (.insert host lease)
  Program.ofExcept inserted
  let host ← refresh id
  provision deployment host
  let provisioned ← refresh id
  if provisioned.status = .error then
    Task.fail .provisioningFailed provisioned.lastError
  else do
    stampLease deployment request vm provisioned
      (initialExpiresAt (newHost deployment request poolMember vm image id now))
    refresh id

def tryClaimPoolHost (request : HostRequest) (provider : String) : Task (Option Host) := do
  let now ← Task.clock
  let vm ← Program.ofExcept (deployment.getVmProvider (some provider))
  let createdFrom := do
    let lifetime ← vm.lifetime
    let expiresAt ← request.expiresAt
    return expiresAt - lifetime
  match ← Task.hosts (.candidate provider now createdFrom) with
  | none => return none
  | some candidate => do
      let expiresAt ← requestedLease deployment request.permanent request.expiresAt
      Task.hosts
        (.claim candidate.id request.serviceAccount now
          (vm.leaseEnd candidate.createdAt expiresAt))

def lookupIdempotencyKey (key : String) (serviceAccount : Option String) :
    Task (Option Host) := do
  match ← Task.keys (.get key) with
  | none => return none
  | some record =>
      let now ← Task.clock
      match ← (if now < record.expiresAt then Task.hosts (.get record.hostId) else pure none) with
      | some host =>
          if host.serviceAccount ≠ serviceAccount then
            Task.fail .idempotencyKeyConflict
              ("idempotency key " ++ key ++ " belongs to another service account")
          else
            return some host
      | none =>
          Task.keys (.delete key)
          return none

def recordIdempotencyKey (key : String) (host : Host) : Task Bool := do
  let now ← Task.clock
  Task.keys
    (.insert
      { key
        hostId := host.id
        createdAt := now
        expiresAt := now + hours deployment.settings.idempotencyKeyTtlHours })

def releaseIdempotencyLoser (host : Host) : Task Unit := do
  match ← Task.hosts (.get host.id) with
  | none => return ()
  | some fresh =>
      let now ← Task.clock
      if fresh.claimedAt.isSome then
        let vm ← Program.ofExcept (deployment.getVmProvider (some fresh.provider))
        commit .disposal fresh.id
          { claimedAt := some none
            serviceAccount := some none
            expiresAt :=
              some
                (vm.leaseEnd fresh.createdAt
                  (some (now + hours deployment.settings.poolHostMaxAgeHours)))
            updatedAt := now }
      else
        commit .disposal fresh.id { expiresAt := some (some now), updatedAt := now }

/-- The account whose hosts are limited, with its limit. -/
def accountLimit (serviceAccount : Option String) : Option (String × ℕ) := do
  let limit ← deployment.settings.hostLimitPerServiceAccount
  let account ← serviceAccount
  if limit ≠ 0 ∧ account ≠ ServiceAccount.admin then some (account, limit) else none

/-- The limit of a service account. -/
def checkAccountLimit (serviceAccount : Option String) : Task Unit :=
  match accountLimit deployment serviceAccount with
  | none => return ()
  | some (account, limit) => do
      let live ← countLiveHosts (.serviceAccount account)
      if limit ≤ live then
        Task.fail .hostCapacity ("service account '" ++ account ++ "' is at its host limit")
      else
        return ()

/-- A warm host, for an uncustomized request to a provider with a pool. -/
def warmHost (request : HostRequest) : Task (Option Host) :=
  let provider := (given request.provider).getD deployment.settings.defaultHostProvider
  if ¬ request.customized ∧ (deployment.settings.getPoolTargets.lookup provider).isSome then
    tryClaimPoolHost deployment request provider
  else
    return none

/-- A warm host, else a new one. -/
def obtainHost (request : HostRequest) : Task Host := do
  match ← warmHost deployment request with
  | some host => return host
  | none => createHost deployment request false

/-- A host that lost the race for its key goes, and the winner's is returned. -/
def yieldToWinner (key : String) (serviceAccount : Option String) (host : Host) : Task Host := do
  releaseIdempotencyLoser deployment host
  match ← lookupIdempotencyKey key serviceAccount with
  | some winner => return winner
  | none => Task.fail .hostState "idempotency race could not be resolved"

/-- What `get_or_create_host` refuses before it reads the database. -/
def checkProvider (provider : Option String) : Except Failure Unit :=
  match given provider with
  | none => .ok ()
  | some provider =>
      let registered := deployment.getProviderNames
      if provider ∈ registered then .ok ()
      else
        .error
          { kind := .unknownProvider
            detail :=
              "unknown provider '" ++ provider ++ "'; available: " ++
                ", ".intercalate (registered.mergeSort (· ≤ ·)) }

def getOrCreateHost (request : HostRequest) : Task Host := do
  Program.ofExcept (checkProvider deployment request.provider)
  match given request.idempotencyKey with
  | none =>
      checkAccountLimit deployment request.serviceAccount
      obtainHost deployment request
  | some key =>
      match ← lookupIdempotencyKey key request.serviceAccount with
      | some existing => return existing
      | none =>
          checkAccountLimit deployment request.serviceAccount
          let host ← obtainHost deployment request
          let recorded ← recordIdempotencyKey deployment key host
          if recorded then return host
          else yieldToWinner deployment key request.serviceAccount host

def renewHost (id : HostId) (expiresAt : Option ℤ) : Task Host := do
  match ← Task.hosts (.lock id) with
  | none => Task.fail .resourceNotFound "host not found"
  | some host =>
      if host.poolMember ∧ host.claimedAt.isNone then
        Task.fail .hostState "unclaimed pool host is managed by pool maintenance"
      else if ¬ host.status.renewable then
        Task.fail .hostState ("cannot renew a host in status " ++ host.status.value)
      else do
        let vm ← Program.ofExcept (deployment.getVmProvider (some host.provider))
        let expiresAt ← requestedLease deployment false expiresAt
        let updatedAt ← Task.clock
        commit .renewal id
          { expiresAt := some (vm.leaseEnd host.createdAt expiresAt), updatedAt }
        refresh id

/-- The flags of `delete_host`. -/
structure DeleteFlags where
  force : Bool := false
  poolShed : Bool := false
  expiredOnly : Bool := false
  deriving DecidableEq, Repr

/-- The lease guard of `delete_host`: true spares the host. -/
def renewed (host : Host) : Task Bool :=
  match host.expiresAt with
  | none => return true
  | some expiresAt => do
      let now ← Task.clock
      return decide (now < expiresAt)

/-- The maintenance guards of `delete_host`. -/
def spared (flags : DeleteFlags) (host : Host) : Task Bool :=
  if flags.poolShed ∧ host.claimedAt.isSome then return true
  else if flags.expiredOnly then renewed host
  else return false

/-- The release of the device.  Its commit gives up the row's lock. -/
def releaseDevice (host : Host) : Task Unit :=
  match given host.tailscaleDeviceId, deployment.tailnet with
  | some deviceId, some _ => do
      let released ← Task.outside (.releaseDevice deviceId)
      Program.ofExcept released
      let updatedAt ← Task.clock
      commit .deviceRelease host.id { tailscaleDeviceId := some none, updatedAt }
  | _, _ => return ()

/-- The secrets go, then the VM. -/
def removeVm (host : Host) : Task Unit := do
  let _ ← Program.ofExcept (deployment.getVmProvider (some host.provider))
  let forgotten ← Task.outside (.deleteSecrets host.name)
  Program.ofExcept forgotten
  match ← Task.vm (.delete host) with
  | .ok () => return ()
  | .error failure =>
      if failure.kind = .providerNotFound then return () else .raise failure

/-- What `delete_host` does before it deletes the row. -/
def tearDown (flags : DeleteFlags) (host : Host) : Task Unit :=
  if flags.force ∨ host.status.vmBacked then do
    releaseDevice deployment host
    removeVm deployment host
  else
    return ()

def deleteHost (id : HostId) (flags : DeleteFlags) : Task Bool := do
  match ← Task.hosts (.lock id) with
  | none => Task.fail .resourceNotFound "host not found"
  | some host =>
      let spares ← spared flags host
      if spares then return false
      else if ¬ flags.force ∧ host.status.deleteBlocked then
        Task.fail .hostState "host is still provisioning"
      else do
        tearDown deployment flags host
        Task.hosts (.delete id)
        return true

/-- `async with async_session_factory() as session`: the session ends with its block. -/
def inSession {α : Type} (program : Task α) : Task α :=
  program.closing (Program.await Op.rollback)

/-- The deletes of one janitor run. -/
def reapEach : List HostId → Task (List HostId)
  | [] => return []
  | id :: rest => do
      let deleted ←
        (inSession (deleteHost deployment id { force := true, expiredOnly := true })).attempt
      let reaped ← reapEach rest
      match deleted with
      | .ok true => return id :: reaped
      | _ => return reaped

def reapExpiredHosts : Task (List HostId) := do
  let now ← Task.clock
  let expired ← Task.hosts (.expired now)
  reapEach deployment expired

end HostService

end Drukbox
