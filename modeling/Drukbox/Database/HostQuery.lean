import Drukbox.Database.State

/-!
# Statements on host rows

One statement with the `COMMIT` that follows it, where one does, is one step: an `UPDATE` keeps its
row from every other session until its transaction ends.  A statement that meets another session's
row lock waits.
-/

namespace Drukbox

/-- What `_count_live_hosts` counts. -/
inductive CountScope
  | serviceAccount (name : String)
  | provider (name : String)
  deriving DecidableEq, Repr

namespace CountScope

/-- The key of the advisory lock. -/
def key : CountScope → String
  | serviceAccount name => "service_account:" ++ name
  | provider name => "provider:" ++ name

/-- The condition on a host. -/
def counts : CountScope → Host → Bool
  | serviceAccount name, host => host.serviceAccount == some name
  | provider name, host => host.provider == name

end CountScope

/-- `last_used_at` as `create_host` sets it on the template that it loaded. -/
structure TemplateLease where
  template : TemplateId
  /-- The value of the loaded object. -/
  loaded : Option ℤ
  usedAt : ℤ
  deriving DecidableEq, Repr

/-- The ORM sends no `UPDATE` for a value that equals the loaded one. -/
def TemplateLease.changed (lease : TemplateLease) : Bool :=
  lease.loaded != some lease.usedAt

/-- The place in `HostService` that commits a loaded host. -/
inductive HostCommit
  /-- `provision`. -/
  | progress
  /-- `mark_failed`. -/
  | failure
  /-- `renew_host`. -/
  | renewal
  /-- `_release_idempotency_loser`. -/
  | disposal
  /-- `delete_host`, after the device is released. -/
  | deviceRelease
  deriving DecidableEq, Repr

/-- What an outside party's answer or an open order of rows leaves to chance. -/
inductive Choice
  | go
  | number (number : ℕ)
  | numbers (numbers : List ℕ)
  | text (text : String)
  | environment (environment : Dict String)
  | names (names : List String)
  | vm (result : VMCreateResult)
  | failed (failure : Failure)
  deriving DecidableEq, Repr

/-- Statements on `hosts`. -/
inductive HostQuery
  /-- `session.get` and `session.refresh`. -/
  | get (id : HostId)
  /-- `SELECT ... FOR UPDATE`. -/
  | lock (id : HostId)
  /-- The janitor's candidates. -/
  | expired (now : ℤ)
  /-- The number of warm hosts of each provider that has one. -/
  | warm (now : ℤ)
  /-- The oldest warm hosts of a provider. -/
  | excess (provider : String) (now : ℤ) (limit : ℕ)
  | count (scope : CountScope) (now : ℤ)
  /-- The oldest warm host, with the earliest `created_at` that a long lease admits. -/
  | candidate (provider : String) (now : ℤ) (createdFrom : Option ℤ)
  /-- The claim's `UPDATE ... WHERE claimed_at IS NULL` and its `COMMIT`. -/
  | claim (id : HostId) (serviceAccount : Option String) (now : ℤ) (expiresAt : Option ℤ)
  /-- The `INSERT`, with the template's `UPDATE` of the same flush. -/
  | insert (host : Host) (lease : Option TemplateLease)
  | update (commit : HostCommit) (id : HostId) (columns : HostColumns)
  /-- The lease stamp `UPDATE ... WHERE expires_at = initial`, in a session of its own. -/
  | stamp (id : HostId) (initial : ℤ) (expiresAt : Option ℤ) (updatedAt : ℤ)
  | delete (id : HostId)

/-- What a statement on `hosts` returns. -/
@[reducible] def HostQuery.Answer : HostQuery → Type
  | get _ => Option Host
  | lock _ => Option Host
  | expired _ => List HostId
  | warm _ => Dict ℕ
  | excess _ _ _ => List HostId
  | count _ _ => ℕ
  | candidate _ _ _ => Option Host
  | claim _ _ _ _ => Option Host
  | insert _ _ => Except Failure Unit
  | update _ _ _ => Bool
  | stamp _ _ _ _ => Unit
  | delete _ => Unit

namespace Host

/-- `expires_at IS NOT NULL AND expires_at < now`. -/
def expiredBefore (host : Host) (now : ℤ) : Bool :=
  host.expiresAt.any fun expiresAt => expiresAt < now

/-- The conditions of the candidate query of `_try_claim_pool_host`. -/
def claimable (provider : String) (now : ℤ) (createdFrom : Option ℤ) (host : Host) : Bool :=
  host.provider == provider && host.poolMember && host.claimedAt.isNone &&
    host.status == .active && host.unexpired now &&
      createdFrom.all fun earliest => earliest ≤ host.createdAt

/-- The conditions of the pool maintainer's queries. -/
def warm (now : ℤ) (host : Host) : Bool :=
  host.poolMember && host.claimedAt.isNone && host.live now

/-- The columns of a claim. -/
def claimColumns (serviceAccount : Option String) (now : ℤ) (expiresAt : Option ℤ) :
    HostColumns :=
  { serviceAccount := some serviceAccount
    claimedAt := some (some now)
    updatedAt := now
    expiresAt := some expiresAt }

end Host

namespace HostQuery

variable {ι : Type} [DecidableEq ι]

/-- Rows that reference a deleted host go with it. -/
def cascade (keys : Table String IdempotencyKey) (id : HostId) : Table String IdempotencyKey :=
  keys.filter fun record => record.hostId != id

/-- The templates after the `UPDATE` of a lease. -/
def leased (templates : Table TemplateId Template) : Option TemplateLease →
    Table TemplateId Template
  | none => templates
  | some lease =>
      if lease.changed then
        templates.modify lease.template fun row => { row with lastUsedAt := some lease.usedAt }
      else
        templates

/-- A lease that the ORM sends waits for its row. -/
def leaseWaits (session : ι) (state : State ι) (lease : Option TemplateLease) : Bool :=
  lease.any fun lease =>
    lease.changed && !decide (State.Free session (state.templateLock lease.template))

/-- A lease that the ORM sends matches no row. -/
def leaseLost (state : State ι) (lease : Option TemplateLease) : Bool :=
  lease.any fun lease => lease.changed && (state.templates.get lease.template).isNone

/-- `ORDER BY created_at LIMIT`: the oldest rows that satisfy a condition, in their order. -/
def Oldest (hosts : Table HostId Host) (good : Host → Bool) (limit : ℕ) (ids : List HostId) :
    Prop :=
  ids.Nodup ∧ ids.length = min limit (hosts.count good) ∧
    (∀ id ∈ ids, (hosts.get id).any fun host => good host &&
      decide (∀ other ∈ hosts.keys, other ∉ ids → (hosts.get other).all fun row =>
        !good row || host.createdAt ≤ row.createdAt)) ∧
    ids.Pairwise fun first second =>
      (hosts.get first).all fun host => (hosts.get second).all fun other =>
        host.createdAt ≤ other.createdAt

instance (hosts : Table HostId Host) (good : Host → Bool) (limit : ℕ) (ids : List HostId) :
    Decidable (Oldest hosts good limit ids) :=
  inferInstanceAs (Decidable (_ ∧ _ ∧ _ ∧ _))

/-- Execute a statement: `none` while it waits. -/
def perform (session : ι) (choice : Choice) (state : State ι) :
    (query : HostQuery) → Option (query.Answer × State ι)
  | get id => some (state.hosts.get id, state)
  | lock id =>
      if State.Free session (state.hostLock id) then
        match state.hosts.get id with
        | none => some (none, state)
        | some host =>
            some (some host,
              { state with hostLock := Function.update state.hostLock id (some session) })
      else
        none
  | expired now =>
      match choice with
      | .numbers ids =>
          if ids.Nodup ∧ ids.toFinset =
              state.hosts.keys.filter fun id => (state.hosts.get id).any (·.expiredBefore now) then
            some (ids, state)
          else
            none
      | _ => none
  | warm now =>
      match choice with
      | .names providers =>
          if providers.Nodup ∧ providers.toFinset =
              (state.hosts.keys.filter fun id => (state.hosts.get id).any (·.warm now)).image
                fun id => ((state.hosts.get id).map Host.provider).getD "" then
            some
              (providers.map fun provider =>
                (provider, state.hosts.count fun host =>
                  host.provider == provider && host.warm now),
                state)
          else
            none
      | _ => none
  | excess provider now limit =>
      match choice with
      | .numbers ids =>
          if Oldest state.hosts (fun host => host.provider == provider && host.warm now) limit ids
          then some (ids, state)
          else none
      | _ => none
  | count scope now =>
      some (state.hosts.count fun host => scope.counts host && host.live now, state)
  | candidate provider now createdFrom =>
      match choice with
      | .number id =>
          match state.hosts.get id with
          | some host =>
              if host.claimable provider now createdFrom ∧
                  ¬ state.hosts.any fun other =>
                    other.claimable provider now createdFrom && other.createdAt <
                      host.createdAt then
                some (some host, state)
              else
                none
          | none => none
      | _ =>
          if state.hosts.any fun host => host.claimable provider now createdFrom then none
          else some (none, state)
  | claim id serviceAccount now expiresAt =>
      if State.Free session (state.hostLock id) then
        match state.hosts.get id with
        | some host =>
            if host.claimedAt.isNone then
              let claimed := host.set (Host.claimColumns serviceAccount now expiresAt)
              some (some claimed,
                { state with hosts := state.hosts.insert id claimed }.release session)
            else
              some (none, state.release session)
        | none => some (none, state.release session)
      else
        none
  | insert host lease =>
      if leaseWaits session state lease then none
      else if leaseLost state lease then
        some (.error { kind := .staleData, detail := "UPDATE statement on table 'templates'" },
          state)
      else if (state.hosts.get host.id).isSome ∨
          state.hosts.any fun other => other.name == host.name then
        some (.error { kind := .integrity, detail := "duplicate key value" }, state)
      else
        some (.ok (),
          { state with
            hosts := state.hosts.insert host.id host
            templates := leased state.templates lease }.release session)
  | update _ id columns =>
      if State.Free session (state.hostLock id) then
        match state.hosts.get id with
        | some host =>
            some (true,
              { state with hosts := state.hosts.insert id (host.set columns) }.release session)
        | none => some (false, state)
      else
        none
  | stamp id initial expiresAt updatedAt =>
      if state.hostLock id = none then
        match state.hosts.get id with
        | some host =>
            if host.expiresAt = some initial then
              some ((),
                { state with
                  hosts :=
                    state.hosts.insert id
                      (host.set { expiresAt := some expiresAt, updatedAt }) })
            else
              some ((), state)
        | none => some ((), state)
      else
        none
  | delete id =>
      if State.Free session (state.hostLock id) then
        some ((),
          { state with
            hosts := state.hosts.erase id
            keys := cascade state.keys id }.release session)
      else
        none

end HostQuery

end Drukbox
