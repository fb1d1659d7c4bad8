import Drukbox.Hosts.Vocabulary
import Drukbox.Await.Contract

/-!
# The contract of pool claims

A call claims the warm host that it selected, of the provider that it was asked for, and disposes
only of the host that it holds.  Only the pool maintainer makes pool members.
-/

namespace Drukbox

open Await Program HostService

/-- What a task knows of the pool from its own steps. -/
structure Claimant where
  /-- The provider that it may claim from. -/
  provider : Option String := none
  /-- The hosts that it creates are pool members. -/
  pool : Bool := false
  /-- The warm host that it selected, and when. -/
  selected : Option (ℤ × Host) := none
  /-- The host that it claimed, or created for its caller. -/
  held : Option HostId := none

/-- What anyone may do at any time. -/
def Op.common : Op → Prop
  | .hosts (.insert _ _) | .hosts (.candidate _ _ _) | .hosts (.claim _ _ _ _)
  | .hosts (.stamp _ _ _ _) | .hosts (.update .disposal _ _) => False
  | _ => True

theorem Op.common_of_provisions {op : Op} (provisions : op.provisions) : op.common := by
  cases op with
  | hosts query =>
      cases query with
      | update place id columns => cases place <;> trivial
      | get | lock | expired | warm | excess | count | delete => trivial
      | candidate | claim | insert | stamp => cases provisions
  | clock | uuid7 | advisoryLock | rollback | keys | templates | outside | vm => trivial

theorem Op.common_of_reads {op : Op} (reads : op.reads) : op.common :=
  Op.common_of_provisions (Op.provisions_of_reads reads)

theorem Op.common_of_deletes {op : Op} {id : HostId} (deletes : op.deletes id) : op.common := by
  cases op with
  | hosts query =>
      cases query with
      | update place id columns => cases place <;> trivial
      | lock | delete => trivial
      | get | expired | warm | excess | count | candidate | claim | insert | stamp => cases deletes
  | clock | rollback | outside | vm => trivial
  | uuid7 | advisoryLock | keys | templates => cases deletes

namespace Claimant

/-- The steps on `hosts` that a task may take. -/
def allowsHosts (phase : Claimant) : HostQuery → Prop
  | .insert host _ => host.poolMember = phase.pool
  | .candidate provider _ _ => phase.provider = some provider
  | .claim id _ now _ => ∃ row, phase.selected = some (now, row) ∧ row.id = id
  | .update .disposal id _ => phase.held = some id
  | .get _ | .lock _ | .expired _ | .warm _ | .excess _ _ _ | .count _ _ | .update _ _ _
  | .stamp _ _ _ _ | .delete _ => True

/-- The rows that a task counts on. -/
def expectsHosts : (query : HostQuery) → query.Answer → Prop
  | .get id, some row => row.id = id
  | .claim id _ _ _, some row => row.id = id
  | _, _ => True

/-- What a statement on `hosts` teaches a task. -/
def nextHosts (phase : Claimant) : (query : HostQuery) → query.Answer → Claimant
  | .candidate _ now _, row => { phase with selected := row.map (now, ·) }
  | .claim id _ _ _, some _ => { phase with held := some id }
  | .stamp id _ _ _, () => if phase.pool then phase else { phase with held := some id }
  | .update .disposal _ _, _ => { phase with held := none }
  | .get _, _ | .lock _, _ | .expired _, _ | .warm _, _ | .excess _ _ _, _ | .count _ _, _
  | .claim _ _ _ _, none | .insert _ _, _ | .update _ _ _, _ | .delete _, _ => phase

/-- The contract of every task that may touch the pool. -/
def contract : Contract Op.Answer Claimant where
  allows phase
    | .hosts query => phase.allowsHosts query
    | .clock | .uuid7 | .advisoryLock _ | .rollback | .keys _ | .templates _ | .outside _
    | .vm _ => True
  expects _
    | .hosts query => expectsHosts query
    | .clock | .uuid7 | .advisoryLock _ | .rollback | .keys _ | .templates _ | .outside _
    | .vm _ => fun _ => True
  next phase
    | .hosts query => phase.nextHosts query
    | .clock | .uuid7 | .advisoryLock _ | .rollback | .keys _ | .templates _ | .outside _
    | .vm _ => fun _ => phase

variable {deployment : Deployment} {base phase : Claimant} {host : Host} {request : HostRequest}

/-- What a call was asked for stays. -/
def Keeps (phase later : Claimant) : Prop :=
  later.provider = phase.provider ∧ later.pool = phase.pool

theorem common_allowed {op : Op} (common : op.common) :
    contract.allows phase op ∧ ∀ answer, contract.next phase op answer = phase := by
  cases op with
  | hosts query =>
      cases query with
      | update place id columns =>
          cases place <;> first | exact ⟨trivial, fun _ => rfl⟩ | cases common
      | get | lock | expired | warm | excess | count | delete => exact ⟨trivial, fun _ => rfl⟩
      | candidate | claim | insert | stamp => cases common
  | clock | uuid7 | advisoryLock | rollback | keys | templates | outside | vm =>
      exact ⟨trivial, fun _ => rfl⟩

theorem common_follows {α : Type} {program : Task α} (all : program.All Op.common) :
    Follows contract (fun later (_ : Except Failure α) => later = phase) phase program := by
  refine Follows.of_all all (fun later => later = phase) rfl ?_
  rintro op _ common rfl
  obtain ⟨allowed, same⟩ := common_allowed common
  exact ⟨allowed, fun answer _ => same answer⟩

theorem common_keeps {α : Type} {program : Task α} (all : program.All Op.common)
    (kept : Keeps base phase) :
    Follows contract (Ends (Keeps base) fun later _ => later = phase) phase program := by
  refine (common_follows all).weaken ?_
  rintro later outcome rfl
  cases outcome with
  | ok value => rfl
  | error error => exact kept

theorem common_returns {α : Type} {program : Task α} (all : program.All Op.common) :
    Follows contract (Returns fun later _ => later = phase) phase program := by
  refine (common_follows all).weaken fun later outcome ended => ?_
  cases outcome with
  | ok value => exact ended
  | error error => trivial

theorem refresh_follows {id : HostId} (kept : Keeps base phase) :
    Follows contract (Ends (Keeps base) fun later row => later = phase ∧ row.id = id) phase
      (refresh id) := by
  refine .step trivial fun row expected => ?_
  cases row with
  | none => exact kept
  | some row => exact ⟨rfl, expected⟩

theorem createHost_follows {poolMember : Bool} (made : phase.pool = poolMember) :
    Follows contract
      (Ends (Keeps phase) fun later host =>
        Keeps phase later ∧ (poolMember = false → later.held = some host.id)) phase
      (createHost deployment request poolMember) := by
  have refused : Keeps phase phase := ⟨rfl, rfl⟩
  have reads {α : Type} {program : Task α} (all : program.All Op.reads) :=
    common_keeps (all.mono fun _ => Op.common_of_reads) refused
  unfold createHost
  cases deployment.getVmProvider request.provider with
  | error failure => exact refused
  | ok vm =>
  simp only [ofExcept_ok, bind_eq_bind, done_bind]
  cases checkRequest deployment request vm with
  | error failure => exact refused
  | ok _ =>
  simp only [ofExcept_ok, done_bind]
  refine .seq (reads resolveImage_reads) ?_
  rintro _ image rfl
  refine .step trivial fun id _ => .step trivial fun now _ => ?_
  refine .seq (reads (checkProviderLimit_reads _)) ?_
  rintro _ _ rfl
  refine .step made.symm fun inserted _ => ?_
  cases inserted with
  | error failure => exact refused
  | ok _ =>
  simp only [ofExcept_ok, done_bind]
  refine .seq (refresh_follows refused) ?_
  rintro _ host ⟨rfl, -⟩
  refine .seq (common_keeps (provision_provisions.mono fun _ => Op.common_of_provisions) refused) ?_
  rintro _ _ rfl
  refine .seq (refresh_follows refused) ?_
  rintro phase provisioned ⟨rfl, provisioned_id⟩
  split
  · exact refused
  refine .seq (?_ : Follows _ (Ends (Keeps phase) fun later _ =>
    Keeps phase later ∧ (poolMember = false → later.held = some provisioned.id)) _ _) ?_
  · refine .seq (reads (requestedLease_reads _ _)) ?_
    rintro _ expiresAt rfl
    refine .step trivial fun updatedAt _ => .step trivial fun _ _ => ?_
    cases poolMember with
    | true => exact ⟨by simp [Keeps, contract, nextHosts, made], by simp⟩
    | false =>
        exact ⟨by simp [Keeps, contract, nextHosts, made], by simp [contract, nextHosts, made]⟩
  · rintro later _ ⟨kept, held⟩
    refine (refresh_follows kept).returns ?_
    rintro last row ⟨rfl, same⟩
    refine ⟨kept, fun fresh => ?_⟩
    rw [held fresh, provisioned_id, same]

theorem tryClaimPoolHost_follows {provider : String} (asked : phase.provider = some provider) :
    Follows contract
      (Ends (Keeps phase) fun later found =>
        Keeps phase later ∧ ∀ host, found = some host → later.held = some host.id) phase
      (tryClaimPoolHost deployment request provider) := by
  refine .step trivial fun now _ => ?_
  cases deployment.getVmProvider (some provider) with
  | error failure => exact ⟨rfl, rfl⟩
  | ok vm =>
  simp only [ofExcept_ok, bind_eq_bind, done_bind]
  refine .step asked fun found _ => ?_
  cases found with
  | none => exact ⟨⟨rfl, rfl⟩, by simp⟩
  | some candidate =>
  refine .seq (common_keeps ((requestedLease_reads _ _).mono fun _ => Op.common_of_reads)
    ⟨rfl, rfl⟩) ?_
  rintro _ expiresAt rfl
  refine ⟨⟨candidate, rfl, rfl⟩, fun claimed same => ?_⟩
  cases claimed with
  | none => exact ⟨⟨rfl, rfl⟩, by simp⟩
  | some host =>
      refine ⟨⟨rfl, rfl⟩, ?_⟩
      rintro _ ⟨⟩
      exact congrArg some (Eq.symm same)

/-- The provider that a request asks for. -/
def asked (deployment : Deployment) (request : HostRequest) : String :=
  (given request.provider).getD deployment.settings.defaultHostProvider

theorem obtainHost_follows (names : phase.provider = some (asked deployment request))
    (made : phase.pool = false) :
    Follows contract (Ends (Keeps phase) fun later host => later.held = some host.id) phase
      (obtainHost deployment request) := by
  have warm : Follows contract
      (Ends (Keeps phase) fun later found =>
        Keeps phase later ∧ ∀ host, found = some host → later.held = some host.id) phase
      (warmHost deployment request) := by
    unfold warmHost
    dsimp only
    split
    · exact tryClaimPoolHost_follows names
    · exact ⟨⟨rfl, rfl⟩, by simp⟩
  refine .seq warm fun later found obtained => ?_
  cases found with
  | some host => exact obtained.2 host rfl
  | none =>
      refine (createHost_follows (obtained.1.2.trans made)).weaken fun last outcome ended => ?_
      cases outcome with
      | ok host => exact ended.2 rfl
      | error error => exact ⟨ended.1.trans obtained.1.1, ended.2.trans obtained.1.2⟩

theorem lookupIdempotencyKey_common (key : String) (serviceAccount : Option String) :
    (lookupIdempotencyKey key serviceAccount).All Op.common :=
  lookupIdempotencyKey_all (fun _ => trivial) trivial (fun _ => trivial) key serviceAccount

theorem releaseIdempotencyLoser_follows (held : phase.held = some host.id) :
    Follows contract (Returns fun _ _ => True) phase
      (releaseIdempotencyLoser deployment host) := by
  refine .step trivial fun row same => ?_
  cases row with
  | none => trivial
  | some fresh =>
  have holds : phase.held = some fresh.id := held.trans (congrArg some (Eq.symm same))
  have commits (columns : HostColumns) : Follows contract (Returns fun _ _ => True) phase
      (commit .disposal fresh.id columns) := by
    refine .step holds fun matched _ => ?_
    cases matched <;> trivial
  refine .step trivial fun now _ => ?_
  split
  · cases deployment.getVmProvider (some fresh.provider) with
    | error failure => trivial
    | ok vm => exact commits _
  · exact commits _

theorem getOrCreateHost_follows (names : phase.provider = some (asked deployment request))
    (made : phase.pool = false) :
    Follows contract (Returns fun _ _ => True) phase (getOrCreateHost deployment request) := by
  have limits {later : Claimant} : Follows contract (Returns fun last _ => last = later) later
      (checkAccountLimit deployment request.serviceAccount) :=
    common_returns ((checkAccountLimit_reads _).mono fun _ => Op.common_of_reads)
  have obtains : Follows contract (Returns fun later host => later.held = some host.id) phase
      (obtainHost deployment request) := by
    refine (obtainHost_follows names made).weaken fun last outcome ended => ?_
    cases outcome with
    | ok host => exact ended
    | error error => trivial
  unfold getOrCreateHost
  cases checkProvider deployment request.provider with
  | error failure => trivial
  | ok _ =>
  simp only [ofExcept_ok, bind_eq_bind, done_bind]
  split
  · refine .seq limits ?_
    rintro _ _ rfl
    exact obtains.any
  · refine .seq (common_returns (lookupIdempotencyKey_common _ _)) ?_
    rintro _ existing rfl
    cases existing with
    | some existing => trivial
    | none =>
    refine .seq limits ?_
    rintro _ _ rfl
    refine .seq obtains fun later host held => ?_
    refine .step trivial fun now _ => .step trivial fun recorded _ => ?_
    split
    · trivial
    · refine .seq (releaseIdempotencyLoser_follows held) fun last _ _ => ?_
      refine .seq (common_returns (lookupIdempotencyKey_common _ _)) fun _ winner _ => ?_
      cases winner <;> trivial

end Claimant

namespace HostService

variable {deployment : Deployment}

theorem commit_common {place : HostCommit} {id : HostId} {columns : HostColumns}
    (common : Op.common (.hosts (.update place id columns))) :
    (commit place id columns).All Op.common := by
  refine .step common fun matched => ?_
  cases matched <;> trivial

theorem renewHost_common {id : HostId} {expiresAt : Option ℤ} :
    (renewHost deployment id expiresAt).All Op.common := by
  refine .step trivial fun locked => ?_
  cases locked with
  | none => trivial
  | some host =>
  dsimp only
  split
  · trivial
  split
  · trivial
  cases deployment.getVmProvider (some host.provider) with
  | error failure => trivial
  | ok vm =>
  simp only [ofExcept_ok, bind_eq_bind, done_bind]
  refine .bind ((requestedLease_reads _ _).mono fun _ => Op.common_of_reads) fun _ =>
    .step trivial fun _ => .bind (commit_common trivial) fun _ => ?_
  exact (refresh_reads _).mono fun _ => Op.common_of_reads

theorem deleteHost_common {id : HostId} {flags : DeleteFlags} :
    (deleteHost deployment id flags).All Op.common :=
  deleteHost_deletes.mono fun _ => Op.common_of_deletes

theorem inSession_common {α : Type} {program : Task α} (all : program.All Op.common) :
    (inSession program).All Op.common :=
  .closing all ⟨trivial, fun _ => trivial⟩

theorem inSession_deletes {id : HostId} {flags : DeleteFlags} :
    (inSession (deleteHost deployment id flags)).All (Op.deletes id) :=
  .closing deleteHost_deletes ⟨trivial, fun _ => trivial⟩

theorem reapEach_of {good : Op → Prop}
    (deletes : ∀ id flags, (inSession (deleteHost deployment id flags)).All good)
    (ids : List HostId) : (reapEach deployment ids).All good := by
  induction ids with
  | nil => trivial
  | cons id rest ih =>
      refine .bind (.attempt (deletes _ _)) fun deleted => .bind ih fun reaped => ?_
      split <;> trivial

theorem reapEach_all {good : Op → Prop} (deletes : ∀ {id op}, op.deletes id → good op)
    (ids : List HostId) : (reapEach deployment ids).All good :=
  reapEach_of (fun _ _ => inSession_deletes.mono fun _ => deletes) ids

theorem reapEach_common (ids : List HostId) : (reapEach deployment ids).All Op.common :=
  reapEach_all Op.common_of_deletes ids

theorem excessIds_all {good : Op → Prop}
    (excess : ∀ provider now limit, good (.hosts (.excess provider now limit)))
    (targets counts : Dict ℕ) (now : ℤ) (providers : List String) :
    (Pool.excessIds targets counts now providers).All good := by
  induction providers with
  | nil => trivial
  | cons provider rest ih =>
      unfold Pool.excessIds
      dsimp only
      split
      · exact ih
      · exact .step (excess _ _ _) fun _ => .bind ih fun _ => trivial

theorem excessIds_common (targets counts : Dict ℕ) (now : ℤ) (providers : List String) :
    (Pool.excessIds targets counts now providers).All Op.common :=
  excessIds_all (fun _ _ _ => trivial) targets counts now providers

theorem shedEach_of {good : Op → Prop}
    (deletes : ∀ id flags, (inSession (deleteHost deployment id flags)).All good)
    (ids : List HostId) (removed : ℕ) : (Pool.shedEach deployment ids removed).All good := by
  induction ids generalizing removed with
  | nil => trivial
  | cons id rest ih =>
      refine .bind (.attempt (deletes _ _)) fun outcome => ?_
      split <;> exact ih _

theorem shedEach_all {good : Op → Prop} (deletes : ∀ {id op}, op.deletes id → good op)
    (ids : List HostId) (removed : ℕ) : (Pool.shedEach deployment ids removed).All good :=
  shedEach_of (fun _ _ => inSession_deletes.mono fun _ => deletes) ids removed

theorem shedEach_common (ids : List HostId) (removed : ℕ) :
    (Pool.shedEach deployment ids removed).All Op.common :=
  shedEach_all Op.common_of_deletes ids removed

end HostService

namespace Claimant

variable {deployment : Deployment} {phase : Claimant}

theorem topUp_follows (batch : List String) (failures created : ℕ) (made : phase.pool = true) :
    Follows contract (Returns fun _ _ => True) phase
      (Pool.topUp deployment batch failures created) := by
  induction batch generalizing phase failures created with
  | nil => trivial
  | cons provider rest ih =>
      have creates : Follows contract (fun later (_ : Except Failure Host) =>
        later.pool = true) phase
          (inSession do
            let now ← Task.clock
            createHost deployment
              { provider := some provider
                expiresAt := some (now + hours deployment.settings.poolHostMaxAgeHours) }
                  true) := by
        refine .closing (.step trivial fun _ _ => (createHost_follows made).weaken ?_)
        intro later outcome ended
        refine ⟨trivial, fun _ _ => ?_⟩
        cases outcome with
        | ok host => exact ended.1.2.trans made
        | error error => exact ended.2.trans made
      refine .bind (.attempt (creates.weaken fun later outcome made => ?_))
      cases outcome with
      | ok host => exact ih _ _ made
      | error failure =>
          dsimp only
          split
          · trivial
          · exact ih _ _ made

theorem maintainPool_follows (made : phase.pool = true) :
    Follows contract (Returns fun _ _ => True) phase (Pool.maintainPool deployment) := by
  unfold Pool.maintainPool
  dsimp only
  split
  · trivial
  · refine .step trivial fun now _ => ?_
    have surveyed : (Pool.survey deployment.settings.getPoolTargets now).All Op.common :=
      inSession_common (.step trivial fun _ => .bind (excessIds_common _ _ _ _) fun _ => trivial)
    refine .seq (common_returns surveyed) ?_
    rintro _ _ rfl
    refine .step trivial fun shuffled _ => .seq (topUp_follows _ _ _ made) fun _ created _ => ?_
    exact .seq (common_returns (shedEach_common _ _)).any fun _ removed _ => trivial

/-- What a task may know before its first step. -/
def initial (deployment : Deployment) : HostCall → Claimant
  | .getOrCreate request => { provider := some (asked deployment request) }
  | .create _ poolMember => { pool := poolMember }
  | .maintain => { pool := true }
  | .renew _ _ | .delete _ _ | .reap => {}

/-- Every task of the host service keeps to the contract. -/
theorem program_follows (call : HostCall) :
    Follows contract (fun _ (_ : Except Failure Reply) => True) (initial deployment call)
      (call.program deployment) := by
  have ended {α : Type} {program : Task α} {phase : Claimant} (reply : α → Reply)
      (follows : Follows contract (Returns fun _ _ => True) phase program) :
      Follows contract (fun _ (_ : Except Failure Reply) => True) phase (reply <$> program) :=
    .bind (follows.weaken fun _ outcome _ => by cases outcome <;> trivial)
  have session {α : Type} {program : Task α} {phase : Claimant}
      (follows : Follows contract (Returns fun _ _ => True) phase program) :
      Follows contract (Returns fun _ _ => True) phase (inSession program) := by
    refine .closing (follows.weaken fun _ outcome _ => ⟨trivial, fun _ _ => ?_⟩)
    cases outcome <;> trivial
  cases call with
  | getOrCreate request => exact ended _ (session (getOrCreateHost_follows rfl rfl))
  | create request poolMember => exact ended _ (session (createHost_follows rfl).any)
  | renew id expiresAt => exact ended _ (session (common_returns renewHost_common).any)
  | delete id flags => exact ended _ (session (common_returns deleteHost_common).any)
  | reap =>
      refine ended _ (.step trivial fun now _ => .step trivial fun expired _ => ?_)
      exact (common_returns (reapEach_common _)).any
  | maintain => exact ended _ (maintainPool_follows rfl)

end Claimant

end Drukbox
