import Drukbox.Hosts.PoolClaims

/-!
# The contract of leases

A claim, a lease stamp, a renewal and a release each write a lease of the row that their task read
last, cut to the lifetime of its provider.  A stamp compares with the expiry that its task inserted.
-/

namespace Drukbox

open Await Program HostService

/-- What a task knows of leases from its own steps. -/
structure Lessor where
  /-- The expiry that its claims are asked for. -/
  explicit : Option ℤ := none
  /-- The host that it inserted and has not stamped. -/
  own : Option Host := none
  /-- The row that it read last, with nothing but clock readings since. -/
  seen : Option Host := none

/-- The expiry is a lease of the row, cut to the lifetime of its provider. -/
def Deployment.Lease (deployment : Deployment) (row : Host) (expiresAt : Option ℤ) : Prop :=
  ∃ vm requested, deployment.getVmProvider (some row.provider) = .ok vm ∧
    expiresAt = vm.leaseEnd row.createdAt requested

/-- What anyone may do at any time: no lease is written, and no warm host is looked for. -/
def Op.lawful : Op → Prop
  | .hosts (.update .renewal _ _) => False
  | op => op.common

theorem Op.lawful_of_provisions {op : Op} (provisions : op.provisions) : op.lawful := by
  cases op with
  | hosts query =>
      cases query with
      | update place id columns => cases place <;> trivial
      | get | lock | expired | warm | excess | count | delete => trivial
      | candidate | claim | insert | stamp => cases provisions
  | clock | uuid7 | advisoryLock | rollback | keys | templates | outside | vm => trivial

theorem Op.lawful_of_reads {op : Op} (reads : op.reads) : op.lawful :=
  Op.lawful_of_provisions (Op.provisions_of_reads reads)

theorem Op.lawful_of_deletes {op : Op} {id : HostId} (deletes : op.deletes id) : op.lawful := by
  cases op with
  | hosts query =>
      cases query with
      | update place id columns => cases place <;> trivial
      | lock | delete => trivial
      | get | expired | warm | excess | count | candidate | claim | insert | stamp => cases deletes
  | clock | rollback | outside | vm => trivial
  | uuid7 | advisoryLock | keys | templates => cases deletes

namespace Lessor

/-- The steps on `hosts` that a task may take. -/
def allowsHosts (deployment : Deployment) (phase : Lessor) : HostQuery → Prop
  | .claim id _ _ expiresAt =>
      (∃ row, phase.seen = some row ∧ row.id = id ∧ deployment.Lease row expiresAt) ∧
        ∀ instant, phase.explicit = some instant → expiresAt = some instant
  | .stamp id initial expiresAt _ =>
      (∃ row, phase.seen = some row ∧ row.id = id ∧ deployment.Lease row expiresAt) ∧
        ∃ host, phase.own = some host ∧ host.id = id ∧ host.expiresAt = some initial
  | .update .renewal id columns =>
      ∃ row expiresAt, phase.seen = some row ∧ row.id = id ∧
        columns.expiresAt = some expiresAt ∧ deployment.Lease row expiresAt
  | .update .disposal id columns =>
      phase.own = none ∧ ∃ row, phase.seen = some row ∧ row.id = id ∧
        (row.claimedAt = none → columns.claimedAt = none) ∧
          (row.claimedAt ≠ none → columns.claimedAt = some none ∧
            ∃ expiresAt, columns.expiresAt = some expiresAt ∧ deployment.Lease row expiresAt)
  | .get _ | .lock _ | .expired _ | .warm _ | .excess _ _ _ | .count _ _ | .candidate _ _ _
  | .insert _ _ | .update _ _ _ | .delete _ => True

/-- The rows that a task counts on. -/
def expectsHosts (phase : Lessor) : (query : HostQuery) → query.Answer → Prop
  | .get id, some row =>
      row.id = id ∧ ∀ host, phase.own = some host → host.id = id → row.SameOrigin host
  | .lock id, some row => row.id = id
  | .candidate provider now createdFrom, some row => row.claimable provider now createdFrom
  | _, _ => True

/-- What a statement on `hosts` teaches a task. -/
def nextHosts (phase : Lessor) : (query : HostQuery) → query.Answer → Lessor
  | .get _, row | .lock _, row | .candidate _ _ _, row => { phase with seen := row }
  | .insert host _, .ok () => { phase with own := some host, seen := none }
  | .stamp _ _ _ _, _ => { phase with own := none, seen := none }
  | .insert _ _, .error _ | .expired _, _ | .warm _, _ | .excess _ _ _, _ | .count _ _, _
  | .claim _ _ _ _, _ | .update _ _ _, _ | .delete _, _ => { phase with seen := none }

/-- The contract of every task that may write a lease. -/
def contract (deployment : Deployment) : Contract Op.Answer Lessor where
  allows phase
    | .hosts query => phase.allowsHosts deployment query
    | .clock | .uuid7 | .advisoryLock _ | .rollback | .keys _ | .templates _ | .outside _
    | .vm _ => True
  expects phase
    | .hosts query => phase.expectsHosts query
    | .clock | .uuid7 | .advisoryLock _ | .rollback | .keys _ | .templates _ | .outside _
    | .vm _ => fun _ => True
  next phase
    | .hosts query => phase.nextHosts query
    | .clock => fun _ => phase
    | .uuid7 | .advisoryLock _ | .rollback | .keys _ | .templates _ | .outside _ | .vm _ =>
        fun _ => { phase with seen := none }

variable {deployment : Deployment} {base phase : Lessor} {host : Host} {request : HostRequest}

/-- Only what a task read last differs. -/
def Keeps (phase later : Lessor) : Prop :=
  later.explicit = phase.explicit ∧ later.own = phase.own

theorem Keeps.trans {third : Lessor} (first : Keeps base phase) (second : Keeps phase third) :
    Keeps base third :=
  ⟨second.1.trans first.1, second.2.trans first.2⟩

theorem lawful_allowed {op : Op} (lawful : op.lawful) :
    (contract deployment).allows phase op ∧
      ∀ answer, Keeps phase ((contract deployment).next phase op answer) := by
  cases op with
  | hosts query =>
      cases query with
      | update place id columns =>
          cases place <;> first | exact ⟨trivial, fun _ => ⟨rfl, rfl⟩⟩ | cases lawful
      | get | lock | expired | warm | excess | count | delete =>
          exact ⟨trivial, fun _ => ⟨rfl, rfl⟩⟩
      | candidate | claim | insert | stamp => cases lawful
  | clock | uuid7 | advisoryLock | rollback | keys | templates | outside | vm =>
      exact ⟨trivial, fun _ => ⟨rfl, rfl⟩⟩

theorem lawful_follows {α : Type} {program : Task α} (all : program.All Op.lawful) :
    Follows (contract deployment) (fun later (_ : Except Failure α) => Keeps phase later) phase
      program := by
  refine Follows.of_all all (Keeps phase) ⟨rfl, rfl⟩ fun op later lawful kept => ?_
  obtain ⟨allowed, same⟩ := lawful_allowed lawful
  exact ⟨allowed, fun answer _ => kept.trans (same answer)⟩

theorem lawful_returns {α : Type} {program : Task α} (all : program.All Op.lawful) :
    Follows (contract deployment) (Returns fun later _ => Keeps phase later) phase program := by
  refine (lawful_follows all).weaken fun later outcome kept => ?_
  cases outcome with
  | ok value => exact kept
  | error error => trivial

theorem requestedLease_follows (permanent : Bool) (expiresAt : Option ℤ) :
    Follows (contract deployment)
      (Returns fun later lease => later = phase ∧
        ∀ instant, permanent = false → expiresAt = some instant → lease = some instant) phase
      (requestedLease deployment permanent expiresAt) := by
  unfold requestedLease
  cases permanent with
  | true => exact ⟨rfl, by simp⟩
  | false =>
      cases expiresAt with
      | some expiresAt => exact ⟨rfl, fun _ _ same => same⟩
      | none => exact .step trivial fun now _ => ⟨rfl, by simp⟩

theorem getVmProvider_name {provider : Option String} {vm : VMProvider}
    (found : deployment.getVmProvider provider = .ok vm) :
    deployment.getVmProvider (some vm.name) = .ok vm := by
  unfold Deployment.getVmProvider at found ⊢
  dsimp only at found
  split at found
  · next present =>
      obtain rfl := Except.ok.inj found
      have named := List.find?_some present
      simp only [beq_iff_eq] at named
      simp only [Option.getD_some, named, present]
  · contradiction

theorem refresh_follows {id : HostId} :
    Follows (contract deployment)
      (Returns fun later row => later = { phase with seen := some row } ∧ row.id = id ∧
        ∀ host, phase.own = some host → host.id = id → row.SameOrigin host) phase
      (refresh id) := by
  refine .step trivial fun row expected => ?_
  cases row with
  | none => trivial
  | some row => exact ⟨rfl, expected.1, expected.2⟩

theorem createHost_follows {poolMember : Bool} :
    Follows (contract deployment)
      (Returns fun later _ => later.explicit = phase.explicit ∧ later.own = none) phase
      (createHost deployment request poolMember) := by
  have reads {α : Type} {program : Task α} {later : Lessor} (all : program.All Op.reads) :
      Follows (contract deployment) (Returns fun last _ => Keeps later last) later program :=
    lawful_returns (all.mono fun _ => Op.lawful_of_reads)
  unfold createHost
  cases found : deployment.getVmProvider request.provider with
  | error failure => trivial
  | ok vm =>
  simp only [ofExcept_ok, bind_eq_bind, done_bind]
  cases checkRequest deployment request vm with
  | error failure => trivial
  | ok _ =>
  simp only [ofExcept_ok, done_bind]
  refine .seq (reads resolveImage_reads) fun later image kept => ?_
  refine .step trivial fun id _ => .step trivial fun now _ => ?_
  refine .seq (reads (checkProviderLimit_reads _)) fun counted _ kept_too => ?_
  refine .step trivial fun inserted _ => ?_
  cases inserted with
  | error failure => trivial
  | ok _ =>
  simp only [ofExcept_ok, done_bind]
  have explicit : counted.explicit = phase.explicit := kept_too.1.trans kept.1
  refine .seq refresh_follows ?_
  rintro _ host ⟨rfl, -, -⟩
  refine .seq (lawful_returns (provision_provisions.mono fun _ => Op.lawful_of_provisions))
    fun provisioned _ same => ?_
  refine .seq refresh_follows ?_
  rintro _ row ⟨rfl, row_id, origin⟩
  split
  · trivial
  have origin := origin _ same.2 rfl
  have stamped : Follows (contract deployment)
      (Returns fun last _ => last.explicit = phase.explicit ∧ last.own = none)
      { provisioned with seen := some row }
      (stampLease deployment request vm row
        (initialExpiresAt (newHost deployment request poolMember vm image.1 id now))) := by
    refine .seq (requestedLease_follows _ _) ?_
    rintro _ expiresAt ⟨rfl, -⟩
    refine .step trivial fun updatedAt _ => .step ⟨⟨row, rfl, rfl, vm, expiresAt, ?_, rfl⟩, ?_⟩
      fun _ _ => ⟨same.1.trans explicit, rfl⟩
    · rw [origin.provider]
      exact getVmProvider_name found
    · exact ⟨_, same.2, row_id.symm, Provisioner.newHost_expiresAt ..⟩
  refine .seq stamped fun last _ ended => ?_
  refine refresh_follows.returns ?_
  rintro _ _ ⟨rfl, -, -⟩
  exact ended

/-- The expiry that a claim of the request is asked for. -/
def asks (request : HostRequest) : Option ℤ :=
  if request.permanent then none else request.expiresAt

theorem tryClaimPoolHost_follows {provider : String} (explicit : phase.explicit = asks request) :
    Follows (contract deployment) (Returns fun later _ => Keeps phase later) phase
      (tryClaimPoolHost deployment request provider) := by
  refine .step trivial fun now _ => ?_
  cases named : deployment.getVmProvider (some provider) with
  | error failure => trivial
  | ok vm =>
  simp only [ofExcept_ok, bind_eq_bind, done_bind]
  refine .step trivial fun found expected => ?_
  cases found with
  | none => exact ⟨rfl, rfl⟩
  | some row =>
  simp only [contract, expectsHosts, Host.claimable, Bool.and_eq_true, beq_iff_eq] at expected
  obtain ⟨⟨⟨⟨⟨provides, -⟩, -⟩, -⟩, -⟩, created⟩ := expected
  refine .seq (requestedLease_follows _ _) ?_
  rintro _ expiresAt ⟨rfl, requested⟩
  refine ⟨⟨⟨row, rfl, rfl, vm, expiresAt, ?_, rfl⟩, fun instant asked => ?_⟩, fun _ _ => ⟨rfl, rfl⟩⟩
  · rw [provides]
    exact named
  · -- The candidates are those that the provider lets live to the requested end.
    have wanted : asks request = some instant := explicit.symm.trans asked
    unfold asks at wanted
    split at wanted
    · contradiction
    · next temporary =>
        obtain rfl := requested instant (by simpa using temporary) wanted
        unfold VMProvider.leaseEnd
        cases limited : vm.lifetime with
        | none => rfl
        | some lifetime =>
            have early : instant - lifetime ≤ row.createdAt := by
              simpa [limited, wanted] using created
            simp only [Option.some.injEq, min_eq_left_iff]
            omega

theorem obtainHost_follows (fresh : phase.own = none) (explicit : phase.explicit = asks request) :
    Follows (contract deployment) (Returns fun later _ => later.own = none) phase
      (obtainHost deployment request) := by
  have warm : Follows (contract deployment) (Returns fun later _ => Keeps phase later) phase
      (warmHost deployment request) := by
    unfold warmHost
    dsimp only
    split
    · exact tryClaimPoolHost_follows explicit
    · exact ⟨rfl, rfl⟩
  refine .seq warm fun later found kept => ?_
  cases found with
  | some host => exact kept.2.trans fresh
  | none => exact createHost_follows.returns fun _ _ ended => ended.2

theorem lookupIdempotencyKey_lawful (key : String) (serviceAccount : Option String) :
    (lookupIdempotencyKey key serviceAccount).All Op.lawful :=
  lookupIdempotencyKey_all (fun _ => trivial) trivial (fun _ => trivial) key serviceAccount

theorem releaseIdempotencyLoser_follows (fresh : phase.own = none) :
    Follows (contract deployment) (Returns fun _ _ => True) phase
      (releaseIdempotencyLoser deployment host) := by
  have commits {later : Lessor} {id : HostId} {columns : HostColumns}
      (allowed : later.allowsHosts deployment (.update .disposal id columns)) :
      Follows (contract deployment) (Returns fun _ _ => True) later
        (commit .disposal id columns) := by
    refine .step allowed fun matched _ => ?_
    cases matched <;> trivial
  refine .step trivial fun row _ => ?_
  cases row with
  | none => trivial
  | some row =>
  refine .step trivial fun now _ => ?_
  split
  · next claimed =>
      have taken : row.claimedAt ≠ none := Option.isSome_iff_ne_none.mp claimed
      cases found : deployment.getVmProvider (some row.provider) with
      | error failure => trivial
      | ok vm =>
      refine commits ⟨fresh, row, rfl, rfl, fun free => absurd free taken, fun _ => ⟨rfl, ?_⟩⟩
      exact ⟨_, rfl, vm, _, found, rfl⟩
  · next unclaimed =>
      refine commits ⟨fresh, row, rfl, rfl, fun _ => rfl, fun taken => ?_⟩
      exact absurd (Option.isSome_iff_ne_none.mpr taken) unclaimed

theorem getOrCreateHost_follows (fresh : phase.own = none)
    (explicit : phase.explicit = asks request) :
    Follows (contract deployment) (Returns fun _ _ => True) phase
      (getOrCreateHost deployment request) := by
  have limits {later : Lessor} : Follows (contract deployment)
    (Returns fun last _ => Keeps later last)
      later (checkAccountLimit deployment request.serviceAccount) :=
    lawful_returns ((checkAccountLimit_reads _).mono fun _ => Op.lawful_of_reads)
  unfold getOrCreateHost
  cases checkProvider deployment request.provider with
  | error failure => trivial
  | ok _ =>
  simp only [ofExcept_ok, bind_eq_bind, done_bind]
  split
  · refine .seq limits fun later _ kept => ?_
    exact (obtainHost_follows (kept.2.trans fresh) (kept.1.trans explicit)).any
  · refine .seq (lawful_returns (lookupIdempotencyKey_lawful _ _)) fun later existing kept => ?_
    cases existing with
    | some existing => trivial
    | none =>
    refine .seq limits fun counted _ kept_too => ?_
    have kept := kept.trans kept_too
    refine .seq (obtainHost_follows (kept.2.trans fresh) (kept.1.trans explicit))
      fun obtained host stamped => ?_
    refine .step trivial fun now _ => .step trivial fun recorded _ => ?_
    split
    · trivial
    · refine .seq (releaseIdempotencyLoser_follows stamped) fun last _ _ => ?_
      refine .seq (lawful_returns (lookupIdempotencyKey_lawful _ _)) fun _ winner _ => ?_
      cases winner <;> trivial

theorem renewHost_follows {id : HostId} {expiresAt : Option ℤ} :
    Follows (contract deployment) (Returns fun _ _ => True) phase
      (renewHost deployment id expiresAt) := by
  refine .step trivial fun locked expected => ?_
  cases locked with
  | none => trivial
  | some host =>
  dsimp only
  split
  · trivial
  split
  · trivial
  cases found : deployment.getVmProvider (some host.provider) with
  | error failure => trivial
  | ok vm =>
  simp only [ofExcept_ok, bind_eq_bind, done_bind]
  refine .seq (requestedLease_follows _ _) ?_
  rintro _ requested ⟨rfl, -⟩
  refine .step trivial fun updatedAt _ => .bind (.step ?_ fun matched _ => ?_)
  · exact ⟨host, _, rfl, expected, rfl, vm, requested, found, rfl⟩
  · cases matched with
    | false => trivial
    | true => exact refresh_follows.any

theorem topUp_follows (batch : List String) (failures created : ℕ) :
    Follows (contract deployment) (Returns fun _ _ => True) phase
      (Pool.topUp deployment batch failures created) := by
  induction batch generalizing phase failures created with
  | nil => trivial
  | cons provider rest ih =>
      refine .bind (.attempt (.closing (.step trivial fun now _ => createHost_follows.weaken ?_)))
      intro later outcome _
      refine ⟨trivial, fun _ _ => ?_⟩
      cases outcome with
      | ok host => exact ih _ _
      | error failure =>
          dsimp only
          split
          · trivial
          · exact ih _ _

theorem maintainPool_follows :
    Follows (contract deployment) (Returns fun _ _ => True) phase
      (Pool.maintainPool deployment) := by
  unfold Pool.maintainPool
  dsimp only
  split
  · trivial
  · refine .step trivial fun now _ => ?_
    have surveyed : (Pool.survey deployment.settings.getPoolTargets now).All Op.lawful :=
      .closing (.step trivial fun _ => .bind (excessIds_all (fun _ _ _ => trivial) _ _ _ _) fun _ =>
        trivial) ⟨trivial, fun _ => trivial⟩
    refine .seq (lawful_returns surveyed) fun _ _ _ => ?_
    refine .step trivial fun shuffled _ => .seq (topUp_follows _ _ _) fun _ created _ => ?_
    exact .seq (lawful_returns (shedEach_all Op.lawful_of_deletes _ _)).any
      fun _ removed _ => trivial

/-- What a task may know before its first step. -/
def initial : PoolCall → Lessor
  | .claim request _ | .service (.getOrCreate request) => { explicit := asks request }
  | .service _ => {}

theorem program_follows (deployment : Deployment) (call : PoolCall) :
    Follows (contract deployment) (fun _ (_ : Except Failure Reply) => True) (initial call)
      (call.program deployment) := by
  have ended {α : Type} {program : Task α} {phase : Lessor} (reply : α → Reply)
      (follows : Follows (contract deployment) (Returns fun _ _ => True) phase program) :
      Follows (contract deployment) (fun _ (_ : Except Failure Reply) => True) phase
        (reply <$> program) :=
    .bind (follows.weaken fun _ outcome _ => by cases outcome <;> trivial)
  have session {α : Type} {program : Task α} {phase : Lessor}
      (follows : Follows (contract deployment) (Returns fun _ _ => True) phase program) :
      Follows (contract deployment) (Returns fun _ _ => True) phase (inSession program) := by
    refine .closing (follows.weaken fun _ outcome _ => ⟨trivial, fun _ _ => ?_⟩)
    cases outcome <;> trivial
  cases call with
  | claim request provider =>
      have claims : Follows (contract deployment)
          (fun _ (_ : Except Failure (Option Host)) => True) { explicit := asks request }
          (inSession (tryClaimPoolHost deployment request provider)) :=
        (session (tryClaimPoolHost_follows rfl).any).weaken fun _ _ _ => trivial
      exact .bind (claims.weaken fun _ outcome _ => by cases outcome <;> trivial)
  | service call =>
  cases call with
  | getOrCreate request => exact ended _ (session (getOrCreateHost_follows rfl rfl))
  | create request poolMember => exact ended _ (session createHost_follows.any)
  | renew id expiresAt => exact ended _ (session renewHost_follows)
  | delete id flags =>
      exact ended _ (lawful_returns (inSession_deletes.mono fun _ => Op.lawful_of_deletes)).any
  | reap =>
      refine ended _ (.step trivial fun now _ => .step trivial fun expired _ => ?_)
      exact (lawful_returns (reapEach_all Op.lawful_of_deletes _)).any
  | maintain => exact ended _ maintainPool_follows

end Lessor

end Drukbox
