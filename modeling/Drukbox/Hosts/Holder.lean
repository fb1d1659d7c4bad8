import Drukbox.Hosts.Idempotency

/-!
# The host that a call holds

From the claim or the lease stamp on, a call holds a host.  It lets it go only by recording it for
its key, or by disposing of it once the key has another record.
-/

namespace Drukbox

open Await Program HostService

/-- What a call knows of the host that it obtained. -/
structure Holder where
  /-- Its clock readings. -/
  readings : List ℤ := []
  /-- The warm host that it found. -/
  candidate : Option Host := none
  /-- It has obtained a host. -/
  obtained : Bool := false
  /-- The host that it holds. -/
  held : Option HostId := none
  /-- The row that it read last. -/
  read : Option Host := none
  /-- The key has another record. -/
  refused : Bool := false

namespace Holder

/-- The provider of a row is registered. -/
def Registered (deployment : Deployment) (row : Host) (vm : VMProvider) : Prop :=
  deployment.getVmProvider (some row.provider) = .ok vm

/-- The columns that dispose of a row at an instant: a claimed host returns to the pool, another one
expires. -/
def Disposes (deployment : Deployment) (row : Host) (released : ℤ) (columns : HostColumns) : Prop :=
  columns.status = none ∧
    if row.claimedAt.isSome then
      columns.claimedAt = some none ∧ columns.serviceAccount = some none ∧
        ∃ vm, Registered deployment row vm ∧
          columns.expiresAt =
            some (vm.leaseEnd row.createdAt
              (some (released + hours deployment.settings.poolHostMaxAgeHours)))
    else
      columns.claimedAt = none ∧ columns.expiresAt = some (some released)

/-- The steps on `hosts` that a call may take. -/
def allowsHosts (deployment : Deployment) (phase : Holder) : HostQuery → Prop
  | .insert host _ => host.poolMember = false
  | .claim id _ _ _ =>
      phase.obtained = false ∧ phase.held = none ∧
        ∃ row vm, phase.candidate = some row ∧ row.id = id ∧ row.poolMember ∧
          Registered deployment row vm
  | .stamp _ _ _ _ => phase.obtained = false ∧ phase.held = none
  | .update .disposal id columns =>
      phase.held = some id ∧ phase.refused ∧
        ∃ row, phase.read = some row ∧ row.id = id ∧
          ∃ released ∈ phase.readings, Disposes deployment row released columns
  | .update .progress _ _ | .update .failure _ _ | .get _ | .count _ _ | .candidate _ _ _ => True
  | .update .renewal _ _ | .update .deviceRelease _ _ | .lock _ | .expired _ | .warm _
  | .excess _ _ _ | .delete _ => False

/-- The rows that a call counts on. -/
def expectsHosts (deployment : Deployment) (phase : Holder) :
    (query : HostQuery) → query.Answer → Prop
  | .get id, none => phase.held ≠ some id
  | .get id, some row =>
      row.id = id ∧
        (phase.held = some id → row.claimedAt.isSome → ∃ vm, Registered deployment row vm)
  | .candidate provider now createdFrom, some row => row.claimable provider now createdFrom
  | .claim id _ _ _, some row => row.id = id
  | .update .disposal _ _, matched => matched = true
  | _, _ => True

/-- What a statement on `hosts` teaches a call. -/
def nextHosts (phase : Holder) : (query : HostQuery) → query.Answer → Holder
  | .get _, row => { phase with read := row }
  | .candidate _ _ _, row => { phase with candidate := row }
  | .claim id _ _ _, some _ => { phase with obtained := true, held := some id, read := none }
  | .stamp id _ _ _, () => { phase with obtained := true, held := some id, read := none }
  | .update .disposal _ _, true => { phase with held := none, read := none }
  | .lock _, _ | .expired _, _ | .warm _, _ | .excess _ _ _, _ | .count _ _, _
  | .claim _ _ _ _, none | .insert _ _, _ | .update _ _ _, _ | .delete _, _ => phase

/-- The contract of a call with an idempotency key. -/
def contract (deployment : Deployment) : Contract Op.Answer Holder where
  allows phase
    | .hosts query => phase.allowsHosts deployment query
    | .keys (.insert record) => phase.held = some record.hostId
    | .clock | .uuid7 | .advisoryLock _ | .rollback | .keys _ | .templates _ | .outside _
    | .vm _ => True
  expects phase
    | .hosts query => phase.expectsHosts deployment query
    | .clock | .uuid7 | .advisoryLock _ | .rollback | .keys _ | .templates _ | .outside _
    | .vm _ => fun _ => True
  next phase
    | .clock => fun now => { phase with readings := now :: phase.readings }
    | .hosts query => phase.nextHosts query
    | .keys (.insert _) => fun recorded =>
        if recorded then { phase with held := none } else { phase with refused := true }
    | .uuid7 | .advisoryLock _ | .rollback | .keys _ | .templates _ | .outside _ | .vm _ =>
        fun _ => phase

variable {deployment : Deployment} {phase : Holder}

/-- The call holds no host. -/
def EmptyHanded (phase : Holder) : Prop := phase.held = none

/-- The call has not obtained a host. -/
def Waits (phase : Holder) : Prop := phase.obtained = false ∧ phase.held = none

/-- What a phase keeps while it reads. -/
structure Reads (before after : Holder) : Prop where
  readings : before.readings ⊆ after.readings
  candidate : after.candidate = before.candidate
  obtained : after.obtained = before.obtained
  held : after.held = before.held

theorem Reads.waits {before after : Holder} (reads : Reads before after) (waits : before.Waits) :
    after.Waits :=
  ⟨reads.obtained.trans waits.1, reads.held.trans waits.2⟩

theorem provisions_follows {α : Type} {program : Task α} (all : program.All Op.provisions)
    (empty : phase.EmptyHanded) :
    Follows (contract deployment) (Ends EmptyHanded fun later _ => Reads phase later) phase
      program := by
  refine (Follows.of_all all (Reads phase) ⟨List.Subset.refl _, rfl, rfl, rfl⟩ ?_).weaken ?_
  · intro op later provisions kept
    cases op with
    | clock =>
        exact ⟨trivial, fun now _ =>
          ⟨fun _ member => List.mem_cons_of_mem _ (kept.readings member), kept.2, kept.3, kept.4⟩⟩
    | hosts query =>
        cases query with
        | get id => exact ⟨trivial, fun row _ => ⟨kept.1, kept.2, kept.3, kept.4⟩⟩
        | count scope now => exact ⟨trivial, fun _ _ => kept⟩
        | update place id columns =>
            cases place <;> first | exact ⟨trivial, fun _ _ => kept⟩ | cases provisions
        | lock | expired | warm | excess | candidate | claim | insert | stamp | delete =>
            cases provisions
    | uuid7 | rollback | keys => cases provisions
    | advisoryLock | templates | outside | vm => exact ⟨trivial, fun _ _ => kept⟩
  · rintro later outcome kept
    cases outcome with
    | ok value => exact kept
    | error error => exact kept.held.trans empty

theorem reads_follows {α : Type} {program : Task α} (all : program.All Op.reads)
    (empty : phase.EmptyHanded) :
    Follows (contract deployment) (Ends EmptyHanded fun later _ => Reads phase later) phase
      program :=
  provisions_follows (all.mono fun _ => Op.provisions_of_reads) empty

theorem refresh_follows {id : HostId} (held : phase.held = none ∨ phase.held = some id) :
    Follows (contract deployment)
      (Ends EmptyHanded fun later row => Reads phase later ∧ row.id = id) phase (refresh id) := by
  refine .step trivial fun row expected => ?_
  cases row with
  | none => exact held.resolve_right expected
  | some row => exact ⟨⟨List.Subset.refl _, rfl, rfl, rfl⟩, expected.1⟩

theorem createHost_follows {request : HostRequest} (waits : phase.Waits) :
    Follows (contract deployment)
      (Ends EmptyHanded fun later host => later.held = some host.id) phase
      (createHost deployment request false) := by
  unfold createHost
  cases deployment.getVmProvider request.provider with
  | error failure => exact waits.2
  | ok vm =>
  simp only [ofExcept_ok, bind_eq_bind, done_bind]
  cases checkRequest deployment request vm with
  | error failure => exact waits.2
  | ok _ =>
  simp only [ofExcept_ok, done_bind]
  refine .seq (reads_follows resolveImage_reads waits.2) fun _ image read => ?_
  have waits := read.waits waits
  refine .step trivial fun id _ => .step trivial fun now _ => ?_
  refine .seq (reads_follows (checkProviderLimit_reads _) waits.2) fun _ _ read => ?_
  have waits := read.waits waits
  refine .step rfl fun inserted _ => ?_
  cases inserted with
  | error failure => exact waits.2
  | ok _ =>
  simp only [ofExcept_ok, done_bind]
  refine .seq (refresh_follows (.inl waits.2)) fun _ host refreshed => ?_
  have waits := refreshed.1.waits waits
  refine .seq (provisions_follows provision_provisions waits.2) fun _ _ read => ?_
  have waits := read.waits waits
  refine .seq (refresh_follows (.inl waits.2)) fun _ provisioned refreshed => ?_
  have waits := refreshed.1.waits waits
  split
  · exact waits.2
  refine .seq (?_ : Follows _ (Ends EmptyHanded fun later _ =>
    later.held = some provisioned.id) _ _) fun later _ held => ?_
  · refine .seq (reads_follows (requestedLease_reads _ _) waits.2) fun _ _ read => ?_
    exact .step trivial fun _ _ => ⟨read.waits waits, fun _ _ => rfl⟩
  · refine (refresh_follows (.inr (held.trans (by rw [refreshed.2])))).returns
      fun _ row refreshed_again => ?_
    rw [refreshed_again.1.held, held, refreshed.2, refreshed_again.2]

theorem tryClaimPoolHost_follows {request : HostRequest} {provider : String}
    (waits : phase.Waits) :
    Follows (contract deployment)
      (Ends EmptyHanded fun later found => match found with
        | some host => later.held = some host.id
        | none => later.Waits) phase
      (tryClaimPoolHost deployment request provider) := by
  refine .step trivial fun now _ => ?_
  cases registered : deployment.getVmProvider (some provider) with
  | error failure => exact waits.2
  | ok vm =>
  simp only [ofExcept_ok, bind_eq_bind, done_bind]
  refine .step trivial fun found expected => ?_
  cases found with
  | none => exact waits
  | some candidate =>
  refine .seq (reads_follows (requestedLease_reads _ _) waits.2) fun _ expiresAt read => ?_
  have claimable : candidate.provider = provider ∧ candidate.poolMember := by
    have claimable : candidate.claimable provider now _ := expected
    simp only [Host.claimable, Bool.and_eq_true, beq_iff_eq] at claimable
    exact claimable.1.1.1.1
  have waiting := read.waits waits
  refine ⟨⟨waiting.1, waiting.2, candidate, vm, read.candidate, rfl, claimable.2, ?_⟩,
    fun claimed same => ?_⟩
  · rw [Registered, claimable.1]
    exact registered
  · cases claimed with
    | none => exact waiting
    | some host => exact congrArg some (Eq.symm same)

theorem obtainHost_follows {request : HostRequest} (waits : phase.Waits) :
    Follows (contract deployment)
      (Ends EmptyHanded fun later host => later.held = some host.id) phase
      (obtainHost deployment request) := by
  have warm : Follows (contract deployment)
      (Ends EmptyHanded fun later found => match found with
        | some host => later.held = some host.id
        | none => later.Waits) phase
      (warmHost deployment request) := by
    unfold warmHost
    dsimp only
    split
    · exact tryClaimPoolHost_follows waits
    · exact waits
  refine .seq warm fun later found obtained => ?_
  cases found with
  | some host => exact obtained
  | none => exact createHost_follows obtained

theorem lookupIdempotencyKey_follows {key : String} {serviceAccount : Option String}
    (waits : phase.held = none) :
    Follows (contract deployment)
      (Ends EmptyHanded fun later _ => later.held = none ∧ later.obtained = phase.obtained) phase
      (lookupIdempotencyKey key serviceAccount) := by
  refine .step trivial fun record _ => ?_
  cases record with
  | none => exact ⟨waits, rfl⟩
  | some record =>
  refine .step trivial fun now _ => ?_
  refine .seq (?_ : Follows _ (Ends EmptyHanded fun later _ =>
    later.held = none ∧ later.obtained = phase.obtained) _ _) fun later existing kept => ?_
  · split
    · exact ⟨trivial, fun row _ => ⟨waits, rfl⟩⟩
    · exact ⟨waits, rfl⟩
  · cases existing with
    | none => exact .step trivial fun _ _ => kept
    | some host =>
        dsimp only
        split
        · exact kept.1
        · exact kept

theorem releaseIdempotencyLoser_follows {host : Host} (held : phase.held = some host.id)
    (refused : phase.refused) :
    Follows (contract deployment) (Ends EmptyHanded fun later _ => later.held = none) phase
      (releaseIdempotencyLoser deployment host) := by
  refine .step trivial fun row expected => ?_
  cases row with
  | none => exact absurd held expected
  | some fresh =>
  obtain ⟨same, registered⟩ := expected
  have commits {later : Holder} {columns : HostColumns} (held : later.held = some fresh.id)
      (allowed : later.allowsHosts deployment (.update .disposal fresh.id columns)) :
      Follows (contract deployment) (Ends EmptyHanded fun later _ => later.held = none) later
        (commit .disposal fresh.id columns) := by
    refine .step allowed fun matched gone => ?_
    obtain rfl : matched = true := gone
    exact rfl
  have holds : phase.held = some fresh.id := held.trans (by rw [same])
  refine .step trivial fun now _ => ?_
  split
  · next claimed =>
      obtain ⟨vm, registered⟩ := registered held claimed
      rw [registered]
      refine commits holds ⟨holds, refused, fresh, rfl, rfl, now, List.mem_cons_self, rfl, ?_⟩
      rw [if_pos claimed]
      exact ⟨rfl, rfl, vm, registered, rfl⟩
  · next unclaimed =>
      refine commits holds ⟨holds, refused, fresh, rfl, rfl, now, List.mem_cons_self, rfl, ?_⟩
      rw [if_neg unclaimed]
      exact ⟨rfl, rfl⟩

theorem getOrCreateHost_follows {request : HostRequest} {key : String}
    (keyed : given request.idempotencyKey = some key) (waits : phase.Waits) :
    Follows (contract deployment) (Ends EmptyHanded fun later _ => later.held = none) phase
      (getOrCreateHost deployment request) := by
  unfold getOrCreateHost
  cases checkProvider deployment request.provider with
  | error failure => exact waits.2
  | ok _ =>
  simp only [ofExcept_ok, bind_eq_bind, done_bind, keyed]
  refine .seq (lookupIdempotencyKey_follows waits.2) fun _ existing kept => ?_
  cases existing with
  | some existing => exact kept.1
  | none =>
  refine .seq (reads_follows (checkAccountLimit_reads _) kept.1) fun _ _ read => ?_
  have waits := read.waits ⟨kept.2.trans waits.1, kept.1⟩
  refine .seq (obtainHost_follows waits) fun later host held => ?_
  refine .seq (?_ : Follows _ (Ends EmptyHanded fun later recorded =>
    if recorded then later.held = none else later.held = some host.id ∧ later.refused) _ _)
    fun _ recorded ended => ?_
  · refine .step trivial fun now _ => ⟨held, fun recorded _ => ?_⟩
    cases recorded with
    | true => exact rfl
    | false => exact ⟨held, rfl⟩
  cases recorded with
  | true => exact ended
  | false =>
  refine .seq (releaseIdempotencyLoser_follows ended.1 ended.2) fun _ _ released => ?_
  refine .seq (lookupIdempotencyKey_follows released) fun _ winner kept => ?_
  cases winner with
  | some winner => exact kept.1
  | none => exact kept.1

theorem program_follows {request : HostRequest} {key : String}
    (keyed : given request.idempotencyKey = some key) :
    Follows (contract deployment) (fun later (_ : Except Failure Reply) => later.held = none) {}
      ((HostCall.getOrCreate request).program deployment) := by
  refine .bind (.closing ((getOrCreateHost_follows keyed ⟨rfl, rfl⟩).weaken
    fun later outcome ended => ⟨trivial, fun _ _ => ?_⟩))
  cases outcome with
  | ok host => exact ended
  | error failure => exact ended

end Holder

/-- What an answer makes of the hosts that calls hold. -/
inductive Deed
  | none
  /-- The call claimed a warm host, or stamped the lease of its own. -/
  | obtains (id : HostId)
  /-- The call gave its host back to the pool or to the janitor. -/
  | disposes (id : HostId)
  /-- The call recorded its host for the key. -/
  | records (record : IdempotencyKey)

/-- The host that the call holds after the deed. -/
@[simp] def Deed.held (held : Option HostId) : Deed → Option HostId
  | none => held
  | obtains id => some id
  | disposes _ | records _ => Option.none

/-- The deed of an answered operation. -/
def Op.deed : (op : Op) → op.Answer → Deed
  | .hosts (.claim id _ _ _), some _ => .obtains id
  | .hosts (.stamp id _ _ _), () => .obtains id
  | .hosts (.update .disposal id _), true => .disposes id
  | .keys (.insert record), true => .records record
  | _, _ => .none

namespace Op

variable {op : Op} {answer : op.Answer} {id : HostId}

theorem deed_obtains (obtains : op.deed answer = .obtains id) :
    (∃ serviceAccount now expiresAt row,
      op = .hosts (.claim id serviceAccount now expiresAt) ∧ HEq answer (some row : Option Host)) ∨
      ∃ initial expiresAt updatedAt, op = .hosts (.stamp id initial expiresAt updatedAt) := by
  cases op with
  | hosts query =>
      cases query with
      | claim => cases answer <;> cases obtains; exact .inl ⟨_, _, _, _, rfl, .rfl⟩
      | stamp => cases obtains; exact .inr ⟨_, _, _, rfl⟩
      | update place => cases place <;> cases answer <;> cases obtains
      | get | lock | expired | warm | excess | count | candidate | insert | delete => cases obtains
  | keys query =>
      cases query with
      | insert => cases answer <;> cases obtains
      | get | delete => cases obtains
  | clock | uuid7 | advisoryLock | rollback | templates | outside | vm => cases obtains

theorem deed_disposes (disposes : op.deed answer = .disposes id) :
    ∃ columns, op = .hosts (.update .disposal id columns) ∧ HEq answer true := by
  cases op with
  | hosts query =>
      cases query with
      | update place => cases place <;> cases answer <;> cases disposes; exact ⟨_, rfl, .rfl⟩
      | claim => cases answer <;> cases disposes
      | get | lock | expired | warm | excess | count | candidate | insert | stamp | delete =>
          cases disposes
  | keys query =>
      cases query with
      | insert => cases answer <;> cases disposes
      | get | delete => cases disposes
  | clock | uuid7 | advisoryLock | rollback | templates | outside | vm => cases disposes

theorem deed_records {record : IdempotencyKey} (records : op.deed answer = .records record) :
    op = .keys (.insert record) ∧ HEq answer true := by
  cases op with
  | hosts query =>
      cases query with
      | update place => cases place <;> cases answer <;> cases records
      | claim => cases answer <;> cases records
      | get | lock | expired | warm | excess | count | candidate | insert | stamp | delete =>
          cases records
  | keys query =>
      cases query with
      | insert => cases answer <;> cases records; exact ⟨rfl, .rfl⟩
      | get | delete => cases records
  | clock | uuid7 | advisoryLock | rollback | templates | outside | vm => cases records

end Op

namespace Holder

variable (deployment : Deployment) {op : Op} {answer : op.Answer} {holder : Holder}

theorem next_held : ((contract deployment).next holder op answer).held =
    (op.deed answer).held holder.held := by
  cases op with
  | hosts query =>
      cases query with
      | update place => cases place <;> cases answer <;> rfl
      | claim => cases answer <;> rfl
      | get | lock | expired | warm | excess | count | candidate | insert | stamp | delete => rfl
  | keys query =>
      cases query with
      | insert => cases answer <;> rfl
      | get | delete => rfl
  | clock | uuid7 | advisoryLock | rollback | templates | outside | vm => rfl

theorem next_obtained (free : ((contract deployment).next holder op answer).obtained = false) :
    holder.obtained = false ∧ ∀ id, op.deed answer ≠ .obtains id := by
  cases op with
  | hosts query =>
      cases query with
      | update place => cases place <;> cases answer <;> exact ⟨free, nofun⟩
      | claim => cases answer <;> first | exact ⟨free, nofun⟩ | cases free
      | stamp => cases free
      | get | lock | expired | warm | excess | count | candidate | insert | delete =>
          exact ⟨free, nofun⟩
  | keys query =>
      cases query with
      | insert => cases answer <;> exact ⟨free, nofun⟩
      | get | delete => exact ⟨free, nofun⟩
  | clock | uuid7 | advisoryLock | rollback | templates | outside | vm => exact ⟨free, nofun⟩

theorem next_read {row : Host}
    (read : ((contract deployment).next holder op answer).read = some row) :
    (holder.read = some row ∧ op.deed answer = .none) ∨
      (holder.read = some row ∧ ∃ record, op.deed answer = .records record) ∨
      ∃ id, op = .hosts (.get id) ∧ HEq answer (some row : Option Host) := by
  cases op with
  | hosts query =>
      cases query with
      | update place => cases place <;> cases answer <;> first | exact .inl ⟨read, rfl⟩ | cases read
      | claim => cases answer <;> first | exact .inl ⟨read, rfl⟩ | cases read
      | stamp => cases read
      | get id => cases read; exact .inr (.inr ⟨id, rfl, .rfl⟩)
      | lock | expired | warm | excess | count | candidate | insert | delete =>
          exact .inl ⟨read, rfl⟩
  | keys query =>
      cases query with
      | insert record =>
          cases answer with
          | true => exact .inr (.inl ⟨read, record, rfl⟩)
          | false => exact .inl ⟨read, rfl⟩
      | get | delete => exact .inl ⟨read, rfl⟩
  | clock | uuid7 | advisoryLock | rollback | templates | outside | vm => exact .inl ⟨read, rfl⟩

theorem next_refused (refused : ((contract deployment).next holder op answer).refused = true) :
    holder.refused = true ∨ ∃ record, op = .keys (.insert record) ∧ HEq answer false := by
  cases op with
  | hosts query =>
      cases query with
      | update place => cases place <;> cases answer <;> exact .inl refused
      | claim => cases answer <;> exact .inl refused
      | get | lock | expired | warm | excess | count | candidate | insert | stamp | delete =>
          exact .inl refused
  | keys query =>
      cases query with
      | insert record =>
          cases answer with
          | true => exact .inl refused
          | false => exact .inr ⟨record, rfl, .rfl⟩
      | get | delete => exact .inl refused
  | clock | uuid7 | advisoryLock | rollback | templates | outside | vm => exact .inl refused

theorem next_readings {now : ℤ}
    (member : now ∈ ((contract deployment).next holder op answer).readings) :
    now ∈ holder.readings ∨ (op = .clock ∧ HEq answer now) := by
  cases op with
  | clock =>
      rcases List.mem_cons.mp member with rfl | member
      · exact .inr ⟨rfl, .rfl⟩
      · exact .inl member
  | hosts query =>
      cases query with
      | update place => cases place <;> cases answer <;> exact .inl member
      | claim => cases answer <;> exact .inl member
      | get | lock | expired | warm | excess | count | candidate | insert | stamp | delete =>
          exact .inl member
  | keys query =>
      cases query with
      | insert => cases answer <;> exact .inl member
      | get | delete => exact .inl member
  | uuid7 | advisoryLock | rollback | templates | outside | vm => exact .inl member

/-- Both contracts follow the warm host that the call found. -/
theorem next_candidate {actor : Provisioner} (same : holder.candidate = actor.candidate) :
    ((contract deployment).next holder op answer).candidate =
      ((Provisioner.contract deployment).next actor op answer).candidate := by
  cases op with
  | hosts query =>
      cases query with
      | update place => cases place <;> cases answer <;> exact same
      | claim => cases answer <;> exact same
      | insert => cases answer <;> exact same
      | candidate => rfl
      | get | lock | expired | warm | excess | count | stamp | delete => exact same
  | keys query =>
      cases query with
      | insert => cases answer <;> exact same
      | get | delete => exact same
  | vm call => cases call <;> exact same
  | clock | uuid7 | advisoryLock | rollback | templates | outside => exact same

end Holder

end Drukbox
