import Drukbox.Hosts.Provisioner
import Drukbox.Hosts.Vocabulary

/-!
# The host service follows its contract

One lemma for each function of the service.
-/

namespace Drukbox

open Await Program

namespace Provisioner

open HostService

variable {deployment : Deployment} {phase : Provisioner} {host : Host} {initial : ℤ}
  {statuses : HostStatus → Prop}

/-- No `create_vm` call is out. -/
def Idle (phase : Provisioner) : Prop := phase.creating = false

/-- The phase owns a version of a host in one of some statuses, and no `create_vm` call is out. -/
def Owning (host : Host) (initial : ℤ) (statuses : HostStatus → Prop) (phase : Provisioner) :
    Prop :=
  phase.creating = false ∧
    ∃ mine, phase.own = some mine ∧ mine.SameOrigin host ∧ statuses mine.status ∧
      (mine.status = .error ∨ mine.expiresAt = some initial)

namespace Owning

theorem congr {other : Host} (owning : Owning host initial statuses phase)
    (same : host.SameOrigin other) : Owning other initial statuses phase := by
  obtain ⟨idle, mine, owns, same_mine, status, lease⟩ := owning
  exact ⟨idle, mine, owns, same_mine.trans same, status, lease⟩

theorem mono {weaker : HostStatus → Prop} (owning : Owning host initial statuses phase)
    (mono : ∀ status, statuses status → weaker status) : Owning host initial weaker phase := by
  obtain ⟨idle, mine, owns, same, status, lease⟩ := owning
  exact ⟨idle, mine, owns, same, mono _ status, lease⟩

theorem read (owning : Owning host initial statuses phase) (readings : List ℤ) :
    Owning host initial statuses { phase with readings } := owning

end Owning

theorem commit_follows {place : HostCommit} {id : HostId} {columns : HostColumns}
    (allowed : phase.allowsHosts deployment (.update place id columns)) (idle : phase.Idle) :
    Follows (contract deployment)
      (Ends Idle fun later _ => later = phase.nextHosts (.update place id columns) true) phase
      (commit place id columns) := by
  refine ⟨allowed, fun matched _ => ?_⟩
  cases matched with
  | true => exact rfl
  | false => cases place <;> exact idle

theorem markFailed_follows {secrets : Dict SecretEntry} {failure : Failure}
    (owning : Owning host initial (·.settled = false) phase) :
    Follows (contract deployment)
      (Ends Idle fun later _ => Owning host initial (·.settled) later) phase
      (markFailed host.id secrets failure) := by
  obtain ⟨idle, mine, owns, same, unsettled, -⟩ := owning
  refine .step trivial fun now _ => (commit_follows ?_ (by exact idle)).returns ?_
  · exact ⟨idle, ⟨mine, owns, same.id, unsettled⟩, rfl, rfl, rfl, now, by simp [contract], rfl⟩
  · rintro later value rfl
    exact ⟨idle, _, by simp [contract, nextHosts, owns]; rfl, (Host.SameOrigin.set _ _).trans same,
      rfl, .inl rfl⟩

theorem progress_follows {columns : HostColumns}
    (owning : Owning host initial statuses phase)
    (moves : ∀ status, statuses status → status.settled = false ∧
      ∀ next, columns.status = some next →
        next ≠ .error ∧ (next.deleteBlocked → status.deleteBlocked))
    (expiresAt : columns.expiresAt = none) (claimedAt : columns.claimedAt = none)
    (serviceAccount : columns.serviceAccount = none) :
    Follows (contract deployment)
      (Ends Idle fun later _ =>
        Owning host initial (fun next => ∃ status, statuses status ∧
          next = columns.status.getD status) later) phase
      (commit .progress host.id columns) := by
  obtain ⟨idle, mine, owns, same, status, lease⟩ := owning
  obtain ⟨unsettled, move⟩ := moves _ status
  refine (commit_follows ?_ (by exact idle)).returns ?_
  · exact ⟨idle, ⟨mine, owns, same.id, unsettled, move⟩, expiresAt, claimedAt, serviceAccount⟩
  · rintro later value rfl
    refine ⟨idle, mine.set columns, by simp [nextHosts, owns],
      (Host.SameOrigin.set _ _).trans same, ⟨_, status, rfl⟩, .inr ?_⟩
    rcases lease with failed | lease
    · simp [failed, HostStatus.settled] at unsettled
    · simp [expiresAt, lease]

theorem advance_follows {columns : HostColumns} {status next : HostStatus}
    (owning : Owning host initial (· = status) phase) (unsettled : status.settled = false)
    (advances : columns.status = some next) (alive : next ≠ .error)
    (early : next.deleteBlocked → status.deleteBlocked)
    (expiresAt : columns.expiresAt = none) (claimedAt : columns.claimedAt = none)
    (serviceAccount : columns.serviceAccount = none) :
    Follows (contract deployment)
      (Ends Idle fun later _ => Owning host initial (· = next) later) phase
      (commit .progress host.id columns) := by
  refine (progress_follows owning ?_ expiresAt claimedAt serviceAccount).returns
    fun later value moved => moved.mono ?_
  · rintro _ rfl
    refine ⟨unsettled, fun other moved => ?_⟩
    obtain rfl : next = other := by simpa [advances] using moved
    exact ⟨alive, early⟩
  · rintro _ ⟨_, -, rfl⟩
    simp [advances]

theorem activate_follows {booted : Host} (same_id : booted.id = host.id)
    (owning : Owning host initial (· = .bootstrapping) phase) :
    Follows (contract deployment)
      (Ends Idle fun later _ => Owning host initial (·.settled) later) phase (activate booted) := by
  rw [activate, same_id]
  refine .step trivial fun scanned _ => ?_
  cases scanned with
  | error failure =>
      dsimp only
      split
      · exact markFailed_follows (owning.mono (by rintro _ rfl; rfl))
      · exact owning.1
  | ok knownHosts =>
      refine .step trivial fun activatedAt _ => .step trivial fun updatedAt _ => ?_
      exact (advance_follows (owning.read _) rfl rfl (by decide) (by decide) rfl rfl rfl).returns
        fun later value active => active.mono (by rintro _ rfl; rfl)

theorem bootstrap_follows {vm : VMProvider} {tailnet : Option String} {result : VMCreateResult}
    (owning : Owning host initial (· = .creatingVm) phase) :
    Follows (contract deployment)
      (Ends Idle fun later _ => Owning host initial (·.settled) later) phase
      (bootstrap deployment host vm tailnet result) := by
  refine .step trivial fun updatedAt _ => .seq
    (advance_follows (owning.read _) rfl rfl (by decide) (by decide) rfl rfl rfl)
    fun later value booted => ?_
  cases tailnet with
  | none =>
      exact activate_follows rfl booted
  | some tailnet =>
      refine .step trivial fun waited _ => ?_
      cases waited with
      | error failure =>
          dsimp only
          split
          · exact markFailed_follows (booted.mono (by rintro _ rfl; rfl))
          · exact booted.1
      | ok deviceId =>
          refine .step trivial fun updatedAt _ => .seq
            (progress_follows (booted.read _) ?_ rfl rfl rfl) fun later value joined => ?_
          · rintro _ rfl
            exact ⟨rfl, fun next moved => by simp at moved⟩
          · have still : Owning host initial (· = .bootstrapping) later :=
              joined.mono (by rintro _ ⟨_, rfl, rfl⟩; rfl)
            exact activate_follows rfl still

theorem createVm_follows {vm : VMProvider} {tailnet : Option String}
    {environment : Dict String} {setupScript : Option String}
    (owning : Owning host initial (· = .creatingNetwork) phase) :
    Follows (contract deployment)
      (Ends Idle fun later _ => Owning host initial (·.settled) later) phase
      (createVm deployment host vm tailnet environment setupScript) := by
  refine .step trivial fun updatedAt _ => .seq
    (advance_follows (owning.read _) rfl rfl (by decide) (by decide) rfl rfl rfl)
    fun later value ready => ?_
  split
  · exact markFailed_follows (ready.mono (by rintro _ rfl; rfl))
  · obtain ⟨idle, mine, owns, same, status, lease⟩ := ready
    refine .step ⟨idle, mine, owns, same.symm, status⟩ fun _ _ => .step rfl fun created _ => ?_
    have back : Owning host initial (· = .creatingVm) { later with creating := false } :=
      ⟨rfl, mine, owns, same, status, lease⟩
    cases created with
    | error failure =>
        dsimp only
        split
        · exact markFailed_follows (back.mono (by rintro _ rfl; rfl))
        · exact back.1
    | ok result => exact bootstrap_follows back

/-- The operations that neither write a host row nor make a VM. -/
def quiet : Op → Prop
  | .clock | .advisoryLock _ | .rollback | .keys _ | .templates _ | .outside _ => True
  | .hosts (.get _) | .hosts (.lock _) | .hosts (.expired _) | .hosts (.warm _)
  | .hosts (.excess _ _ _) | .hosts (.count _ _) => True
  | .vm (.delete _) | .hosts (.delete _) => True
  | .uuid7 | .vm _ | .hosts _ => False

theorem quiet_of_reads {op : Op} (reads : op.reads) : quiet op := by
  cases op with
  | clock | advisoryLock | outside | templates => trivial
  | hosts query => cases query <;> trivial
  | uuid7 | rollback | keys | vm => cases reads

theorem quiet_reads {α : Type} {program : Task α} (all : program.All quiet) :
    Follows (contract deployment)
      (fun later (_ : Except Failure α) => ∃ readings, phase.readings ⊆ readings ∧
        later = { phase with readings }) phase program := by
  refine Follows.of_all all
    (fun later => ∃ readings, phase.readings ⊆ readings ∧ later = { phase with readings })
    ⟨phase.readings, List.Subset.refl _, rfl⟩ ?_
  rintro op _ silent ⟨readings, kept, rfl⟩
  have same : ∃ more, phase.readings ⊆ more ∧
      { phase with readings } = { phase with readings := more } := ⟨readings, kept, rfl⟩
  cases op with
  | clock =>
      exact ⟨trivial, fun now _ =>
        ⟨now :: readings, fun _ member => List.mem_cons_of_mem _ (kept member), rfl⟩⟩
  | hosts query => cases query <;> first | exact ⟨trivial, fun _ _ => same⟩ | cases silent
  | vm call => cases call <;> first | exact ⟨trivial, fun _ _ => same⟩ | cases silent
  | uuid7 => cases silent
  | advisoryLock | rollback | keys | templates | outside =>
      exact ⟨trivial, fun _ _ => same⟩

theorem quiet_follows {α : Type} {program : Task α} (all : program.All quiet) (idle : phase.Idle) :
    Follows (contract deployment)
      (Ends Idle fun later _ => ∃ readings, phase.readings ⊆ readings ∧
        later = { phase with readings }) phase program := by
  refine (quiet_reads all).weaken fun later outcome read => ?_
  cases outcome with
  | ok value => exact read
  | error error =>
      obtain ⟨readings, -, rfl⟩ := read
      exact idle

theorem reads_follows {α : Type} {program : Task α} (all : program.All Op.reads)
    (idle : phase.Idle) :
    Follows (contract deployment)
      (Ends Idle fun later _ => ∃ readings, phase.readings ⊆ readings ∧
        later = { phase with readings }) phase program :=
  quiet_follows (all.mono fun _ => quiet_of_reads) idle

theorem injectSecrets_follows {vm : VMProvider} {tailnet : Option String}
    {environment : Dict String} {setupScript : Option String}
    (owning : Owning host initial (· = .creatingNetwork) phase) :
    Follows (contract deployment)
      (Ends Idle fun later _ => Owning host initial (·.settled) later) phase
      (injectSecrets deployment host vm tailnet environment setupScript) := by
  refine .seq (reads_follows (putEntries_reads _ _ _) owning.1) fun later result read => ?_
  obtain ⟨readings, -, rfl⟩ := read
  obtain ⟨secrets, outcome⟩ := result
  have fails (failure : Failure) : Follows (contract deployment)
      (Ends Idle fun later _ => Owning host initial (·.settled) later) { phase with readings }
      (markFailed host.id secrets failure) :=
    markFailed_follows ((owning.read readings).mono (by rintro _ rfl; rfl))
  dsimp only
  split
  · have carried : Owning { host with secrets } initial (· = .creatingNetwork)
        { phase with readings } := (owning.read readings).congr ⟨rfl, rfl, rfl, rfl, rfl⟩
    exact (createVm_follows carried).returns
      fun later value ended => ended.congr ⟨rfl, rfl, rfl, rfl, rfl⟩
  · split
    · exact .seq (fails _) fun _ _ ended => ended.1
    · split
      · exact fails _
      · exact owning.1

theorem provision_follows (owning : Owning host initial (· = .provisioning) phase) :
    Follows (contract deployment)
      (Ends Idle fun later _ => Owning host initial (·.settled) later) phase
      (provision deployment host) := by
  refine .step trivial fun updatedAt _ => .seq
    (advance_follows (owning.read _) rfl rfl (by decide) (by decide) rfl rfl rfl)
    fun later value ready => ?_
  have fails (failure : Failure) : Follows (contract deployment)
      (Ends Idle fun later _ => Owning host initial (·.settled) later) later
      (markFailed host.id host.secrets failure) :=
    markFailed_follows (ready.mono (by rintro _ rfl; rfl))
  cases deployment.getVmProvider (some host.provider) with
  | error failure => exact ready.1
  | ok vm =>
      simp only [ofExcept_ok, bind_eq_bind, done_bind]
      split
      · split
        · exact fails _
        · refine .step trivial fun issued _ => ?_
          cases issued with
          | error failure =>
              dsimp only
              split
              · exact fails _
              · exact ready.1
          | ok credentials => exact injectSecrets_follows ready
      · exact injectSecrets_follows ready

theorem refresh_follows {id : HostId} (idle : phase.Idle) :
    Follows (contract deployment)
      (Ends Idle fun later row => later = phase ∧ phase.expectsHosts (.get id) (some row)) phase
      (refresh id) := by
  refine .step trivial fun answer expected => ?_
  cases answer with
  | none => exact idle
  | some row => exact ⟨rfl, expected⟩

theorem stampLease_follows {request : HostRequest} {vm : VMProvider}
    (owning : Owning host initial (· = .active) phase) :
    Follows (contract deployment)
      (Ends Idle fun later _ => later.Idle ∧
        ∃ mine, later.obtained = some mine ∧ mine.SameOrigin host) phase
      (stampLease deployment request vm host initial) := by
  refine .seq (reads_follows (requestedLease_reads _ _) owning.1) fun later expiresAt read => ?_
  obtain ⟨readings, -, rfl⟩ := read
  obtain ⟨idle, mine, owns, same, active, lease⟩ := owning
  have stamped : mine.expiresAt = some initial := by simpa [active] using lease
  exact .step trivial fun updatedAt _ =>
    ⟨⟨mine, owns, same.id, active, stamped⟩, fun _ _ =>
      ⟨idle, mine, owns, same⟩⟩

theorem newHost_expiresAt (request : HostRequest) (poolMember : Bool) (vm : VMProvider)
    (image : Option String) (id : HostId) (now : ℤ) :
    (newHost deployment request poolMember vm image id now).expiresAt =
      some (initialExpiresAt (newHost deployment request poolMember vm image id now)) := by
  cases expiresAt : request.expiresAt <;> simp [newHost, initialExpiresAt, expiresAt]

theorem createHost_follows {request : HostRequest} {poolMember : Bool}
    (idle : phase.Idle) :
    Follows (contract deployment)
      (Ends Idle fun later host => later.Idle ∧
        ∃ mine, later.obtained = some mine ∧ host.SameOrigin mine) phase
      (createHost deployment request poolMember) := by
  unfold createHost
  cases deployment.getVmProvider request.provider with
  | error failure => exact idle
  | ok vm =>
  simp only [ofExcept_ok, bind_eq_bind, done_bind]
  cases checkRequest deployment request vm with
  | error failure => exact idle
  | ok _ =>
  simp only [ofExcept_ok, done_bind]
  refine .seq (reads_follows resolveImage_reads idle) fun _ image read => ?_
  obtain ⟨readings, -, rfl⟩ := read
  refine .step trivial fun id _ => .step trivial fun now _ => ?_
  refine .seq (reads_follows (checkProviderLimit_reads _) idle) fun _ _ read => ?_
  obtain ⟨readings, kept, rfl⟩ := read
  refine .step ?_ fun inserted _ => ?_
  · refine ⟨rfl, rfl, rfl, kept (by simp [newHost, contract]), ?_⟩
    cases expiresAt : request.expiresAt with
    | none => exact ⟨_, by simp [newHost, expiresAt]; rfl, by simp [newHost]⟩
    | some expiresAt => exact ⟨_, by simp [newHost, *]; rfl, by simp [newHost]⟩
  cases inserted with
  | error failure => exact idle
  | ok _ =>
  simp only [ofExcept_ok, done_bind]
  refine .seq (refresh_follows idle) fun inserted host refreshed => ?_
  obtain ⟨inserted_eq, -, fresh, -⟩ := refreshed
  obtain ⟨same, status⟩ := fresh _ rfl rfl
  have owning : Owning host (initialExpiresAt (newHost deployment request poolMember vm image.1 id
      now)) (· = .provisioning) inserted := by
    rw [inserted_eq]
    exact ⟨idle, _, rfl, same.symm, rfl, .inr (newHost_expiresAt ..)⟩
  refine .seq (provision_follows owning) fun later _ ended => ?_
  obtain ⟨still_idle, mine, owns, same_mine, settled, lease⟩ := ended
  refine .seq (refresh_follows still_idle) fun _ provisioned refreshed => ?_
  obtain ⟨rfl, same_id, own_row, -⟩ := refreshed
  have mine_id : mine.id = id := same_mine.id.trans same.id
  obtain ⟨same_row, row_status⟩ := own_row mine owns mine_id
  split
  · exact still_idle
  next alive =>
  have active : mine.status = .active := by
    rw [row_status] at alive
    cases status : mine.status <;> simp_all [HostStatus.settled]
  refine .seq (stampLease_follows ⟨still_idle, mine, owns, same_row.symm, active, lease⟩)
    fun later _ stamped => ?_
  obtain ⟨ended_idle, obtained, obtains, same_obtained⟩ := stamped
  refine (refresh_follows ended_idle).returns fun _ row refreshed => ?_
  obtain ⟨rfl, -, -, returned⟩ := refreshed
  refine ⟨ended_idle, obtained, obtains, returned _ obtains ?_⟩
  exact same_obtained.id.trans same_id

theorem tryClaimPoolHost_follows {request : HostRequest} {provider : String}
    (idle : phase.Idle) :
    Follows (contract deployment)
      (Ends Idle fun later answer => later.Idle ∧ ∀ host, answer = some host →
        later.obtained = some host) phase
      (tryClaimPoolHost deployment request provider) := by
  refine .step trivial fun now _ => ?_
  cases deployment.getVmProvider (some provider) with
  | error failure => exact idle
  | ok vm =>
  simp only [ofExcept_ok, bind_eq_bind, done_bind]
  refine .step trivial fun found _ => ?_
  cases found with
  | none => exact ⟨idle, by simp⟩
  | some candidate =>
  refine .seq (reads_follows (requestedLease_reads _ _) idle) fun _ expiresAt read => ?_
  obtain ⟨readings, kept, rfl⟩ := read
  refine ⟨⟨kept (by simp [contract, nextHosts]), candidate, rfl, rfl⟩, fun claimed _ => ?_⟩
  cases claimed with
  | none => exact ⟨idle, by simp⟩
  | some host => exact ⟨idle, fun _ same => same⟩

theorem lookupIdempotencyKey_quiet (key : String) (serviceAccount : Option String) :
    (lookupIdempotencyKey key serviceAccount).All quiet :=
  lookupIdempotencyKey_all (fun _ => trivial) trivial (fun _ => trivial) key serviceAccount

theorem recordIdempotencyKey_quiet (key : String) (host : Host) :
    (recordIdempotencyKey deployment key host).All quiet :=
  .step trivial fun _ => ⟨trivial, fun _ => trivial⟩

theorem obtainHost_follows {request : HostRequest} (idle : phase.Idle) :
    Follows (contract deployment)
      (Ends Idle fun later host => later.Idle ∧
        ∃ mine, later.obtained = some mine ∧ host.SameOrigin mine) phase
      (obtainHost deployment request) := by
  have warm : Follows (contract deployment)
      (Ends Idle fun later answer => later.Idle ∧ ∀ host, answer = some host →
        later.obtained = some host) phase
      (warmHost deployment request) := by
    unfold warmHost
    dsimp only
    split
    · exact tryClaimPoolHost_follows idle
    · exact ⟨idle, by simp⟩
  refine .seq warm fun later answer found => ?_
  cases answer with
  | some host => exact ⟨found.1, host, found.2 host rfl, .refl host⟩
  | none => exact createHost_follows found.1

/-- A program that ends while no `create_vm` call is out. -/
abbrev Rests {α : Type} : Provisioner → Except Failure α → Prop :=
  Ends Idle fun later _ => later.Idle

theorem releaseIdempotencyLoser_follows {mine : Host} (idle : phase.Idle)
    (obtains : phase.obtained = some mine) (same : host.SameOrigin mine) :
    Follows (contract deployment) Rests phase (releaseIdempotencyLoser deployment host) := by
  refine .step trivial fun fresh expected => ?_
  cases fresh with
  | none => exact idle
  | some fresh =>
  have fresh_id : mine.id = fresh.id := same.id.symm.trans expected.1.symm
  refine .step trivial fun now _ => ?_
  split
  · cases deployment.getVmProvider (some fresh.provider) with
    | error failure => exact idle
    | ok vm =>
        refine (commit_follows ?_ (by exact idle)).returns ?_
        · exact ⟨rfl, ⟨mine, obtains, fresh_id⟩, .inl rfl⟩
        · rintro _ _ rfl
          exact idle
  · refine (commit_follows ?_ (by exact idle)).returns ?_
    · exact ⟨rfl, ⟨mine, obtains, fresh_id⟩, .inr ⟨rfl, now, by simp [contract], rfl⟩⟩
    · rintro _ _ rfl
      exact idle

theorem quiet_rests {α : Type} {program : Task α} (all : program.All quiet) (idle : phase.Idle) :
    Follows (contract deployment) Rests phase program := by
  refine (quiet_follows all idle).returns fun _ _ read => ?_
  obtain ⟨readings, -, rfl⟩ := read
  exact idle

theorem reads_rests {α : Type} {program : Task α} (all : program.All Op.reads)
    (idle : phase.Idle) : Follows (contract deployment) Rests phase program :=
  quiet_rests (all.mono fun _ => quiet_of_reads) idle

theorem getOrCreateHost_follows {request : HostRequest} (idle : phase.Idle) :
    Follows (contract deployment) Rests phase (getOrCreateHost deployment request) := by
  unfold getOrCreateHost
  cases checkProvider deployment request.provider with
  | error failure => exact idle
  | ok _ =>
  simp only [ofExcept_ok, bind_eq_bind, done_bind]
  split
  · refine .seq (reads_rests (checkAccountLimit_reads _) idle) fun _ _ idle => ?_
    exact (obtainHost_follows idle).returns fun _ _ obtained => obtained.1
  · next key _ =>
    refine .seq (quiet_rests (lookupIdempotencyKey_quiet _ _) idle) fun _ existing idle => ?_
    cases existing with
    | some existing => exact idle
    | none =>
    refine .seq (reads_rests (checkAccountLimit_reads _) idle) fun _ _ idle => ?_
    refine .seq (obtainHost_follows idle) fun later host obtained => ?_
    obtain ⟨idle, mine, obtains, same⟩ := obtained
    refine .seq (quiet_follows (recordIdempotencyKey_quiet _ _) idle) fun _ recorded read => ?_
    obtain ⟨readings, -, rfl⟩ := read
    split
    · exact idle
    · refine .seq (releaseIdempotencyLoser_follows idle obtains same) fun _ _ idle => ?_
      refine .seq (quiet_rests (lookupIdempotencyKey_quiet _ _) idle) fun _ winner idle => ?_
      cases winner <;> exact idle

theorem renewHost_follows {id : HostId} {expiresAt : Option ℤ} (idle : phase.Idle) :
    Follows (contract deployment) Rests phase (renewHost deployment id expiresAt) := by
  refine .step trivial fun locked _ => ?_
  cases locked with
  | none => exact idle
  | some host =>
  dsimp only
  split
  · exact idle
  split
  · exact idle
  cases deployment.getVmProvider (some host.provider) with
  | error failure => exact idle
  | ok vm =>
  simp only [ofExcept_ok, bind_eq_bind, done_bind]
  refine .seq (reads_rests (requestedLease_reads _ _) idle) fun later _ idle =>
    .step trivial fun _ _ => ?_
  refine .seq (commit_follows (by exact ⟨rfl, rfl, rfl⟩) (by exact idle)) fun _ _ moved => ?_
  subst moved
  refine (refresh_follows (by exact idle)).returns fun _ _ refreshed => ?_
  rw [refreshed.1]
  exact idle

theorem removeVm_quiet : (removeVm deployment host).All quiet := by
  unfold removeVm
  cases deployment.getVmProvider (some host.provider) with
  | error failure => trivial
  | ok vm =>
  simp only [ofExcept_ok, bind_eq_bind, done_bind]
  refine .step trivial fun forgotten => ?_
  cases forgotten with
  | error failure => trivial
  | ok _ =>
  refine .step trivial fun removed => ?_
  cases removed with
  | ok _ => trivial
  | error failure =>
      dsimp only
      split <;> trivial

theorem releaseDevice_follows (idle : phase.Idle) :
    Follows (contract deployment) Rests phase (releaseDevice deployment host) := by
  unfold releaseDevice
  split
  · refine .step trivial fun released _ => ?_
    cases released with
    | error failure => exact idle
    | ok _ =>
        refine .step trivial fun _ _ =>
          (commit_follows (by exact ⟨rfl, rfl, rfl, rfl⟩) (by exact idle)).returns ?_
        rintro _ _ rfl
        exact idle
  · exact idle

theorem tearDown_follows {flags : DeleteFlags} (idle : phase.Idle) :
    Follows (contract deployment) Rests phase (tearDown deployment flags host) := by
  unfold tearDown
  split
  · exact .seq (releaseDevice_follows idle) fun _ _ idle => quiet_rests removeVm_quiet idle
  · exact idle

theorem deleteHost_follows {id : HostId} {flags : DeleteFlags} (idle : phase.Idle) :
    Follows (contract deployment) Rests phase (deleteHost deployment id flags) := by
  refine .step trivial fun locked _ => ?_
  cases locked with
  | none => exact idle
  | some host =>
  refine .seq (reads_rests (spared_reads _ _) idle) fun _ spares idle => ?_
  split
  · exact idle
  split
  · exact idle
  exact .seq (tearDown_follows idle) fun _ _ idle => .step trivial fun _ _ => idle

theorem inSession_follows {α : Type} {program : Task α}
    (follows : Follows (contract deployment) Rests phase program) :
    Follows (contract deployment) Rests phase (inSession program) := by
  refine .closing (follows.weaken fun _ outcome ended => ⟨trivial, fun _ _ => ?_⟩)
  cases outcome <;> exact ended

/-- What follows a program goes on while no `create_vm` call is out, also after an error. -/
theorem attempt_rests {α β : Type} {program : Task α} {next : Except Failure α → Task β}
    (first : Follows (contract deployment) Rests phase program)
    (rest : ∀ later outcome, later.Idle →
      Follows (contract deployment) Rests later (next outcome)) :
    Follows (contract deployment) Rests phase (program.attempt.bind next) := by
  refine .seq (.attempt (first.weaken fun later outcome ended => ?_)) rest
  cases outcome <;> exact ended

theorem reapEach_follows (ids : List HostId) (idle : phase.Idle) :
    Follows (contract deployment) Rests phase (reapEach deployment ids) := by
  induction ids generalizing phase with
  | nil => exact idle
  | cons id rest ih =>
      refine attempt_rests (inSession_follows (deleteHost_follows idle)) fun later deleted idle =>
        .seq (ih idle) fun _ _ idle => ?_
      split <;> exact idle

theorem excessIds_quiet (targets counts : Dict ℕ) (now : ℤ) (providers : List String) :
    (Pool.excessIds targets counts now providers).All quiet := by
  induction providers with
  | nil => trivial
  | cons provider rest ih =>
      unfold Pool.excessIds
      dsimp only
      split
      · exact ih
      · exact .step trivial fun _ => .bind ih fun _ => trivial

theorem survey_quiet (targets : Dict ℕ) (now : ℤ) : (Pool.survey targets now).All quiet :=
  .closing (.step trivial fun _ => .bind (excessIds_quiet _ _ _ _) fun _ => trivial)
    ⟨trivial, fun _ => trivial⟩

theorem topUp_follows (batch : List String) (failures created : ℕ) (idle : phase.Idle) :
    Follows (contract deployment) Rests phase (Pool.topUp deployment batch failures created) := by
  induction batch generalizing phase failures created with
  | nil => exact idle
  | cons provider rest ih =>
      have creates : Follows (contract deployment) Rests phase (inSession do
          let now ← Task.clock
          createHost deployment
            { provider := some provider
              expiresAt := some (now + hours deployment.settings.poolHostMaxAgeHours) } true) :=
        inSession_follows (.step trivial fun _ _ =>
          (createHost_follows (by exact idle)).returns fun _ _ created => created.1)
      refine attempt_rests creates fun later outcome idle => ?_
      cases outcome with
      | ok host => exact ih _ _ idle
      | error failure =>
          dsimp only
          split
          · exact idle
          · exact ih _ _ idle

theorem shedEach_follows (ids : List HostId) (removed : ℕ) (idle : phase.Idle) :
    Follows (contract deployment) Rests phase (Pool.shedEach deployment ids removed) := by
  induction ids generalizing phase removed with
  | nil => exact idle
  | cons id rest ih =>
      refine attempt_rests (inSession_follows (deleteHost_follows idle))
        fun later outcome idle => ?_
      split <;> exact ih _ idle

theorem maintainPool_follows (idle : phase.Idle) :
    Follows (contract deployment) Rests phase (Pool.maintainPool deployment) := by
  unfold Pool.maintainPool
  dsimp only
  split
  · exact idle
  · refine .step trivial fun now _ => ?_
    refine .seq (quiet_rests (survey_quiet _ _) idle) fun _ surveyed idle => ?_
    refine .step trivial fun shuffled _ => .seq (topUp_follows _ _ _ idle) fun _ created idle => ?_
    exact .seq (shedEach_follows _ _ idle) fun _ removed idle => idle

end Provisioner

/-- Every task of the host service follows the contract. -/
theorem HostCall.follows (deployment : Deployment) (call : HostCall) :
    Follows (Provisioner.contract deployment) (fun _ _ => True) {} (call.program deployment) := by
  have mapped {α : Type} {program : Task α} (reply : α → Reply)
      (follows : Follows (Provisioner.contract deployment) Provisioner.Rests {} program) :
      Follows (Provisioner.contract deployment) (fun _ _ => True) {} (reply <$> program) :=
    .bind (follows.weaken fun _ outcome _ => by cases outcome <;> trivial)
  cases call with
  | getOrCreate request =>
      exact mapped _ (Provisioner.inSession_follows (Provisioner.getOrCreateHost_follows rfl))
  | create request poolMember =>
      exact mapped _ (Provisioner.inSession_follows
        ((Provisioner.createHost_follows (by rfl)).returns fun _ _ created => created.1))
  | renew id expiresAt =>
      exact mapped _ (Provisioner.inSession_follows (Provisioner.renewHost_follows rfl))
  | delete id flags =>
      exact mapped _ (Provisioner.inSession_follows (Provisioner.deleteHost_follows rfl))
  | reap =>
      exact mapped _ (.step trivial fun _ _ => .step trivial fun _ _ =>
        Provisioner.reapEach_follows _ rfl)
  | maintain => exact mapped _ (Provisioner.maintainPool_follows rfl)

end Drukbox
