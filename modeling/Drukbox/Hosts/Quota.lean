import Drukbox.Hosts.Claimant

/-!
# The contract of a host limit

A task brings a host into the scope of a limit only after it counted fewer hosts there, in the
transaction that has held the scope's advisory lock since before the count.
-/

namespace Drukbox

open Await Program HostService

/-- A claim for the service account brings its host into the scope. -/
def CountScope.claims : CountScope → Option String → Bool
  | serviceAccount name, account => account == some name
  | provider _, _ => false

/-- What a task knows of a limit in its present transaction. -/
structure Applicant where
  /-- Its clock readings. -/
  readings : List ℤ := []
  /-- It holds the lock on the scope's key. -/
  locked : Bool := false
  /-- It counted fewer hosts than the limit under the lock. -/
  room : Bool := false

namespace Quota

variable (scope : CountScope) (limit : ℕ)

/-- The operation ends the transaction of its session. -/
def ends : (op : Op) → op.Answer → Bool
  | .rollback, _ => true
  | .hosts (.insert _ _), .ok () => true
  | .hosts (.insert _ _), .error _ => false
  | .hosts (.claim _ _ _ _), _ | .hosts (.delete _), _ => true
  | .hosts (.update _ _ _), matched => matched
  | .hosts (.get _), _ | .hosts (.lock _), _ | .hosts (.expired _), _ | .hosts (.warm _), _
  | .hosts (.excess _ _ _), _ | .hosts (.count _ _), _ | .hosts (.candidate _ _ _), _
  | .hosts (.stamp _ _ _ _), _ => false
  | .templates (.get _), _ | .templates (.touch _), _ => false
  | .templates _, _ => true
  | .clock, _ | .uuid7, _ | .advisoryLock _, _ | .keys _, _ | .outside _, _ | .vm _, _ => false

/-- What an answer teaches a task whose transaction goes on. -/
def learn (phase : Applicant) : (op : Op) → op.Answer → Applicant
  | .clock, now => { phase with readings := now :: phase.readings }
  | .advisoryLock key, () => { phase with locked := phase.locked || key == scope.key }
  | .hosts (.count counted now), live =>
      { phase with
        room := phase.room ||
          (counted == scope && phase.locked && phase.readings.contains now &&
            decide (live < limit)) }
  | _, _ => phase

/-- The contract of every task, for one scope. -/
def contract : Contract Op.Answer Applicant where
  allows phase
    | .hosts (.insert host _) => scope.counts host → phase.room
    | .hosts (.claim _ account _ _) => scope.claims account → phase.room
    | .hosts (.update .disposal _ columns) =>
        ∀ account, columns.serviceAccount ≠ some (some account)
    | .clock | .uuid7 | .advisoryLock _ | .rollback | .keys _ | .templates _ | .outside _ | .vm _
    | .hosts _ => True
  expects _
    | .hosts (.claim _ account _ _) => fun claimed => scope.claims account → claimed.isSome
    | .clock | .uuid7 | .advisoryLock _ | .rollback | .keys _ | .templates _ | .outside _ | .vm _
    | .hosts _ => fun _ => True
  next phase op answer :=
    if ends op answer then { phase with locked := false, room := false }
    else learn scope limit phase op answer

variable {scope : CountScope} {limit : ℕ} {deployment : Deployment} {phase : Applicant}
  {request : HostRequest}

theorem allows_of_common {op : Op} (common : op.common) (phase : Applicant) :
    (contract scope limit).allows phase op := by
  cases op with
  | hosts query =>
      cases query with
      | update place id columns => cases place <;> trivial
      | get | lock | expired | warm | excess | count | delete => trivial
      | candidate | claim | insert | stamp => cases common
  | clock | uuid7 | advisoryLock | rollback | keys | templates | outside | vm => trivial

theorem free_follows {α : Type} {program : Task α}
    (all : program.All fun op => ∀ phase, (contract scope limit).allows phase op) :
    Follows (contract scope limit) (fun _ (_ : Except Failure α) => True) phase program :=
  Follows.of_all all (fun _ => True) trivial fun _ later free _ =>
    ⟨free later, fun _ _ => trivial⟩

theorem common_follows {α : Type} {program : Task α} (all : program.All Op.common) :
    Follows (contract scope limit) (fun _ (_ : Except Failure α) => True) phase program :=
  free_follows (all.mono fun _ common => allows_of_common common)

theorem reads_follows {α : Type} {program : Task α} (all : program.All Op.reads) :
    Follows (contract scope limit) (fun later (_ : Except Failure α) => phase.room → later.room)
      phase program := by
  apply Follows.of_all all (fun later : Applicant => phase.room → later.room) id
  intro op later reads kept
  cases op with
  | hosts query =>
      cases query with
      | get => exact ⟨trivial, fun _ _ => kept⟩
      | count counted now =>
          refine ⟨trivial, fun live _ room => ?_⟩
          simp [contract, ends, learn, kept room]
      | lock | expired | warm | excess | candidate | claim | insert | update | stamp | delete =>
          cases reads
  | templates query => cases query <;> first | exact ⟨trivial, fun _ _ => kept⟩ | cases reads
  | clock | advisoryLock | outside => exact ⟨trivial, fun _ _ => kept⟩
  | uuid7 | rollback | keys | vm => cases reads

/-- The task may bring in the hosts of a request. -/
def Ready (scope : CountScope) (request : HostRequest) (phase : Applicant) : Prop :=
  scope.claims request.serviceAccount → phase.room

theorem countLiveHosts_follows :
    Follows (contract scope limit)
      (Returns fun later live => live < limit → later.room = true) phase
      (countLiveHosts scope) := by
  refine .step trivial fun _ _ => .step trivial fun now _ => .step trivial fun live _ room => ?_
  simp [contract, ends, learn, room]

theorem checkProviderLimit_follows {vm : VMProvider} {lease : Option TemplateLease} (host : Host)
    (limits : ∀ name, scope = .provider name →
      deployment.settings.hostLimits.lookup name = some limit)
    (ready : Ready scope request phase) (names : host.provider = vm.name)
    (account : host.serviceAccount = request.serviceAccount) :
    Follows (contract scope limit) (Returns fun later _ => scope.counts host → later.room = true)
      phase (checkProviderLimit deployment vm lease) := by
  cases scope with
  | serviceAccount name =>
      refine (reads_follows (checkProviderLimit_reads lease)).weaken fun later outcome kept => ?_
      cases outcome with
      | error failure => trivial
      | ok _ =>
          intro counts
          apply kept
          apply ready
          simpa [CountScope.counts, CountScope.claims, account] using counts
  | provider name =>
      by_cases same : vm.name = name
      · subst same
        unfold checkProviderLimit
        rw [limits vm.name rfl]
        have flushed : Follows (contract (.provider vm.name) limit) (Returns fun _ _ => True) phase
            (flushLease lease) := by
          cases lease with
          | none => trivial
          | some lease => exact ⟨trivial, fun _ _ => trivial⟩
        refine .seq flushed fun later sent _ => ?_
        split
        · refine .seq countLiveHosts_follows fun last live counted => ?_
          split
          · trivial
          · next below => exact fun _ => counted (by omega)
        · trivial
      · refine (reads_follows (checkProviderLimit_reads lease)).weaken fun later outcome _ => ?_
        cases outcome with
        | error failure => trivial
        | ok _ =>
            intro counts
            rw [CountScope.counts, names, beq_iff_eq] at counts
            exact absurd counts same

theorem createHost_follows {poolMember : Bool}
    (limits : ∀ name, scope = .provider name →
      deployment.settings.hostLimits.lookup name = some limit)
    (ready : Ready scope request phase) :
    Follows (contract scope limit) (fun _ _ => True) phase
      (createHost deployment request poolMember) := by
  have common {α : Type} {program : Task α} {later : Applicant} (all : program.All Op.common) :
      Follows (contract scope limit) (Returns fun _ _ => True) later program :=
    (common_follows all).weaken fun _ outcome _ => by cases outcome <;> trivial
  have reads {later : Applicant} (id : HostId) :
      Follows (contract scope limit) (Returns fun _ _ => True) later (refresh id) :=
    common ((refresh_reads id).mono fun _ => Op.common_of_reads)
  suffices creates : Follows (contract scope limit) (Returns fun _ _ => True) phase
      (createHost deployment request poolMember) from creates.weaken fun _ _ _ => trivial
  unfold createHost
  cases deployment.getVmProvider request.provider with
  | error failure => trivial
  | ok vm =>
  simp only [ofExcept_ok, bind_eq_bind, done_bind]
  cases checkRequest deployment request vm with
  | error failure => trivial
  | ok _ =>
  simp only [ofExcept_ok, done_bind]
  have resolves : Follows (contract scope limit) (Returns fun later _ => Ready scope request later)
      phase (resolveImage request vm) := by
    refine (reads_follows resolveImage_reads).weaken fun later outcome kept => ?_
    cases outcome with
    | error failure => trivial
    | ok _ => exact fun claims => kept (ready claims)
  refine .seq resolves fun later image ready => ?_
  refine .step trivial fun id _ => .step trivial fun now _ => ?_
  let host := newHost deployment request poolMember vm image.1 id now
  refine .seq (checkProviderLimit_follows host limits ready rfl rfl) fun last _ room => ?_
  refine .step room fun inserted _ => ?_
  cases inserted with
  | error failure => trivial
  | ok _ =>
  simp only [ofExcept_ok, done_bind]
  refine .seq (reads _) fun _ host _ => ?_
  refine .seq (common (provision_provisions.mono fun _ => Op.common_of_provisions)) fun _ _ _ => ?_
  refine .seq (reads _) fun _ provisioned _ => ?_
  split
  · trivial
  · refine .seq (?_ : Follows _ (Returns fun _ _ => True) _ _) fun _ _ _ => reads _
    refine .seq (common ((requestedLease_reads _ _).mono fun _ => Op.common_of_reads)) ?_
    exact fun _ expiresAt _ => .step trivial fun updatedAt _ => .step trivial fun _ _ => trivial

/-- A claim that finds no warm host leaves its room. -/
theorem tryClaimPoolHost_follows {provider : String} (ready : Ready scope request phase) :
    Follows (contract scope limit)
      (Returns fun later found => found = none → Ready scope request later) phase
      (tryClaimPoolHost deployment request provider) := by
  refine .step trivial fun now _ => ?_
  cases deployment.getVmProvider (some provider) with
  | error failure => trivial
  | ok vm =>
  simp only [ofExcept_ok, bind_eq_bind, done_bind]
  refine .step trivial fun found _ => ?_
  cases found with
  | none => exact fun _ => ready
  | some candidate =>
  have leases {later : Applicant} (kept : Ready scope request later) :
      Follows (contract scope limit) (Returns fun last _ => Ready scope request last) later
        (requestedLease deployment request.permanent request.expiresAt) := by
    refine (reads_follows (requestedLease_reads _ _)).weaken fun last outcome keeps => ?_
    cases outcome with
    | error failure => trivial
    | ok _ => exact fun claims => keeps (kept claims)
  refine .seq (leases ready) fun later expiresAt ready => ?_
  refine .step ready fun claimed won => ?_
  rintro rfl claims
  simpa using won claims

theorem obtainHost_follows
    (limits : ∀ name, scope = .provider name →
      deployment.settings.hostLimits.lookup name = some limit)
    (ready : Ready scope request phase) :
    Follows (contract scope limit) (Returns fun _ _ => True) phase
      (obtainHost deployment request) := by
  have warm : Follows (contract scope limit)
      (Returns fun later found => found = none → Ready scope request later) phase
      (warmHost deployment request) := by
    unfold warmHost
    dsimp only
    split
    · exact tryClaimPoolHost_follows ready
    · exact fun _ => ready
  refine .seq warm fun later found ready => ?_
  cases found with
  | some host => trivial
  | none => exact (createHost_follows limits (ready rfl)).any

theorem checkAccountLimit_follows
    (limited : ∀ name, scope = .serviceAccount name →
      accountLimit deployment (some name) = some (name, limit)) :
    Follows (contract scope limit) (Returns fun later _ => Ready scope request later) phase
      (checkAccountLimit deployment request.serviceAccount) := by
  by_cases claims : scope.claims request.serviceAccount
  · cases scope with
    | provider name => cases claims
    | serviceAccount name =>
        have same : request.serviceAccount = some name := by
          simpa [CountScope.claims] using claims
        unfold checkAccountLimit
        rw [same, limited name rfl]
        refine .seq countLiveHosts_follows fun later live counted => ?_
        split
        · trivial
        · next below => exact fun _ => counted (by omega)
  · refine (reads_follows (checkAccountLimit_reads _)).weaken fun later outcome _ => ?_
    cases outcome with
    | error failure => trivial
    | ok _ => exact fun claimed => absurd claimed claims

theorem releaseIdempotencyLoser_follows {host : Host} :
    Follows (contract scope limit) (Returns fun _ _ => True) phase
      (releaseIdempotencyLoser deployment host) := by
  have commits {later : Applicant} (id : HostId) (columns : HostColumns)
      (leaves : ∀ account, columns.serviceAccount ≠ some (some account)) :
      Follows (contract scope limit) (Returns fun _ _ => True) later
        (commit .disposal id columns) := by
    refine .step leaves fun matched _ => ?_
    cases matched <;> trivial
  refine .step trivial fun row _ => ?_
  cases row with
  | none => trivial
  | some fresh =>
  refine .step trivial fun now _ => ?_
  split
  · cases deployment.getVmProvider (some fresh.provider) with
    | error failure => trivial
    | ok vm => exact commits _ _ (by simp)
  · exact commits _ _ (by simp)

theorem getOrCreateHost_follows
    (limits : ∀ name, scope = .provider name →
      deployment.settings.hostLimits.lookup name = some limit)
    (limited : ∀ name, scope = .serviceAccount name →
      accountLimit deployment (some name) = some (name, limit)) :
    Follows (contract scope limit) (Returns fun _ _ => True) phase
      (getOrCreateHost deployment request) := by
  have lookups {later : Applicant} (key : String) :
      Follows (contract scope limit) (Returns fun _ _ => True) later
        (lookupIdempotencyKey key request.serviceAccount) :=
    (common_follows (Claimant.lookupIdempotencyKey_common _ _)).any
  unfold getOrCreateHost
  cases checkProvider deployment request.provider with
  | error failure => trivial
  | ok _ =>
  simp only [ofExcept_ok, bind_eq_bind, done_bind]
  split
  · exact .seq (checkAccountLimit_follows limited) fun _ _ ready => obtainHost_follows limits ready
  · refine .seq (lookups _) fun _ existing _ => ?_
    cases existing with
    | some existing => trivial
    | none =>
    refine .seq (checkAccountLimit_follows limited) fun _ _ ready => ?_
    refine .seq (obtainHost_follows limits ready) fun _ host _ => ?_
    refine .step trivial fun now _ => .step trivial fun recorded _ => ?_
    split
    · trivial
    · refine .seq releaseIdempotencyLoser_follows fun _ _ _ => ?_
      refine .seq (lookups _) fun _ winner _ => ?_
      cases winner <;> trivial

theorem topUp_follows
    (limits : ∀ name, scope = .provider name →
      deployment.settings.hostLimits.lookup name = some limit)
    (batch : List String) (failures created : ℕ) :
    Follows (contract scope limit) (Returns fun _ _ => True) phase
      (Pool.topUp deployment batch failures created) := by
  induction batch generalizing phase failures created with
  | nil => trivial
  | cons provider rest ih =>
      have creates : Follows (contract scope limit) (fun _ (_ : Except Failure Host) => True) phase
          (inSession do
            let now ← Task.clock
            createHost deployment
              { provider := some provider
                expiresAt := some (now + hours deployment.settings.poolHostMaxAgeHours) }
                  true) := by
        have unnamed : ∀ account : Option String, account = none →
          scope.claims account = false := by
          rintro _ rfl
          cases scope <;> rfl
        refine .closing (.step trivial fun now _ => ?_)
        refine (createHost_follows limits fun claims => ?_).weaken fun _ outcome _ =>
          ⟨trivial, fun _ _ => trivial⟩
        simp [unnamed none rfl] at claims
      refine .bind (.attempt (creates.weaken fun later outcome _ => ?_))
      cases outcome with
      | ok host => exact ih _ _
      | error failure =>
          dsimp only
          split
          · trivial
          · exact ih _ _

theorem maintainPool_follows
    (limits : ∀ name, scope = .provider name →
      deployment.settings.hostLimits.lookup name = some limit) :
    Follows (contract scope limit) (Returns fun _ _ => True) phase
      (Pool.maintainPool deployment) := by
  unfold Pool.maintainPool
  dsimp only
  split
  · trivial
  · refine .step trivial fun now _ => ?_
    have surveyed : (Pool.survey deployment.settings.getPoolTargets now).All Op.common :=
      inSession_common (.step trivial fun _ => .bind (excessIds_common _ _ _ _) fun _ => trivial)
    refine .seq (common_follows surveyed).any fun _ _ _ => ?_
    refine .step trivial fun shuffled _ => .seq (topUp_follows limits _ _ _) fun _ created _ => ?_
    exact .seq (common_follows (shedEach_common _ _)).any fun _ removed _ => trivial

end Quota

end Drukbox
