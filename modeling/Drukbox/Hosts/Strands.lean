import Drukbox.Database.RowSteps
import Drukbox.Hosts.Orphans
import Drukbox.Hosts.PoolClaims
import Drukbox.Hosts.TeardownOrder

/-!
# Stranded provisions

The row of a create keeps the expiry that it was inserted with until the host is active, fails or is
renewed.  That expiry is the end of the grace, or the requested expiry where that is later.
-/

namespace Drukbox

open Await HostService Registry Program PoolClaims

/-- What a step may insert. -/
def Op.files (filed : Host → Prop) : Op → Prop
  | .hosts (.insert host _) => filed host
  | _ => True

namespace Strands

section Programs

variable (deployment : Deployment)

/-- The expiry of a host in flight. -/
def inFlight (requested : Option ℤ) (createdAt : ℤ) : ℤ :=
  match requested with
  | some expiresAt => max expiresAt (createdAt + deployment.grace)
  | none => createdAt + deployment.grace

/-- The host is in flight with the requested expiry. -/
def Carries (requested : Option ℤ) (host : Host) : Prop :=
  host.expiresAt = some (inFlight deployment requested host.createdAt)

/-- The expiry that a call requests for the hosts that it creates. -/
def Requests : HostCall → Option ℤ → Prop
  | .getOrCreate request, requested | .create request _, requested =>
      requested = request.expiresAt
  | .maintain, requested =>
      ∃ now, requested = some (now + hours deployment.settings.poolHostMaxAgeHours)
  | .renew _ _, _ | .delete _ _, _ | .reap, _ => False

/-- The call inserts the host. -/
def Files (call : HostCall) (host : Host) : Prop :=
  ∃ requested, Requests deployment call requested ∧ Carries deployment requested host

end Programs

variable {deployment : Deployment} {request : HostRequest} {filed : Host → Prop}

theorem files_of_common {op : Op} (common : op.common) : op.files filed := by
  cases op with
  | hosts query =>
      cases query with
      | insert => cases common
      | get | lock | expired | warm | excess | count | candidate | claim | update | stamp
      | delete => trivial
  | clock | uuid7 | advisoryLock | rollback | keys | templates | outside | vm => trivial

theorem reads_files {α : Type} {program : Task α} (all : program.All Op.reads) :
    program.All (Op.files filed) :=
  all.mono fun _ reads => files_of_common (Op.common_of_reads reads)

theorem createHost_files {poolMember : Bool} :
    (createHost deployment request poolMember).All
      (Op.files (Carries deployment request.expiresAt)) := by
  unfold createHost
  cases deployment.getVmProvider request.provider with
  | error failure => trivial
  | ok vm =>
  simp only [ofExcept_ok, bind_eq_bind, done_bind]
  cases checkRequest deployment request vm with
  | error failure => trivial
  | ok _ =>
  simp only [ofExcept_ok, done_bind]
  refine .bind (reads_files resolveImage_reads) fun image => ?_
  refine .step trivial fun id => .step trivial fun now => ?_
  refine .bind (reads_files (checkProviderLimit_reads _)) fun _ => ?_
  refine .step ?_ fun inserted => ?_
  · cases requested : request.expiresAt <;>
      simp [Op.files, Carries, inFlight, newHost, requested, Deployment.grace]
  cases inserted with
  | error failure => trivial
  | ok _ =>
  simp only [ofExcept_ok, done_bind]
  refine .bind (reads_files (refresh_reads _)) fun _ => ?_
  refine .bind (provision_provisions.mono fun _ provisions =>
    files_of_common (Op.common_of_provisions provisions)) fun _ => ?_
  refine .bind (reads_files (refresh_reads _)) fun row => ?_
  split
  · trivial
  · refine .bind (.bind (reads_files (requestedLease_reads _ _)) fun _ => ?_) fun _ =>
      reads_files (refresh_reads _)
    exact .step trivial fun _ => ⟨trivial, fun _ => trivial⟩

theorem obtainHost_files :
    (obtainHost deployment request).All (Op.files (Carries deployment request.expiresAt)) := by
  refine .bind ?_ fun warm => ?_
  · unfold warmHost
    dsimp only
    split
    · refine .step trivial fun now => ?_
      cases deployment.getVmProvider (some _) with
      | error failure => trivial
      | ok vm =>
      simp only [ofExcept_ok, bind_eq_bind, done_bind]
      refine .step trivial fun found => ?_
      cases found with
      | none => trivial
      | some candidate =>
          exact .bind (reads_files (requestedLease_reads _ _)) fun _ =>
            ⟨trivial, fun _ => trivial⟩
    · trivial
  · cases warm with
    | some host => trivial
    | none => exact createHost_files

theorem releaseIdempotencyLoser_files {host : Host} :
    (releaseIdempotencyLoser deployment host).All (Op.files filed) :=
  releaseIdempotencyLoser_all trivial (fun _ => trivial) fun _ _ => trivial

theorem getOrCreateHost_files :
    (getOrCreateHost deployment request).All (Op.files (Carries deployment request.expiresAt)) := by
  have limited : (checkAccountLimit deployment request.serviceAccount).All
      (Op.files (Carries deployment request.expiresAt)) := reads_files (checkAccountLimit_reads _)
  have looked (key : String) : (lookupIdempotencyKey key request.serviceAccount).All
      (Op.files (Carries deployment request.expiresAt)) :=
    (Claimant.lookupIdempotencyKey_common _ _).mono fun _ => files_of_common
  unfold getOrCreateHost
  cases checkProvider deployment request.provider with
  | error failure => trivial
  | ok _ =>
  simp only [ofExcept_ok, bind_eq_bind, done_bind]
  split
  · exact .bind limited fun _ => obtainHost_files
  · refine .bind (looked _) fun existing => ?_
    cases existing with
    | some existing => trivial
    | none =>
    refine .bind limited fun _ => .bind obtainHost_files fun host =>
      .step trivial fun now => .step trivial fun recorded => ?_
    split
    · trivial
    · refine .bind releaseIdempotencyLoser_files fun _ => .bind (looked _) fun winner => ?_
      cases winner <;> trivial

theorem topUp_files (batch : List String) (failures created : ℕ) :
    (Pool.topUp deployment batch failures created).All
      (Op.files (Files deployment .maintain)) := by
  induction batch generalizing failures created with
  | nil => trivial
  | cons provider rest ih =>
      refine .bind (.attempt (.closing (.step trivial fun now => ?_) ⟨trivial, fun _ => trivial⟩))
        fun outcome => ?_
      · refine createHost_files.mono fun op files => ?_
        cases op with
        | hosts query =>
            cases query with
            | insert host lease => exact ⟨_, ⟨now, rfl⟩, files⟩
            | get | lock | expired | warm | excess | count | candidate | claim | update | stamp
            | delete => trivial
        | clock | uuid7 | advisoryLock | rollback | keys | templates | outside | vm => trivial
      · cases outcome with
        | ok host => exact ih _ _
        | error failure =>
            dsimp only
            split
            · trivial
            · exact ih _ _

theorem maintainPool_files :
    (Pool.maintainPool deployment).All (Op.files (Files deployment .maintain)) := by
  unfold Pool.maintainPool
  dsimp only
  split
  · trivial
  · have surveyed (now : ℤ) : (Pool.survey deployment.settings.getPoolTargets now).All Op.common :=
      inSession_common (.step trivial fun _ => .bind (excessIds_common _ _ _ _) fun _ => trivial)
    refine .step trivial fun now => .bind ((surveyed now).mono fun _ => files_of_common) fun _ => ?_
    refine .step trivial fun shuffled => .bind (topUp_files _ _ _) fun created => ?_
    exact .bind ((shedEach_common _ _).mono fun _ => files_of_common) fun removed => trivial

/-- Every host that a call inserts carries the expiry that the call requests. -/
theorem program_files (deployment : Deployment) (call : HostCall) :
    (call.program deployment).All (Op.files (Files deployment call)) := by
  have requested {requested : Option ℤ} (requests : Requests deployment call requested) {op : Op}
      (files : op.files (Carries deployment requested)) : op.files (Files deployment call) := by
    cases op with
    | hosts query =>
        cases query with
        | insert host lease => exact ⟨_, requests, files⟩
        | get | lock | expired | warm | excess | count | candidate | claim | update | stamp
        | delete => trivial
    | clock | uuid7 | advisoryLock | rollback | keys | templates | outside | vm => trivial
  have mapped {α : Type} {program : Task α} (reply : α → Reply)
      (all : program.All (Op.files (Files deployment call))) :
      (reply <$> program).All (Op.files (Files deployment call)) :=
    .bind all fun _ => trivial
  have session {α : Type} {program : Task α}
      (all : program.All (Op.files (Files deployment call))) :
      (inSession program).All (Op.files (Files deployment call)) :=
    .closing all ⟨trivial, fun _ => trivial⟩
  cases call with
  | getOrCreate request =>
      exact mapped _ (session (getOrCreateHost_files.mono fun _ => requested rfl))
  | create request poolMember =>
      exact mapped _ (session (createHost_files.mono fun _ => requested rfl))
  | renew id expiresAt => exact mapped _ (session (renewHost_common.mono fun _ => files_of_common))
  | delete id flags => exact mapped _ (session (deleteHost_common.mono fun _ => files_of_common))
  | reap =>
      refine mapped _ (.step trivial fun now => .step trivial fun expired => ?_)
      exact (reapEach_common _).mono fun _ => files_of_common
  | maintain => exact mapped _ maintainPool_files

/-- The contract of a call that inserts hosts. -/
def contract (deployment : Deployment) : Contract Op.Answer HostCall where
  allows call op := op.files (Files deployment call)
  next call _ _ := call

theorem program_follows (deployment : Deployment) (call : HostCall) :
    Follows (contract deployment) (fun _ (_ : Except Failure Reply) => True) call
      (call.program deployment) := by
  refine (Follows.of_all (program_files deployment call) (fun later => later = call) rfl ?_).weaken
    fun _ _ _ => trivial
  rintro op _ files rfl
  exact ⟨files, fun _ _ => rfl⟩

variable {ι : Type} [DecidableEq ι]

/-- What the grace promises of a row: it expires by the end of its grace, or has failed and expired;
a janitor that reads the time after that selects it, and its delete can remove it. -/
structure Bounded (deployment : Deployment) (row : Host) (world : Deployment.World ι) : Prop where
  expires : ∃ expiresAt, row.expiresAt = some expiresAt ∧
    (expiresAt ≤ row.createdAt + deployment.grace ∨
      row.status = .error ∧ expiresAt ≤ world.state.now)
  selected : ∀ {janitor instant ids after}, row.createdAt + deployment.grace < instant →
    (row.status = .error → world.state.now < instant) →
      deployment.Answered janitor (.hosts (.expired instant)) ids world after → row.id ∈ ids
  reaped : ∀ {janitor vm}, row.createdAt + deployment.grace < world.state.now →
    State.Free janitor (world.state.hostLock row.id) →
      deployment.getVmProvider (some row.provider) = .ok vm →
        ∃ after, deployment.system.Finishes janitor
          (inSession (deleteHost deployment row.id { force := true, expiredOnly := true })) world
            (.ok true) after ∧ after.state.hosts.get row.id = none

/-- A renewal of the host is committed. -/
def Renewed (id : HostId) (world : Deployment.World ι) : Prop :=
  ∃ task columns, Entry.answered task (.hosts (.update .renewal id columns)) true ∈ world.log

/-- The row keeps the expiry that its host was inserted with, or has failed and expired. -/
def Keeps (host row : Host) (world : Deployment.World ι) : Prop :=
  if row.status = .error then ∃ expiresAt ≤ world.state.now, row.expiresAt = some expiresAt
  else row.expiresAt = host.expiresAt

/-- What holds of the hosts in flight between any two steps. -/
structure Stranded (deployment : Deployment) (calls : ι → Option HostCall)
    (world : Deployment.World ι) : Prop where
  filed : ∀ {task host}, Made task host world →
    ∃ call, calls task = some call ∧ Files deployment call host
  lease : ∀ {task host row}, Made task host world → world.state.hosts.get host.id = some row →
    row.SameOrigin host ∧ (row.status ≠ .active → ¬ Renewed host.id world → Keeps host row world)

section Runs

variable {calls : ι → Option HostCall} {task other : ι} {op : Op}
  {answer : op.Answer} {before after : Deployment.World ι} {actor : Provisioner} {call : HostCall}
  {host row : Host} {id : HostId}

section Answered

variable (answered : deployment.Answered task op answer before after)
include answered

theorem renewed (renewed : Renewed id before) : Renewed id after := by
  obtain ⟨owner, columns, logged⟩ := renewed
  exact ⟨owner, columns, answered.mem_log.mpr (.inl logged)⟩

/-- The row of a host keeps its expiry, unless it becomes active or is renewed. -/
theorem lease_kept (known : actor.Standing task before)
    (allowed : (Provisioner.contract deployment).allows actor op)
    (lease : ∀ {old}, before.state.hosts.get host.id = some old → old.SameOrigin host ∧
      (old.status ≠ .active → ¬ Renewed host.id before → Keeps host old before))
    (spent : Spent host.id before)
    (present : after.state.hosts.get host.id = some row) :
    row.SameOrigin host ∧
      (row.status ≠ .active → ¬ Renewed host.id after → Keeps host row after) := by
  have step := answered.outcome.rowStep present
  have origin : row.SameOrigin host := by
    rcases step.origin with ⟨old, was, origin⟩ | ⟨_, rfl, -, same, -⟩
    · exact origin.trans (lease was).1
    · obtain ⟨drew, unborn⟩ := known.drawn _ allowed.1
      exact absurd (spent.2 task (same ▸ drew)) (same ▸ unborn)
  refine ⟨origin, fun inactive unrenewed => ?_⟩
  have unrenewed_before : ¬ Renewed host.id before := fun old => unrenewed (renewed answered old)
  cases step with
  | kept was =>
      have kept := (lease was).2 inactive unrenewed_before
      rwa [Keeps, answered.now]
  | insert same =>
      obtain ⟨drew, unborn⟩ := known.drawn _ allowed.1
      exact absurd (spent.2 task (same ▸ drew)) (same ▸ unborn)
  | claim was =>
      obtain ⟨-, warm, found, same⟩ := allowed
      obtain ⟨active, -, agrees⟩ := known.candidate warm found
      have status := (agrees _ (same ▸ was)).2
      simp [Host.claimColumns, status, active] at inactive
  | stamp was =>
      obtain ⟨mine, owns, same, active, -⟩ := allowed
      have status := ((known.own mine owns).2.2 _ (same ▸ was)).2
      simp [status, active] at inactive
  | @update place columns old was free =>
      cases place with
      | progress =>
          obtain ⟨-, ⟨mine, owns, same, unsettled, moves⟩, silent, -⟩ := allowed
          have status := ((known.own mine owns).2.2 old (same ▸ was)).2
          rw [← status] at unsettled
          have kept :=
            (lease was).2 (by rintro active; simp [active, HostStatus.settled] at unsettled)
            unrenewed_before
          have unfailed : old.status ≠ .error := by
            rintro failed
            simp [failed, HostStatus.settled] at unsettled
          rw [Keeps, if_neg unfailed] at kept
          rw [Keeps, if_neg, Host.set_expiresAt, silent]
          · exact kept
          · rw [Host.set_status]
            cases moved : columns.status with
            | none => simpa using unfailed
            | some status => exact (moves status moved).1
      | failure =>
          obtain ⟨-, -, failed, -, -, now, read, lapsed⟩ := allowed
          rw [Keeps, if_pos (by simp [failed])]
          exact ⟨now, answered.now ▸ known.readings now read, by simp [lapsed]⟩
      | renewal => exact absurd ⟨task, columns, answered.mem_log.mpr (.inr rfl)⟩ unrenewed
      | disposal =>
          obtain ⟨silent, ⟨obtained, obtains, same⟩, -⟩ := allowed
          obtain ⟨active, -, agrees⟩ := known.obtained obtained obtains
          have status := (agrees old (same ▸ was)).2
          simp [silent, status, active] at inactive
      | deviceRelease =>
          obtain ⟨silent, -, -, lease_silent⟩ := allowed
          have kept := (lease was).2 (by simpa [silent] using inactive) unrenewed_before
          simpa [Keeps, silent, lease_silent, answered.now] using kept

theorem stranded_kept (stranded : Stranded deployment calls before) (registry : Registry before)
    (known : actor.Standing task before) (called : calls task = some call)
    (allowed : (Provisioner.contract deployment).allows actor op)
    (files : op.files (Files deployment call)) : Stranded deployment calls after where
  filed {owner host} made := by
    rcases PoolClaims.made_cases answered made with old | ⟨rfl, lease, rfl, -⟩
    · exact stranded.filed old
    · exact ⟨call, called, files⟩
  lease {owner host row} made present := by
    rcases PoolClaims.made_cases answered made with old | ⟨rfl, lease, rfl, accepted⟩
    · obtain ⟨lease, logged⟩ := old
      have born : Inserted host.id before := ⟨owner, host, lease, rfl, logged⟩
      exact lease_kept answered known allowed (fun was => stranded.lease ⟨lease, logged⟩ was)
        ⟨registry.born_issued born, fun _ _ => born⟩ present
    · obtain rfl := eq_of_heq accepted
      rw [answered.hosts_get] at present
      obtain rfl : host = row := by simpa [Op.hostEffect, HostQuery.effect] using present
      refine ⟨.refl host, fun _ _ => ?_⟩
      rw [Keeps, if_neg (by simp [allowed.2.1])]

end Answered

omit [DecidableEq ι] in
theorem stranded_unanswered (same : Deployment.Unanswered before after)
    (stranded : Stranded deployment calls before) : Stranded deployment calls after where
  filed made := by
    simp only [Made, same.log] at made
    exact stranded.filed made
  lease {owner host row} made present := by
    simp only [Made, same.log] at made
    rw [same.hosts] at present
    obtain ⟨origin, lease⟩ := stranded.lease made present
    refine ⟨origin, fun inactive unrenewed => ?_⟩
    simp only [Renewed, same.log] at unrenewed
    have kept := lease inactive unrenewed
    unfold Keeps at kept ⊢
    split at kept
    · next failed =>
        obtain ⟨expiresAt, lapsed, same_lease⟩ := kept
        rw [if_pos failed]
        exact ⟨expiresAt, lapsed.trans same.now, same_lease⟩
    · next unfailed =>
        rw [if_neg unfailed]
        exact kept

/-- Every run keeps the expiries of the hosts in flight, whatever happens to the tasks. -/
theorem upheld (deployment : Deployment) (calls : ι → Option HostCall) :
    Upheld (deployment.system : System ι _ _ _ _) {}
      ((Provisioner.contract deployment).prod (contract deployment))
      (fun world => Registry world ∧ Stranded deployment calls world)
      fun task phases world =>
        phases.1.Standing task world ∧ calls task = some phases.2 where
  perform {task phases op choice answer before after} allowed holds stands _ answered := by
    have answered := Deployment.answered answered
    have expected := answered.expected holds.1 stands.1 allowed.1
    exact ⟨⟨expected, trivial⟩,
      ⟨answered.registry holds.1 stands.1 allowed.1,
        stranded_kept answered holds.2 holds.1 stands.1 stands.2 allowed.1 allowed.2⟩,
      answered.standing_self holds.1 stands.1 allowed.1, stands.2⟩
  others allowed holds stands _ answered different held := by
    have answered := Deployment.answered answered
    exact ⟨answered.standing_other holds.1 stands.1 allowed.1 different held.1, held.2⟩
  abandon {task before} _ holds := by
    have same : Deployment.Unanswered before (deployment.system.abandoned task before) :=
      .abandoned task before
    exact ⟨⟨same.registry holds.1, stranded_unanswered same holds.2⟩,
      fun _ held => ⟨same.stands held.1, held.2⟩⟩
  world _ holds moved := by
    have same := Deployment.Unanswered.nature moved
    exact ⟨⟨same.registry holds.1, stranded_unanswered same holds.2⟩,
      fun held => ⟨same.stands held.1, held.2⟩⟩

/-- A row that expires by the end of its grace, or has failed and expired, is reaped. -/
theorem bounded_of_expires {world : Deployment.World ι} {expiresAt : ℤ} (registry : Registry world)
    (present : world.state.hosts.get id = some row) (lease : row.expiresAt = some expiresAt)
    (bound : expiresAt ≤ row.createdAt + deployment.grace ∨
      row.status = .error ∧ expiresAt ≤ world.state.now) : Bounded deployment row world where
  expires := ⟨expiresAt, lease, bound⟩
  selected {janitor instant ids after} late failed answered := by
    have lapsed : row.expiredBefore instant := by
      rcases bound with early | ⟨error, expired⟩
      · simp only [Host.expiredBefore, lease, Option.any_some, decide_eq_true_eq]
        omega
      · have read := failed error
        simp only [Host.expiredBefore, lease, Option.any_some, decide_eq_true_eq]
        omega
    have host_id : row.id = id := registry.host_id present
    exact (answered.outcome.1 row.id).mpr ⟨row, host_id ▸ present, lapsed⟩
  reaped {janitor vm} late free known := by
    have lapsed : row.leaseOver world.state.now := by
      simp only [Host.leaseOver, lease, Option.any_some, decide_eq_true_eq]
      rcases bound with early | ⟨-, expired⟩ <;> omega
    have host_id : row.id = id := registry.host_id present
    exact Attempt.inSession_finishes free (host_id ▸ present) rfl ⟨by simp, fun _ => lapsed⟩
      (.inl rfl) known

/-- No entry of the history is a renewal. -/
def isUnrenewed {ι : Type} : Entry ι Op.Answer → Bool
  | .answered _ (.hosts (.update .renewal _ _)) _ => false
  | _ => true

omit [DecidableEq ι] in
theorem unrenewed_of_all {world : Deployment.World ι} (quiet : world.log.all isUnrenewed) :
    ¬ Renewed id world := by
  rintro ⟨task, columns, logged⟩
  have unrenewed := List.all_eq_true.mp quiet _ logged
  cases unrenewed

end Runs

/-- A create, with the expiry that its caller asks for, and a run of the janitor. -/
def strand (expiresAt : Option ℤ) : Config Bool Op.Answer (State Bool) Failure Reply :=
  Deployment.sample.start (.resting 0 .empty .empty .empty) fun janitor =>
    some (if janitor then .reap else .create { expiresAt } false)

/-- The host that the create inserts. -/
def strandHost (expiresAt : Option ℤ) : Host where
  id := 1
  serviceAccount := none
  env := []
  secrets := []
  name := Host.buildName 1
  provider := "exe"
  image := "ubuntu"
  instanceType := none
  diskGb := none
  status := .provisioning
  createdAt := 0
  updatedAt := 0
  expiresAt := some (inFlight Deployment.sample expiresAt 0)
  poolMember := false

/-- The process crashes when the row is inserted, and the grace passes. -/
def strandSchedule : List (Event Bool Choice (Nature Bool)) :=
  [.perform false (.number 1), .perform false .go, .perform false .go, .abandon false,
    .world (.tick 901000000)]

/-- A janitor runs after that, and finds nothing. -/
def missedSchedule : List (Event Bool Choice (Nature Bool)) :=
  strandSchedule ++ [.perform true .go, .perform true (.numbers [])]

end Strands

end Drukbox
