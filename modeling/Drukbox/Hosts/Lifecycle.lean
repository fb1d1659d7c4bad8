import Drukbox.Database.RowSteps
import Drukbox.Hosts.Launcher
import Drukbox.Hosts.Teardown
import Drukbox.SecretsExchange.Authorize

/-!
# The life of a host row

A row begins in `PROVISIONING` and goes through the statuses of its launch in their order, to
`ACTIVE` or `ERROR`, whatever the other tasks do to it.  From the start of its VM on it keeps the
fingerprints of the placeholders that the sandbox was given, so that the exchange knows each of them
for as long as the row is there.
-/

namespace Drukbox

open Await Registry

variable {ι : Type} [DecidableEq ι]

namespace HostStatus

/-- The moves of a launch. -/
def Next (status next : HostStatus) : Prop :=
  Launcher.successor status = some next ∨ Launcher.Begun status ∧ next = .error

/-- The entries have their fingerprints, unless the launch failed before. -/
def launched : HostStatus → Bool
  | provisioning | creatingNetwork => false
  | creatingVm | bootstrapping | active | error => true

theorem Next.launched {status next : HostStatus} (moves : Next status next)
    (past : status.launched) : next.launched := by
  rcases moves with successor | ⟨-, rfl⟩
  · cases status with
    | provisioning | creatingNetwork => cases past
    | active | error => cases successor
    | creatingVm | bootstrapping => obtain rfl := Option.some.inj successor; rfl
  · rfl

theorem Next.unsettled {status next : HostStatus} (moves : Next status next) :
    status.settled = false := by
  rcases moves with successor | ⟨begun, -⟩
  · cases status <;> first | rfl | cases successor
  · rcases begun with rfl | rfl | rfl <;> rfl

end HostStatus

namespace Lifecycle

/-- What a row shows of its status. -/
structure Staged (row : Host) (now : ℤ) : Prop where
  failed : row.status = .error → row.lastError ≠ "" ∧ row.leaseOver now
  sound : row.status ≠ .error → row.lastError = ""
  activated : row.status = .active ↔ row.activatedAt.isSome
  fingerprinted : row.status.launched → row.status ≠ .error →
    ∀ name entry, row.secrets.lookup name = some entry → entry.placeholderFingerprint.isSome

/-- What may have become of a row. -/
structure Later (old row : Host) : Prop where
  origin : row.SameOrigin old
  status : Relation.ReflTransGen HostStatus.Next old.status row.status
  activatedAt : old.status = .active → row.activatedAt = old.activatedAt
  secrets : old.status.launched → row.secrets = old.secrets
  failed : old.status = .error → row.lastError = old.lastError ∧ row.expiresAt = old.expiresAt

variable {old row third : Host} {now : ℤ}

theorem settled_path {status next : HostStatus} (settled : status.settled)
    (path : Relation.ReflTransGen HostStatus.Next status next) : next = status := by
  induction path with
  | refl => rfl
  | tail _ moves same =>
      have unsettled := moves.unsettled
      rw [same, settled] at unsettled
      contradiction

theorem launched_path {status next : HostStatus} (launched : status.launched)
    (path : Relation.ReflTransGen HostStatus.Next status next) : next.launched := by
  induction path with
  | refl => exact launched
  | tail _ moves past => exact moves.launched past

theorem Later.refl (row : Host) : Later row row :=
  ⟨.refl row, .refl, fun _ => rfl, fun _ => rfl, fun _ => ⟨rfl, rfl⟩⟩

theorem Later.trans (first : Later old row) (second : Later row third) : Later old third := by
  refine ⟨second.origin.trans first.origin, first.status.trans second.status, fun active => ?_,
    fun launched => ?_, fun error => ?_⟩
  · have same := settled_path (by rw [active]; rfl) first.status
    exact (second.activatedAt (same.trans active)).trans (first.activatedAt active)
  · exact (second.secrets (launched_path launched first.status)).trans (first.secrets launched)
  · have same := settled_path (by rw [error]; rfl) first.status
    obtain ⟨lastError, expiresAt⟩ := first.failed error
    obtain ⟨still, ended⟩ := second.failed (same.trans error)
    exact ⟨still.trans lastError, ended.trans expiresAt⟩

theorem Staged.mono {later : ℤ} (staged : Staged row now) (passes : now ≤ later) :
    Staged row later :=
  ⟨fun error => ⟨(staged.failed error).1, Host.leaseOver_mono (staged.failed error).2 passes⟩,
    staged.sound, staged.activated, staged.fingerprinted⟩

theorem successor_cases {status next : HostStatus}
    (successor : Launcher.successor status = some next) :
    (next.launched → next = .creatingVm ∨ status.launched) ∧ next ≠ .error ∧
      status ≠ .active ∧ status ≠ .error := by
  cases status <;> cases successor <;> decide

/-- What one step does to a row. -/
inductive LaunchStep (sha256 : String → String) (now : ℤ) (old : Host) : Host → Prop
  | spared {row : Host} (origin : row.SameOrigin old) (status : row.status = old.status)
      (secrets : row.secrets = old.secrets) (lastError : row.lastError = old.lastError)
      (activatedAt : row.activatedAt = old.activatedAt)
      (failed : old.status = .error → row.expiresAt = old.expiresAt) :
      LaunchStep sha256 now old row
  | progressed {phase : Launcher} {columns : HostColumns}
      (progresses : phase.Progresses sha256 old columns) :
      LaunchStep sha256 now old (old.set columns)
  | failed {columns : HostColumns} (fails : Launcher.Fails old columns)
      (lapsed : (old.set columns).leaseOver now) : LaunchStep sha256 now old (old.set columns)

namespace LaunchStep

variable {sha256 : String → String} (step : LaunchStep sha256 now old row)
include step

theorem moved : row.status = old.status ∨ HostStatus.Next old.status row.status := by
  cases step with
  | spared origin status => exact .inl status
  | @progressed phase columns progresses =>
      cases moves : columns.status with
      | none => exact .inl (by simp [moves])
      | some next => exact .inr (.inl (by simp [moves, progresses.moves next moves]))
  | failed fails => exact .inr (.inr ⟨fails.begun, by simp [fails.status]⟩)

theorem path : Relation.ReflTransGen HostStatus.Next old.status row.status := by
  rcases step.moved with same | next
  · rw [same]
  · exact .single next

theorem later : Later old row := by
  have path := step.path
  cases step with
  | spared origin status secrets lastError activatedAt failed =>
      exact ⟨origin, path, fun _ => activatedAt, fun _ => secrets,
        fun error => ⟨lastError, failed error⟩⟩
  | @progressed phase columns progresses =>
      cases moves : columns.status with
      | none =>
          -- The device of a host that boots.
          have boots := progresses.settled moves
          refine ⟨.set _ _, path, by simp [boots], fun _ => ?_, by simp [boots]⟩
          simp [Host.set, progresses.secrets (by simp [moves])]
      | some next =>
          have successor := progresses.moves next moves
          refine ⟨.set _ _, path, fun active => ?_, fun launched => ?_, fun error => ?_⟩
          · rw [active] at successor
            cases successor
          · have other : next ≠ .creatingVm := by
              rintro rfl
              cases status : old.status <;> simp_all [Launcher.successor, HostStatus.launched]
            simp [Host.set, progresses.secrets (by simpa [moves] using other)]
          · rw [error] at successor
            cases successor
  | @failed columns fails lapsed =>
      refine ⟨.set _ _, path, fun active => ?_, fun launched => ?_, fun error => ?_⟩
      · rcases active ▸ fails.begun with impossible | impossible | impossible <;> cases impossible
      · rcases fails.secrets with early | kept
        · rw [early] at launched
          cases launched
        · simp [Host.set, kept]
      · rcases error ▸ fails.begun with impossible | impossible | impossible <;> cases impossible

theorem staged (staged : Staged old now) : Staged row now := by
  cases step with
  | spared origin status secrets lastError activatedAt failed =>
      refine ⟨fun error => ?_, ?_, ?_, ?_⟩
      · rw [status] at error
        obtain ⟨described, lapsed⟩ := staged.failed error
        exact ⟨lastError ▸ described, by simpa [Host.leaseOver, failed error] using lapsed⟩
      · rw [status, lastError]
        exact staged.sound
      · rw [status, activatedAt]
        exact staged.activated
      · rw [status, secrets]
        exact staged.fingerprinted
  | @progressed phase columns progresses =>
      have lastError : (old.set columns).lastError = old.lastError := by
        simp [Host.set, progresses.lastError]
      cases moves : columns.status with
      | none =>
          have boots := progresses.settled moves
          have status : (old.set columns).status = old.status := by simp [moves]
          have secrets : (old.set columns).secrets = old.secrets := by
            simp [Host.set, progresses.secrets (by simp [moves])]
          have activatedAt : (old.set columns).activatedAt = old.activatedAt := by
            simp [Host.set, progresses.quiet (by simp [moves])]
          refine ⟨fun error => ?_, ?_, ?_, ?_⟩
          · rw [status, boots] at error
            cases error
          · rw [status, lastError]
            exact staged.sound
          · rw [status, activatedAt]
            exact staged.activated
          · rw [status, secrets]
            exact staged.fingerprinted
      | some next =>
          have successor := progresses.moves next moves
          have status : (old.set columns).status = next := by simp [moves]
          obtain ⟨begins, settled, idle, sound⟩ := successor_cases successor
          refine ⟨fun error => ?_, fun _ => ?_, ?_, fun launched _ name entry found => ?_⟩
          · exact absurd (status ▸ error) settled
          · rw [lastError]
            exact staged.sound sound
          · by_cases active : next = .active
            · obtain ⟨instant, activated⟩ := progresses.activated (active ▸ moves)
              simp [Host.set, moves, active, activated]
            · have silent : old.activatedAt.isSome = false := by
                simpa [staged.activated] using idle
              have quiet := progresses.quiet (by simpa [moves] using active)
              simp [Host.set, moves, active, quiet, silent]
          · by_cases creates : next = .creatingVm
            · obtain ⟨sandbox, secrets, stored, handed⟩ := progresses.handed (creates ▸ moves)
              have found : secrets.lookup name = some entry := by
                simpa [Host.set, stored] using found
              obtain ⟨_, _, -, -, -, -, fingerprint⟩ := handed name entry found
              simp [fingerprint]
            · have secrets : (old.set columns).secrets = old.secrets := by
                simp [Host.set, progresses.secrets (by simpa [moves] using creates)]
              rw [secrets] at found
              rw [status] at launched
              exact staged.fingerprinted ((begins launched).resolve_left creates) sound name entry
                found
  | @failed columns fails lapsed =>
      obtain ⟨error, described, nonempty⟩ := fails.lastError
      have reached : (old.set columns).status = .error := by simp [fails.status]
      refine ⟨fun _ => ⟨?_, lapsed⟩, fun other => absurd reached other, ?_, fun _ other =>
        absurd reached other⟩
      · simpa [Host.set, described] using nonempty
      · have idle : old.status ≠ .active := by
          intro active
          rcases active ▸ fails.begun with impossible | impossible | impossible <;> cases impossible
        have silent : old.activatedAt.isSome = false := by
          simpa [staged.activated] using idle
        simp [Host.set, fails.status, fails.activatedAt, silent]

end LaunchStep

/-- The placeholders that a provider took in a run. -/
def handedOver (world : Deployment.World ι) : Set Handover :=
  {handover | ∃ task value added,
    Entry.answered task (.outside (.putSecret handover.1 handover.2.1 handover.2.2 value))
      (.ok added) ∈ world.log}

/-- A sandbox was started for the host. -/
structure Started (deployment : Deployment) (host : Host) (world : Deployment.World ι) : Prop where
  spent : Spent host.id world
  row : ∀ {row}, world.state.hosts.get host.id = some row →
    row.status.launched ∧ row.secrets = host.secrets
  handed : AllHanded deployment.sha256 (handedOver world) host.id host.name host.secrets

/-- What holds of the launches between any two steps. -/
structure Launches (deployment : Deployment) (world : Deployment.World ι) : Prop where
  staged : ∀ {id row}, world.state.hosts.get id = some row → Staged row world.state.now
  started : ∀ {task host environment setupScript},
    Entry.answered task (.vm (.start host environment setupScript)) () ∈ world.log →
      Started deployment host world ∧ ∃ lines, Environment.getPersist environment = .ok lines
  drew : ∀ {task host lease},
    Entry.answered task (.hosts (.insert host lease)) (.ok ()) ∈ world.log →
      Drew task host.id world

structure Standing (task : ι) (phases : Provisioner × Launcher) (world : Deployment.World ι) :
    Prop where
  same : phases.2.own = phases.1.own
  own : ∀ {mine row}, phases.2.own = some mine → world.state.hosts.get mine.id = some row →
    row.secrets = mine.secrets
  held : ∀ {row}, phases.2.held = some row →
    world.state.hostLock row.id = some task ∧ world.state.hosts.get row.id = some row
  handed : phases.2.handed ⊆ handedOver world

variable {deployment : Deployment} {task other : ι} {op : Op} {answer : op.Answer}
  {before after : Deployment.World ι} {actor : Provisioner} {launcher : Launcher} {id : HostId}
  {host : Host} {sha256 : String → String}

def MadeBy (task : ι) (id : HostId) (world : Deployment.World ι) : Prop :=
  ∃ host lease, host.id = id ∧
    Entry.answered task (.hosts (.insert host lease)) (.ok ()) ∈ world.log

section Answered

variable (answered : deployment.Answered task op answer before after)
include answered

theorem handedOver_mono : handedOver before ⊆ handedOver after :=
  fun _ ⟨owner, value, added, logged⟩ =>
    ⟨owner, value, added, answered.mem_log.mpr (.inl logged)⟩

/-- What a step makes of a row that was there. -/
theorem launchStep (known : actor.Standing task before)
    (stands : Standing task (actor, launcher) before)
    (allowed : (Provisioner.contract deployment).allows actor op)
    (launches : (Launcher.contract sha256).allows launcher op) (registry : Registry before)
    (was : before.state.hosts.get id = some old) (present : after.state.hosts.get id = some row) :
    LaunchStep sha256 before.state.now old row := by
  have owned {mine : Host} (owns : launcher.own = some mine) (same : mine.id = id) :
      old.status = mine.status ∧ old.secrets = mine.secrets := by
    have agrees := (known.own mine (stands.same ▸ owns)).2.2
    exact ⟨(agrees old (same ▸ was)).2, stands.own owns (same ▸ was)⟩
  have spared {columns : HostColumns} (spares : columns.Spares)
      (failed : old.status = .error → columns.expiresAt = none) :
      LaunchStep sha256 before.state.now old (old.set columns) := by
    refine .spared (.set _ _) ?_ ?_ ?_ ?_ fun error => ?_
    · simp [spares.status]
    · simp [Host.set, spares.secrets]
    · simp [Host.set, spares.lastError]
    · simp [Host.set, spares.activatedAt]
    · simp [failed error]
  cases answered.outcome.rowStep present with
  | kept now =>
      obtain rfl := Option.some.inj (was.symm.trans now)
      exact .spared (.refl _) rfl rfl rfl rfl fun _ => rfl
  | insert same absent =>
      rw [was] at absent
      contradiction
  | claim now free unclaimed =>
      obtain rfl := Option.some.inj (was.symm.trans now)
      refine spared ⟨rfl, rfl, rfl, rfl⟩ fun error => ?_
      obtain ⟨-, warm, found, same⟩ := allowed
      obtain ⟨active, -, agrees⟩ := known.candidate warm found
      have status := (agrees _ (same ▸ was)).2
      rw [error, active] at status
      contradiction
  | stamp now free matched =>
      obtain rfl := Option.some.inj (was.symm.trans now)
      refine spared ⟨rfl, rfl, rfl, rfl⟩ fun error => ?_
      obtain ⟨mine, owns, same, active, -⟩ := allowed
      have status := (owned (stands.same.trans owns) same).1
      rw [error, active] at status
      contradiction
  | @update place columns found now =>
      obtain rfl := Option.some.inj (was.symm.trans now)
      cases place with
      | progress =>
          obtain ⟨mine, owns, same, progresses⟩ := launches
          obtain ⟨status, -⟩ := owned owns same
          exact .progressed (progresses.congr (same.trans (registry.host_id was).symm) status)
      | failure =>
          obtain ⟨mine, owns, same, fails⟩ := launches
          obtain ⟨status, secrets⟩ := owned owns same
          obtain ⟨-, -, -, -, -, instant, read, lapses⟩ := allowed
          refine .failed (fails.congr status secrets) ?_
          simpa [Host.leaseOver, lapses] using known.readings instant read
      | renewal =>
          obtain ⟨spares, row, held, same, renewable⟩ := launches
          refine spared spares fun error => ?_
          obtain rfl := Option.some.inj ((same ▸ (stands.held held).2).symm.trans was)
          rw [error] at renewable
          contradiction
      | disposal =>
          refine spared launches fun error => ?_
          obtain ⟨-, ⟨gone, obtained, same⟩, -⟩ := allowed
          obtain ⟨active, -, agrees⟩ := known.obtained gone obtained
          have status := (agrees _ (same ▸ was)).2
          rw [error, active] at status
          contradiction
      | deviceRelease => exact spared launches fun _ => allowed.2.2.2

/-- A step that moves a row's status is an update by the task that launches its host. -/
theorem mover (known : actor.Standing task before)
    (stands : Standing task (actor, launcher) before)
    (launches : (Launcher.contract sha256).allows launcher op) (held : Launches deployment before)
    (registry : Registry before) (was : before.state.hosts.get id = some old)
    (present : after.state.hosts.get id = some row) (moves : row.status ≠ old.status) :
    MadeBy task id before := by
  have owned {mine : Host} (owns : launcher.own = some mine) (same : mine.id = id) :
      MadeBy task id before := by
    obtain ⟨drew, ⟨maker, host, lease, made, logged⟩, -⟩ := known.own mine (stands.same ▸ owns)
    have maker_drew := held.drew logged
    rw [made] at maker_drew
    obtain rfl := registry.drew_unique drew maker_drew
    exact ⟨host, lease, made.trans same, logged⟩
  cases answered.outcome.rowStep present with
  | kept now | claim now | stamp now =>
      exact absurd (Option.some.inj (now.symm.trans was) ▸ rfl) moves
  | insert same absent =>
      rw [was] at absent
      contradiction
  | @update place columns found now =>
      obtain rfl := Option.some.inj (was.symm.trans now)
      have still (silent : columns.status = none) : MadeBy task id before :=
        absurd (by simp [silent]) moves
      cases place with
      | progress | failure =>
          obtain ⟨mine, owns, same, -⟩ := launches
          exact owned owns same
      | renewal => exact still launches.1.status
      | disposal | deviceRelease => exact still launches.status

theorem staged_kept (registry : Registry before) (known : actor.Standing task before)
    (stands : Standing task (actor, launcher) before)
    (allowed : (Provisioner.contract deployment).allows actor op)
    (launches : (Launcher.contract sha256).allows launcher op)
    (staged : ∀ {id row}, before.state.hosts.get id = some row → Staged row before.state.now)
    (present : after.state.hosts.get id = some row) : Staged row after.state.now := by
  rw [answered.now]
  rcases (answered.outcome.rowStep present).origin with ⟨old, was, -⟩ | ⟨lease, rfl, -, -, -⟩
  · exact (launchStep answered known stands allowed launches registry was present).staged
      (staged was)
  · obtain ⟨status, lastError, activatedAt⟩ := launches
    refine ⟨fun error => ?_, fun _ => lastError, ?_, fun launched => ?_⟩
    · rw [status] at error
      cases error
    · simp [status, activatedAt]
    · rw [status] at launched
      cases launched

theorem row_before (known : actor.Standing task before)
    (allowed : (Provisioner.contract deployment).allows actor op) (spent : Spent id before)
    (present : after.state.hosts.get id = some row) :
    ∃ old, before.state.hosts.get id = some old := by
  rcases (answered.outcome.rowStep present).origin with ⟨old, was, -⟩ | ⟨lease, rfl, -, same, -⟩
  · exact ⟨old, was⟩
  · obtain ⟨drew, unborn⟩ := known.drawn _ allowed.1
    exact absurd (spent.2 task (same ▸ drew)) (same ▸ unborn)

/-- The row of a sandbox keeps the entries that the sandbox was started with. -/
theorem Started.kept (started : Started deployment host before) (registry : Registry before)
    (known : actor.Standing task before) (stands : Standing task (actor, launcher) before)
    (allowed : (Provisioner.contract deployment).allows actor op)
    (launches : (Launcher.contract sha256).allows launcher op) :
    Started deployment host after := by
  refine ⟨answered.spent started.spent, fun {row} present => ?_, fun name entry found =>
    (started.handed name entry found).mono (handedOver_mono answered)⟩
  obtain ⟨old, was⟩ := row_before answered known allowed started.spent present
  obtain ⟨launched, secrets⟩ := started.row was
  have later := (launchStep answered known stands allowed launches registry was present).later
  exact ⟨launched_path launched later.status, (later.secrets launched).trans secrets⟩

omit [DecidableEq ι] answered in
/-- The start of a sandbox finds the row in `CREATING_VM`, with the entries of the host. -/
theorem started_now (registry : Registry before) (known : actor.Standing task before)
    (stands : Standing task (actor, launcher) before) {environment : Dict String}
    {setupScript : Option String}
    (launches : (Launcher.contract deployment.sha256).allows launcher
      (.vm (.start host environment setupScript))) :
    Started deployment host before ∧
      (∀ row, before.state.hosts.get host.id = some row → row.status = .creatingVm) ∧
      ∃ lines, Environment.getPersist environment = .ok lines := by
  obtain ⟨checked, ⟨mine, owns, same, status, secrets⟩, handed⟩ := launches
  obtain ⟨drew, born, agrees⟩ := known.own mine (stands.same ▸ owns)
  have creating (row : Host) (present : before.state.hosts.get host.id = some row) :
      row.status = .creatingVm :=
    (agrees row (same.symm ▸ present)).2.trans status
  refine ⟨⟨same ▸ ⟨registry.drew_issued drew, fun _ _ => born⟩, fun {row} present => ?_,
    fun name entry found => (handed name entry found).mono stands.handed⟩, creating, checked⟩
  rw [creating row present, stands.own owns (same.symm ▸ present), secrets]
  exact ⟨rfl, rfl⟩

theorem launches_kept (registry : Registry before) (launches : Launches deployment before)
    (known : actor.Standing task before) (stands : Standing task (actor, launcher) before)
    (allowed : (Provisioner.contract deployment).allows actor op)
    (allowed_too : (Launcher.contract deployment.sha256).allows launcher op) :
    Launches deployment after := by
  refine ⟨fun present => staged_kept answered registry known stands allowed allowed_too
    launches.staged present, fun {owner host environment setupScript} logged => ?_,
    fun {owner host lease} logged => ?_⟩
  · have kept (started : Started deployment host before) : Started deployment host after :=
      started.kept answered registry known stands allowed allowed_too
    rcases answered.mem_log.mp logged with old | new
    · obtain ⟨started, checked⟩ := launches.started old
      exact ⟨kept started, checked⟩
    · obtain ⟨rfl, rfl, -⟩ := Entry.answered.inj new
      obtain ⟨started, -, checked⟩ := started_now registry known stands allowed_too
      exact ⟨kept started, checked⟩
  · refine answered.mem_log.mpr (.inl ?_)
    rcases answered.mem_log.mp logged with old | new
    · exact launches.drew old
    · obtain ⟨rfl, rfl, -⟩ := Entry.answered.inj new
      exact (known.drawn _ allowed.1).1

theorem secrets_kept (quiet : ∀ place columns, op = .hosts (.update place id columns) →
      columns.secrets = none)
    (was : before.state.hosts.get id = some old) (present : after.state.hosts.get id = some row) :
    row.secrets = old.secrets := by
  cases answered.outcome.rowStep present with
  | kept now => rw [Option.some.inj (was.symm.trans now)]
  | claim now | stamp now => rw [Option.some.inj (was.symm.trans now)]; rfl
  | insert same absent =>
      rw [was] at absent
      contradiction
  | update now =>
      rw [Option.some.inj (was.symm.trans now)]
      simp [Host.set, quiet _ _ rfl]

theorem standing_other (registry : Registry before) (known : actor.Standing task before)
    (stands : Standing task (actor, launcher) before)
    (allowed : (Provisioner.contract deployment).allows actor op)
    (launches : (Launcher.contract sha256).allows launcher op) (different : other ≠ task)
    {standing : Provisioner × Launcher} (held : standing.1.Standing other before)
    (also : Standing other standing before) : Standing other standing after := by
  refine ⟨also.same, fun {mine row} owns present => ?_, fun {row} locks => ?_,
    also.handed.trans (handedOver_mono answered)⟩
  · obtain ⟨drew, born, -⟩ := held.own mine (also.same ▸ owns)
    have spent : Spent mine.id before := ⟨registry.drew_issued drew, fun _ _ => born⟩
    obtain ⟨old, was⟩ := row_before answered known allowed spent present
    have foreign {ours : Host} (owned : launcher.own = some ours) : ours.id ≠ mine.id := by
      intro same
      obtain ⟨drew_too, -⟩ := known.own ours (stands.same ▸ owned)
      exact different (registry.drew_unique drew (same ▸ drew_too))
    refine (secrets_kept answered (fun place columns written => ?_) was present).trans
      (also.own owns was)
    subst written
    cases place with
    | progress | failure =>
        obtain ⟨ours, owned, same, -⟩ := launches
        exact absurd same (foreign owned)
    | renewal => exact launches.1.secrets
    | disposal | deviceRelease => exact launches.secrets
  · obtain ⟨locked, present⟩ := also.held locks
    exact ⟨(answered.outcome.change.lockOf different _).mpr locked,
      Teardown.locked_row answered different locked present⟩

theorem standing_self (registry : Registry before) (known : actor.Standing task before)
    (stands : Standing task (actor, launcher) before)
    (allowed : (Provisioner.contract deployment).allows actor op)
    (launches : (Launcher.contract sha256).allows launcher op) :
    Standing task ((Provisioner.contract deployment).next actor op answer,
      (Launcher.contract sha256).next launcher op answer) after := by
  have handed : launcher.handed ⊆ handedOver after :=
    stands.handed.trans (handedOver_mono answered)
  have own (quiet : ∀ place id columns, op = .hosts (.update place id columns) →
      columns.secrets = none) {mine row : Host} (owns : launcher.own = some mine)
      (present : after.state.hosts.get mine.id = some row) : row.secrets = mine.secrets := by
    obtain ⟨drew, born, -⟩ := known.own mine (stands.same ▸ owns)
    have spent : Spent mine.id before := ⟨registry.drew_issued drew, fun _ _ => born⟩
    obtain ⟨old, was⟩ := row_before answered known allowed spent present
    exact (secrets_kept answered (fun place columns => quiet place _ columns) was present).trans
      (stands.own owns was)
  have moved {place : HostCommit} {target : HostId} {columns : HostColumns} {mine row : Host}
      (owned : launcher.own = some mine) (same : mine.id = target)
      (written : op = .hosts (.update place target columns) ∧ HEq answer true)
      (present : after.state.hosts.get (mine.set columns).id = some row) :
      row.secrets = (mine.set columns).secrets := by
    obtain ⟨rfl, rfl⟩ := written
    rw [answered.hosts_get] at present
    simp only [Host.set_id, Op.hostEffect, HostQuery.effect, same, if_true] at present
    obtain ⟨old, was, rfl⟩ := Option.map_eq_some_iff.mp present
    simp [Host.set, stands.own owned (same ▸ was)]
  have moves {place : HostCommit} {target : HostId} {columns : HostColumns}
      (owned : ∃ mine, launcher.own = some mine ∧ mine.id = target)
      (written : op = .hosts (.update place target columns) ∧ HEq answer true) :
      Standing task ({ actor with own := actor.own.map (·.set columns) },
        { launcher with own := launcher.own.map (·.set columns), held := none }) after := by
    obtain ⟨mine, owned, same⟩ := owned
    refine ⟨congrArg (Option.map _) stands.same, fun {row now} owns present => ?_, by simp, handed⟩
    obtain rfl : mine.set columns = row := by simpa [owned] using owns
    exact moved owned same written present
  cases op with
  | clock =>
      refine ⟨stands.same, own (by simp), fun held => ?_, handed⟩
      rw [answered.outcome.2]
      exact stands.held held
  | uuid7 | advisoryLock | rollback | keys | templates =>
      exact ⟨stands.same, own (by simp), by simp [Launcher.contract], handed⟩
  | vm call =>
      cases call <;> exact ⟨stands.same, own (by simp), by simp [Launcher.contract], handed⟩
  | outside call =>
      cases call with
      | putSecret sandbox service placeholder value =>
          cases answer with
          | error failure => exact ⟨stands.same, own (by simp), by simp [Launcher.contract], handed⟩
          | ok added =>
              refine ⟨stands.same, own (by simp), by simp [Launcher.contract], ?_⟩
              refine Set.insert_subset ⟨task, value, added, ?_⟩ handed
              exact answered.mem_log.mpr (.inr rfl)
      | issueJoinCredentials | mintSecret | shuffle | fetchSecret | waitForDevice | scanKnownHosts
      | releaseDevice | deleteSecrets | refreshBaseImage | buildTemplateImage
      | deleteTemplateImage =>
          exact ⟨stands.same, own (by simp), by simp [Launcher.contract], handed⟩
  | hosts query =>
  cases query with
  | get | expired | warm | excess | count | candidate | stamp | delete =>
      exact ⟨stands.same, own (by simp), by simp [Launcher.contract, Launcher.nextHosts], handed⟩
  | claim =>
      cases answer <;>
        exact ⟨stands.same, own (by simp), by simp [Launcher.contract, Launcher.nextHosts], handed⟩
  | lock target =>
      refine ⟨stands.same, own (by simp), fun {row} held => ?_, handed⟩
      obtain rfl : answer = some row := held
      obtain ⟨-, present, same⟩ := answered.outcome
      rw [same, registry.host_id present]
      exact ⟨Function.update_self _ _ _, present⟩
  | insert newborn lease =>
      cases answer with
      | error failure =>
          exact ⟨stands.same, own (by simp), by
            simp [Launcher.contract, Launcher.nextHosts], handed⟩
      | ok =>
          refine ⟨rfl, fun {mine row} owns present => ?_,
            by simp [Launcher.contract, Launcher.nextHosts], handed⟩
          obtain rfl : newborn = mine := Option.some.inj owns
          rw [answered.hosts_get] at present
          obtain rfl : newborn = row := by simpa [Op.hostEffect, HostQuery.effect] using present
          rfl
  | update place target columns =>
      cases place with
      | progress | failure =>
          cases answer with
          | true =>
              obtain ⟨mine, owned, same, -⟩ := launches
              exact moves ⟨mine, owned, same⟩ ⟨rfl, .rfl⟩
          | false =>
              refine ⟨stands.same, fun {mine row} owns present => ?_,
                by simp [Launcher.contract, Launcher.nextHosts], handed⟩
              exact stands.own owns (answered.outcome.2 ▸ present)
      | renewal =>
          refine ⟨stands.same, own ?_, by simp [Launcher.contract, Launcher.nextHosts], handed⟩
          rintro _ _ _ ⟨⟩
          exact launches.1.secrets
      | disposal | deviceRelease =>
          refine ⟨stands.same, own ?_, by simp [Launcher.contract, Launcher.nextHosts], handed⟩
          rintro _ _ _ ⟨⟩
          exact launches.secrets

end Answered

omit [DecidableEq ι] in
theorem handedOver_unanswered (same : Deployment.Unanswered before after) :
    handedOver after = handedOver before :=
  Set.ext fun _ => by simp only [handedOver, Set.mem_ofPred_eq, same.log]

omit [DecidableEq ι] in
theorem Launches.unanswered (same : Deployment.Unanswered before after)
    (launches : Launches deployment before) : Launches deployment after := by
  refine ⟨fun present => (launches.staged (same.hosts ▸ present)).mono same.now,
    fun {owner host environment setupScript} logged => ?_,
    fun logged => same.log.mpr (launches.drew (same.log.mp logged))⟩
  obtain ⟨started, checked⟩ := launches.started (same.log.mp logged)
  exact ⟨⟨same.spent.mpr started.spent, fun present => started.row (same.hosts ▸ present),
    (handedOver_unanswered same).symm ▸ started.handed⟩, checked⟩

omit [DecidableEq ι] in
theorem Standing.unanswered (same : Deployment.Unanswered before after)
    (lock : ∀ id, before.state.hostLock id = some other → after.state.hostLock id = some other)
    {phases : Provisioner × Launcher} (stands : Standing other phases before) :
    Standing other phases after where
  same := stands.same
  own owns present := stands.own owns (same.hosts ▸ present)
  held held := ⟨lock _ (stands.held held).1, same.hosts ▸ (stands.held held).2⟩
  handed := (handedOver_unanswered same).symm ▸ stands.handed

theorem expected (answered : deployment.Answered task op answer before after)
    (registry : Registry before) : (Launcher.contract sha256).expects launcher op answer := by
  cases op with
  | hosts query =>
      cases query with
      | get id =>
          cases answer with
          | none => trivial
          | some row => exact registry.host_id answered.outcome.1.symm
      | lock id =>
          cases answer with
          | none => trivial
          | some row => exact registry.host_id answered.outcome.2.1
      | expired | warm | excess | count | candidate | claim | insert | update | stamp | delete =>
          trivial
  | clock | uuid7 | advisoryLock | rollback | keys | templates | outside | vm => trivial

/-- Every run keeps the launches in their order, whatever happens to the tasks. -/
theorem upheld (deployment : Deployment) :
    Upheld (deployment.system : System ι _ _ _ _) {}
      ((Provisioner.contract deployment).prod (Launcher.contract deployment.sha256))
      (fun world => Registry world ∧ Launches deployment world)
      fun task phases world => phases.1.Standing task world ∧ Standing task phases world := by
  refine (Provisioner.upheld deployment).extend (Launcher.contract deployment.sha256)
    (Launches deployment) Standing ?_ ?_ ?_ ?_
  · rintro task ⟨actor, launcher⟩ op choice answer before after allowed ⟨registry, launches⟩
      ⟨known, stands⟩ - answered -
    have answered := Deployment.answered answered
    exact ⟨expected answered registry,
      launches_kept answered registry launches known stands allowed.1 allowed.2,
      standing_self answered registry known stands allowed.1 allowed.2⟩
  · rintro task ⟨actor, launcher⟩ op choice answer before after other standing allowed
      ⟨registry, -⟩ ⟨known, stands⟩ answered different ⟨held, also⟩
    exact standing_other (Deployment.answered answered) registry known stands allowed.1 allowed.2
      different held also
  · intro task before launches
    have same : Deployment.Unanswered before (deployment.system.abandoned task before) :=
      .abandoned task before
    exact ⟨launches.unanswered same, fun different stands =>
      stands.unanswered same fun id held => (State.drop_eq_some task).mpr ⟨held, different⟩⟩
  · intro move before state launches moved
    have same : Deployment.Unanswered before { before with state } := .nature moved
    refine ⟨launches.unanswered same, fun stands => stands.unanswered same fun id held => ?_⟩
    obtain ⟨now, vms, -, rfl⟩ := Deployment.nature_frame moved
    exact held

/-- What holds of every configuration of a run. -/
abbrev Runs (deployment : Deployment) (config : Config ι Op.Answer (State ι) Failure Reply) :
    Prop :=
  Upholds ((Provisioner.contract deployment).prod (Launcher.contract deployment.sha256))
    (fun world => Registry world ∧ Launches deployment world)
    (fun task phases world => phases.1.Standing task world ∧ Standing task phases world)
    (fun _ _ _ => True) config

variable {state : State ι} {calls : ι → Option HostCall}
  {middle last : Config ι Op.Answer (State ι) Failure Reply}

omit [DecidableEq ι] in
theorem runs_start (rest : state.AtRest)
    (staged : ∀ {id row}, state.hosts.get id = some row → Staged row state.now) :
    Runs deployment (deployment.start state calls) := by
  refine ⟨⟨rest.registry, fun present => staged present, by simp [Deployment.start],
    by simp [Deployment.start]⟩,
    fun {task program} started => ?_⟩
  obtain ⟨call, called, rfl⟩ := Option.map_eq_some_iff.mp started
  refine ⟨({}, {}), ⟨.initial _ _, rfl, by simp, by simp, Set.empty_subset _⟩, ?_⟩
  exact ((call.follows deployment).prod (Launcher.program_follows call rfl)).weaken
    fun _ _ _ => trivial

/-- The event keeps the status of the row, or it is the launch of the host that moves it on. -/
def Advance (event : Event ι Choice (Nature ι)) (world : Deployment.World ι) (id : HostId)
    (old row : Host) : Prop :=
  row.status = old.status ∨
    HostStatus.Next old.status row.status ∧
      ∃ task choice, event = .perform task choice ∧ MadeBy task id world

theorem row_of_step (runs : Runs deployment middle) {event : Event ι Choice (Nature ι)}
    (step : deployment.system.Step {} event middle last) :
    (Spent id middle.world → Spent id last.world) ∧
      ∀ row, last.world.state.hosts.get id = some row →
        (∃ old, middle.world.state.hosts.get id = some old ∧ Later old row ∧
          Advance event middle.world id old row) ∨
          row.status = .provisioning ∧ ¬ Spent id middle.world := by
  obtain ⟨-, stepped⟩ := step
  have unanswered {world : Deployment.World ι} (same : Deployment.Unanswered middle.world world) :
      (Spent id middle.world → Spent id world) ∧ ∀ row, world.state.hosts.get id = some row →
        (∃ old, middle.world.state.hosts.get id = some old ∧ Later old row ∧
          Advance event middle.world id old row) ∨
          row.status = .provisioning ∧ ¬ Spent id middle.world :=
    ⟨same.spent.mpr, fun row present => .inl ⟨row, same.hosts ▸ present, .refl row, .inl rfl⟩⟩
  rcases System.next_cases stepped with
    ⟨task, choice, op, resume, answer, later, rfl, program, answered, rfl⟩ |
    ⟨task, op, resume, rfl, program, rfl⟩ | ⟨move, state, rfl, moved, rfl⟩
  · obtain ⟨⟨actor, launcher⟩, ⟨known, stands⟩, ⟨allowed, launches⟩, -⟩ := runs.follows program
    have answered := Deployment.answered answered
    refine ⟨answered.spent, fun row present => ?_⟩
    rcases (answered.outcome.rowStep present).origin with ⟨old, was, -⟩ | ⟨lease, rfl, -, same, -⟩
    · have launch := launchStep answered known stands allowed launches runs.inv.1 was present
      refine .inl ⟨old, was, launch.later, ?_⟩
      by_cases still : row.status = old.status
      · exact .inl still
      · exact .inr ⟨launch.moved.resolve_left still, task, choice, rfl,
          mover answered known stands launches runs.inv.2 runs.inv.1 was present still⟩
    · obtain ⟨drew, unborn⟩ := known.drawn _ allowed.1
      exact .inr ⟨launches.1, fun spent => unborn (same ▸ spent.2 task (same ▸ drew))⟩
  · exact unanswered (.abandoned task middle.world)
  · exact unanswered (.nature moved)

/-- A row that is there later is a later version of the row that was there. -/
theorem later_of_reaches (runs : Runs deployment middle)
    (reach : deployment.system.Reaches {} middle last)
    (was : middle.world.state.hosts.get id = some old) :
    Spent id last.world ∧
      ∀ row, last.world.state.hosts.get id = some row → Later old row := by
  induction reach with
  | refl =>
      refine ⟨runs.inv.1.spent was, fun row present => ?_⟩
      obtain rfl := Option.some.inj (was.symm.trans present)
      exact .refl _
  | tail reached step ih =>
      obtain ⟨event, step⟩ := step
      obtain ⟨spent, later⟩ := ih
      obtain ⟨still, rows⟩ := row_of_step (runs.reaches (upheld deployment) reached) step
      refine ⟨still spent, fun row present => ?_⟩
      rcases rows row present with ⟨found, before, next, -⟩ | ⟨-, fresh⟩
      · exact (later found before).trans next
      · exact absurd spent fresh

/-- A row that was not there before begins in `PROVISIONING`. -/
theorem born_of_reaches (runs : Runs deployment middle)
    (reach : deployment.system.Reaches {} middle last)
    (absent : middle.world.state.hosts.get id = none)
    (present : last.world.state.hosts.get id = some row) :
    ∃ birth newborn, deployment.system.Reaches {} middle birth ∧
      deployment.system.Reaches {} birth last ∧ birth.world.state.hosts.get id = some newborn ∧
      newborn.status = .provisioning ∧ Later newborn row := by
  induction reach generalizing row with
  | refl =>
      rw [absent] at present
      contradiction
  | tail reached step ih =>
      obtain ⟨event, moves⟩ := step
      obtain ⟨-, rows⟩ := row_of_step (runs.reaches (upheld deployment) reached) moves
      rcases rows row present with ⟨found, before, next, -⟩ | ⟨born, -⟩
      · obtain ⟨birth, newborn, first, rest, begins, early, later⟩ := ih before
        exact ⟨birth, newborn, first, rest.tail ⟨event, moves⟩, begins, early, later.trans next⟩
      · exact ⟨_, row, reached.tail ⟨event, moves⟩, .refl, present, born, .refl row⟩

end Lifecycle

open Lifecycle

/-- Every host row goes through its launch in order, in every run.  A row that a step adds begins in
`PROVISIONING`; a step that moves the status of a row moves it to the next status of a launch, or
from a begun one to `ERROR`, and is a step of the task that inserted the row.  So an active or a
failed host keeps its status until the row is gone.  At any time a failed row has its error and an
expired lease, an active one its time of activation, and from `CREATING_VM` on every entry has its
fingerprint. -/
theorem launches_in_order (deployment : Deployment) (state : State ι) (rest : state.AtRest)
    (staged : ∀ {id row}, state.hosts.get id = some row → Staged row state.now)
    (calls : ι → Option HostCall) (middle : Config ι Op.Answer (State ι) Failure Reply)
    (first : deployment.system.Reaches {} (deployment.start state calls) middle) (id : HostId) :
    (∀ event next, deployment.system.Step {} event middle next →
      ∀ row, next.world.state.hosts.get id = some row →
        match middle.world.state.hosts.get id with
        | none => row.status = .provisioning
        | some old => Advance event middle.world id old row) ∧
    ∀ last row, deployment.system.Reaches {} middle last →
      last.world.state.hosts.get id = some row →
        Staged row last.world.state.now ∧
          match middle.world.state.hosts.get id with
          | some old => Later old row
          | none => ∃ birth newborn, deployment.system.Reaches {} middle birth ∧
              deployment.system.Reaches {} birth last ∧
              birth.world.state.hosts.get id = some newborn ∧ newborn.status = .provisioning ∧
              Later newborn row := by
  have runs : Runs deployment middle := (runs_start rest staged).reaches (upheld deployment) first
  refine ⟨fun event next step row present => ?_, fun last row reach present =>
    ⟨(runs.reaches (upheld deployment) reach).inv.2.staged present, ?_⟩⟩
  · rcases (row_of_step runs step).2 row present with ⟨old, was, -, advance⟩ | ⟨born, fresh⟩
    · simpa only [was] using advance
    · cases was : middle.world.state.hosts.get id with
      | none => exact born
      | some old => exact absurd (runs.inv.1.spent was) fresh
  · cases was : middle.world.state.hosts.get id with
    | some old => exact (later_of_reaches runs reach was).2 row present
    | none => exact born_of_reaches runs reach was present

/-- A create with a secret. -/
def githubCalls (_ : Bool) : Option HostCall :=
  some (.create { secrets := [("github", { value := some "token" })] } false)

def githubBoot : Config Bool Op.Answer (State Bool) Failure Reply :=
  Deployment.sample.start (.resting 0 .empty .empty .empty) githubCalls

/-- The create comes to the start of its sandbox. -/
def startSchedule : List (Event Bool Choice (Nature Bool)) :=
  [.perform false (.number 1)] ++ .replicate 5 (.perform false .go) ++
    [.perform false (.environment []), .perform false (.text "word"),
      .perform false (.environment [("GH_TOKEN", "placeholder")])] ++
    .replicate 3 (.perform false .go)

/-- The network of the host has its credentials. -/
def joinedSchedule : List (Event Bool Choice (Nature Bool)) := startSchedule.take 10

theorem launches_in_order_create :
    ∃ joined started old row, Deployment.sample.system.Reaches {} githubBoot joined ∧
      Deployment.sample.system.Step {} (.perform false .go) joined started ∧
      joined.world.state.hosts.get 1 = some old ∧ old.status = .creatingNetwork ∧
      started.world.state.hosts.get 1 = some row ∧ row.status = .creatingVm ∧
      Advance (.perform false .go) joined.world 1 old row ∧
      Staged row started.world.state.now ∧
      ∃ birth newborn, Deployment.sample.system.Reaches {} githubBoot birth ∧
        Deployment.sample.system.Reaches {} birth started ∧
        birth.world.state.hosts.get 1 = some newborn ∧ newborn.status = .provisioning ∧
        Later newborn row := by
  have executed : (Deployment.sample.system.run githubBoot joinedSchedule).isSome := rfl
  have reach := System.reaches_run joinedSchedule executed
  have moved : (Deployment.sample.system.next
      ((Deployment.sample.system.run githubBoot joinedSchedule).get executed)
      (.perform false .go)).isSome := rfl
  have step : Deployment.sample.system.Step {} (.perform false .go) _ _ :=
    ⟨fun _ _ _ => trivial, (Option.some_get moved).symm⟩
  have rest : (State.resting 0 .empty .empty .empty : State Bool).AtRest :=
    State.resting_atRest (by simp) (by simp)
  have advances := (launches_in_order Deployment.sample _ rest (by simp [State.resting])
    githubCalls _ reach 1).1 _ _ step _ rfl
  have begins := (launches_in_order Deployment.sample _ rest (by simp [State.resting])
    githubCalls _ .refl 1).2 _ _ (reach.tail ⟨_, step⟩) rfl
  exact ⟨_, _, _, _, reach, step, rfl, rfl, rfl, rfl, advances, begins⟩

/-- A sandbox is started with an environment that its host can keep, by the launch of a host in
`CREATING_VM`, and every entry of the host has a placeholder that the provider took for that
sandbox. From then on the row keeps the entries, so the exchange allows each placeholder for the
upstreams of its service for as long as the row is there. -/
theorem sandbox_placeholders_known (deployment : Deployment) (state : State ι) (rest : state.AtRest)
    (staged : ∀ {id row}, state.hosts.get id = some row → Staged row state.now)
    (calls : ι → Option HostCall) (config : Config ι Op.Answer (State ι) Failure Reply)
    (reach : deployment.system.Reaches {} (deployment.start state calls) config) (task : ι)
    (host : Host) (environment : Dict String) (setupScript : Option String) :
    (∀ resume, config.tasks task = some (.call (.vm (.start host environment setupScript)) resume) →
      (∃ lines, Environment.getPersist environment = .ok lines) ∧
        ∀ row, config.world.state.hosts.get host.id = some row →
          row.status = .creatingVm ∧ row.secrets = host.secrets) ∧
    (Entry.answered task (.vm (.start host environment setupScript)) () ∈ config.world.log →
      ∀ name entry, host.secrets.lookup name = some entry →
        ∃ service placeholder, (host.name, service, placeholder) ∈ handedOver config.world ∧
          Catalog.service name entry = some service ∧
          ∀ (store : SecretsExchange.Store) (request : SecretsExchange.Request),
            store.sha256 = deployment.sha256 →
            store.hosts host.id = config.world.state.hosts.get host.id →
            (config.world.state.hosts.get host.id).isSome →
            Placeholder.read request.authorization = some placeholder →
            ∀ upstream ∈ service.upstreams, upstream.host = request.forwardedHost →
              store.Allows request placeholder entry upstream) := by
  have runs : Runs deployment config := (runs_start rest staged).reaches (upheld deployment) reach
  refine ⟨fun resume waits => ?_, fun logged name entry found => ?_⟩
  · obtain ⟨⟨actor, launcher⟩, ⟨known, stands⟩, ⟨-, launches⟩, -⟩ := runs.follows waits
    obtain ⟨started, creating, checked⟩ := started_now runs.inv.1 known stands launches
    exact ⟨checked, fun row present => ⟨creating row present, (started.row present).2⟩⟩
  · obtain ⟨started, -⟩ := runs.inv.2.started logged
    obtain ⟨service, placeholder, given, resolved, same, named, fingerprint⟩ :=
      started.handed name entry found
    refine ⟨service, placeholder, given, resolved, ?_⟩
    intro store request hash shows present read upstream member forwarded
    obtain ⟨row, present⟩ := Option.isSome_iff_exists.mp present
    exact
      { read
        present := ⟨row, by rw [same, shows, present], by
          rw [named, (started.row present).2, found]⟩
        fingerprint := hash ▸ fingerprint
        member := ⟨service, by rw [named, resolved], member⟩
        forwarded }

theorem sandbox_placeholders_known_github :
    ∃ config row entry, Deployment.sample.system.Reaches {} githubBoot config ∧
      config.world.state.hosts.get 1 = some row ∧ row.secrets.lookup "github" = some entry ∧
      ∃ service placeholder, Catalog.service "github" entry = some service ∧
        ∀ (store : SecretsExchange.Store) (request : SecretsExchange.Request),
          store.sha256 = Deployment.sample.sha256 → store.hosts 1 = some row →
            Placeholder.read request.authorization = some placeholder →
            ∀ upstream ∈ service.upstreams, upstream.host = request.forwardedHost →
              store.Allows request placeholder entry upstream := by
  have executed : (Deployment.sample.system.run githubBoot startSchedule).isSome := rfl
  have reach := System.reaches_run startSchedule executed
  have rest : (State.resting 0 .empty .empty .empty : State Bool).AtRest :=
    State.resting_atRest (by simp) (by simp)
  obtain ⟨service, placeholder, -, resolved, allows⟩ :=
    (sandbox_placeholders_known Deployment.sample _ rest (by simp [State.resting]) githubCalls _
      reach false _ _ _).2 (List.mem_append_right _ (List.mem_singleton_self _)) "github" _ rfl
  exact ⟨_, _, _, reach, rfl, rfl, service, placeholder, resolved,
    fun store request hash shows read => allows store request hash shows rfl read⟩

end Drukbox
