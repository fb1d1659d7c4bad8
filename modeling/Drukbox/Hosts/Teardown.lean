import Drukbox.Hosts.Deleter

/-!
# Guarded deletes

The janitor and the pool shed check their guard on a locked row.  Without a device the lock lasts
until the row is gone.  With one, the commit of the released device ends it, and until `delete_vm`
the guard holds as long as nobody revives the host.
-/

namespace Drukbox

open Await Registry HostService

variable {ι : Type} [DecidableEq ι]

/-- The maintenance guards on a committed row. -/
def HostService.DeleteFlags.Meets (flags : DeleteFlags) (now : ℤ) (row : Host) : Prop :=
  (flags.poolShed → row.claimedAt = none) ∧ (flags.expiredOnly → row.leaseOver now)

instance (flags : DeleteFlags) (now : ℤ) (row : Host) : Decidable (flags.Meets now row) :=
  inferInstanceAs (Decidable (_ ∧ _))

namespace Teardown

/-- One entry of the history, for the host whose device a task has released. -/
def releaseStep (task : ι) (released : Option HostId) : Entry ι Op.Answer → Option HostId
  | .answered owner (.hosts (.update .deviceRelease id _)) true =>
      if owner = task then some id else released
  | .answered owner (.vm (.delete _)) _ => if owner = task then none else released
  | .answered owner .rollback _ => if owner = task then none else released
  | .abandoned owner => if owner = task then none else released
  | _ => released

/-- The host whose device a task has released, between that commit and `delete_vm`. -/
def deviceReleased (task : ι) (log : List (Entry ι Op.Answer)) : Option HostId :=
  log.foldl (releaseStep task) none

/-- The step is a renewal, a claim, a lease stamp or a return to the pool, and it takes the row out
of reach of the guards. -/
def Revives (flags : DeleteFlags) (now : ℤ) (row : Host) : Op → Prop
  | .hosts (.claim id serviceAccount instant expiresAt) =>
      id = row.id ∧ row.claimedAt = none ∧
        ¬ flags.Meets now (row.set (Host.claimColumns serviceAccount instant expiresAt))
  | .hosts (.update .renewal id columns) => id = row.id ∧ ¬ flags.Meets now (row.set columns)
  | .hosts (.update .disposal id columns) => id = row.id ∧ ¬ flags.Meets now (row.set columns)
  | .hosts (.stamp id initial expiresAt updatedAt) =>
      id = row.id ∧ row.expiresAt = some initial ∧
        ¬ flags.Meets now (row.set { expiresAt := some expiresAt, updatedAt })
  | _ => False

/-- Nobody revives a host between the commit of its released device and `delete_vm`. -/
def undisturbed (flags : ι → DeleteFlags) : Condition ι Op.Answer (State ι) (Nature ι) where
  perform _ op world := ∀ other row,
    deviceReleased other world.log = some row.id →
      world.state.hosts.get row.id = some row → ¬ Revives (flags other) world.state.now row op

/-- What a delete knows of its host. -/
def Holds (task : ι) (flags : DeleteFlags) (world : Deployment.World ι) : Target → Prop
  | .none | .vacated _ => True
  | .locked host =>
      world.state.hostLock host.id = some task ∧ world.state.hosts.get host.id = some host
  | .released host =>
      Spent host.id world ∧ deviceReleased task world.log = some host.id ∧
        ∀ row, world.state.hosts.get host.id = some row → flags.Meets world.state.now row

/-- What a task that deletes or renews knows is so. -/
structure Standing (guards : ι → DeleteFlags) (task : ι) (phase : Deleter)
    (world : Deployment.World ι) : Prop where
  flags : phase.flags = guards task
  readings : ∀ now ∈ phase.readings, now ≤ world.state.now
  holds : Holds task (guards task) world phase.target

variable {deployment : Deployment} {guards : ι → DeleteFlags} {task other : ι} {op : Op}
  {answer : op.Answer} {before after : Deployment.World ι} {actor : Provisioner}
  {phase standing : Deleter} {target : Target}

theorem deviceReleased_append (entry : Entry ι Op.Answer) (log : List (Entry ι Op.Answer)) :
    deviceReleased task (log ++ [entry]) = releaseStep task (deviceReleased task log) entry := by
  simp [deviceReleased, List.foldl_append]

/-- The entries of others say nothing about a task's device. -/
theorem releaseStep_other (different : other ≠ task) (released : Option HostId) :
    releaseStep other released (Entry.answered task op answer : Entry ι Op.Answer) = released := by
  simp only [releaseStep]
  split <;> simp_all [eq_comm]

/-- A row that another session holds is as it was. -/
theorem locked_row (answered : deployment.Answered task op answer before after)
    (different : other ≠ task) {id : HostId} {row : Host}
    (locked : before.state.hostLock id = some other)
    (present : before.state.hosts.get id = some row) :
    after.state.hosts.get id = some row := by
  have held : ¬ State.Free task (before.state.hostLock id) := by
    simp [State.Free, locked, different]
  rw [answered.hosts_get]
  cases op with
  | clock | uuid7 | advisoryLock | rollback | keys | templates | outside | vm => exact present
  | hosts query =>
  cases query with
  | get | lock | expired | warm | excess | count | candidate => exact present
  | claim target serviceAccount instant expiresAt =>
      cases answer with
      | none => exact present
      | some claimed =>
      simp only [Op.hostEffect, HostQuery.effect]
      split
      · next same => exact absurd (same ▸ answered.outcome.1) held
      · exact present
  | insert host lease =>
      cases answer with
      | error failure => exact present
      | ok =>
      simp only [Op.hostEffect, HostQuery.effect]
      split
      · next same =>
          have absent := answered.outcome.2.2.1
          rw [← same, present] at absent
          contradiction
      · exact present
  | update place target columns =>
      cases answer with
      | false => exact present
      | true =>
      simp only [Op.hostEffect, HostQuery.effect]
      split
      · next same => exact absurd (same ▸ answered.outcome.1) held
      · exact present
  | stamp target initial expiresAt updatedAt =>
      simp only [Op.hostEffect, HostQuery.effect]
      split
      · next same =>
          subst same
          rcases answered.outcome with ⟨unlocked, -⟩ | ⟨moved, -⟩
          · simp [locked] at unlocked
          · simp [present, moved row present]
      · exact present
  | delete target =>
      simp only [Op.hostEffect, HostQuery.effect]
      split
      · next same => exact absurd (same ▸ answered.outcome.1) held
      · exact present

/-- Nobody but a reviver takes a row out of reach of the guards. -/
theorem meets (answered : deployment.Answered task op answer before after)
    (known : actor.Standing task before)
    (allowed : (Provisioner.contract deployment).allows actor op) (registry : Registry before)
    {flags : DeleteFlags} {id : HostId} (spent : Spent id before)
    (spared : ∀ row, before.state.hosts.get id = some row → row.id = id →
      ¬ Revives flags before.state.now row op)
    (meets : ∀ row, before.state.hosts.get id = some row → flags.Meets before.state.now row)
    {now : Host} (present : after.state.hosts.get id = some now) :
    flags.Meets after.state.now now := by
  rw [answered.now]
  rw [answered.hosts_get] at present
  cases op with
  | clock | uuid7 | advisoryLock | rollback | keys | templates | outside | vm =>
      exact meets now present
  | hosts query =>
  cases query with
  | get | lock | expired | warm | excess | count | candidate => exact meets now present
  | claim target serviceAccount instant expiresAt =>
      cases answer with
      | none => exact meets now present
      | some claimed =>
      simp only [Op.hostEffect, HostQuery.effect] at present
      split at present
      · next same =>
          subst same
          obtain ⟨-, row, was, unclaimed, rfl, -⟩ := answered.outcome
          obtain rfl := Option.some.inj present
          by_contra revived
          have row_id := registry.host_id was
          exact spared row was row_id ⟨row_id.symm, unclaimed, revived⟩
      · exact meets now present
  | insert host lease =>
      cases answer with
      | error failure => exact meets now present
      | ok =>
      simp only [Op.hostEffect, HostQuery.effect] at present
      split at present
      · next same =>
          obtain ⟨drew, unborn⟩ := known.drawn _ allowed.1
          exact absurd (spent.2 task (same ▸ drew)) (same ▸ unborn)
      · exact meets now present
  | update place target columns =>
      cases answer with
      | false => exact meets now present
      | true =>
      simp only [Op.hostEffect, HostQuery.effect] at present
      split at present
      · next same =>
          subst same
          obtain ⟨row, was, rfl⟩ := Option.map_eq_some_iff.mp present
          obtain ⟨unclaimed, lapsed⟩ := meets row was
          have row_id := registry.host_id was
          cases place with
          | progress =>
              obtain ⟨-, -, lease, claimed, -⟩ := allowed
              exact ⟨by simpa [claimed] using unclaimed,
                by simpa [Host.leaseOver, lease] using lapsed⟩
          | deviceRelease =>
              obtain ⟨-, claimed, -, lease⟩ := allowed
              exact ⟨by simpa [claimed] using unclaimed,
                by simpa [Host.leaseOver, lease] using lapsed⟩
          | failure =>
              obtain ⟨-, -, -, claimed, -, instant, read, lease⟩ := allowed
              exact ⟨by simpa [claimed] using unclaimed,
                fun _ => by simpa [Host.leaseOver, lease] using known.readings instant read⟩
          | renewal =>
              by_contra revived
              exact spared row was row_id ⟨row_id.symm, revived⟩
          | disposal =>
              by_contra revived
              exact spared row was row_id ⟨row_id.symm, revived⟩
      · exact meets now present
  | stamp target initial expiresAt updatedAt =>
      simp only [Op.hostEffect, HostQuery.effect] at present
      split at present
      · next same =>
          subst same
          obtain ⟨row, was, rfl⟩ := Option.map_eq_some_iff.mp present
          have row_id := registry.host_id was
          split
          · next lease =>
              by_contra revived
              exact spared row was row_id ⟨row_id.symm, lease, revived⟩
          · exact meets row was
      · exact meets now present
  | delete target =>
      simp only [Op.hostEffect, HostQuery.effect] at present
      split at present
      · contradiction
      · exact meets now present

theorem holds_other (answered : deployment.Answered task op answer before after)
    (known : actor.Standing task before)
    (allowed : (Provisioner.contract deployment).allows actor op) (registry : Registry before)
    (spared : (undisturbed guards).perform task op before) (different : other ≠ task)
    (holds : Holds other (guards other) before target) :
    Holds other (guards other) after target := by
  cases target with
  | none => trivial
  | vacated host => trivial
  | locked host =>
      obtain ⟨locked, present⟩ := holds
      exact ⟨(answered.outcome.change.lockOf different _).mpr locked,
        locked_row answered different locked present⟩
  | released host =>
      obtain ⟨spent, released, meets_guards⟩ := holds
      refine ⟨answered.spent spent, ?_, fun row present => ?_⟩
      · rw [answered.log, deviceReleased_append, releaseStep_other different, released]
      · refine meets answered known allowed registry spent ?_ meets_guards present
        rintro old was same
        rw [← same] at was released
        exact spared other old released was

theorem holds_self (answered : deployment.Answered task op answer before after)
    (registry : Registry before) (stands : Standing guards task phase before)
    (allowed : (Provisioner.contract deployment).allows actor op)
    (deletes : Deleter.contract.allows phase op) :
    Holds task (guards task) after (Deleter.contract.next phase op answer).target := by
  have kept (hosts : after.state.hosts = before.state.hosts)
      (locks : after.state.hostLock = before.state.hostLock)
      (released : ∀ was, releaseStep task was (Entry.answered task op answer) = was) :
      Holds task (guards task) after phase.target := by
    have holds := stands.holds
    cases target : phase.target with
    | none => trivial
    | vacated host => trivial
    | locked host =>
        rw [target] at holds
        exact ⟨locks ▸ holds.1, hosts ▸ holds.2⟩
    | released host =>
        rw [target] at holds
        obtain ⟨spent, window, meets⟩ := holds
        refine ⟨answered.spent spent, ?_, fun row present => ?_⟩
        · rw [answered.log, deviceReleased_append, released, window]
        · rw [answered.now]
          exact meets row (hosts ▸ present)
  have read (same : after.state = before.state)
      (released : ∀ was, releaseStep task was (Entry.answered task op answer) = was) :
      Holds task (guards task) after phase.target :=
    kept (by rw [same]) (by rw [same]) released
  cases op with
  | clock => exact read answered.outcome.2 fun _ => rfl
  | uuid7 =>
      have same := answered.outcome.2
      exact kept (by rw [same]) (by rw [same]) fun _ => rfl
  | advisoryLock key =>
      have same := answered.outcome.2
      exact kept (by rw [same]) (by rw [same]) fun _ => rfl
  | rollback => trivial
  | outside call => exact read answered.outcome fun _ => rfl
  | keys query =>
      obtain ⟨keys, same⟩ := KeyQuery.Outcome.frame answered.outcome
      exact kept (by rw [same]) (by rw [same]) fun _ => rfl
  | templates query =>
      cases query with
      | get id => exact read answered.outcome.2 fun _ => rfl
      | touch lease =>
          obtain ⟨templateLock, same⟩ := TemplateQuery.Outcome.touch_frame answered.outcome
          exact kept (by rw [same]) (by rw [same]) fun _ => rfl
      | lock | lockKey | reapable | isReapable | insert | restart | finish | abandon | delete =>
          cases deletes
  | vm call =>
      cases call with
      | start host environment setupScript =>
          have same := answered.outcome
          exact kept (by rw [same]) (by rw [same]) fun _ => rfl
      | finish =>
          have same := answered.outcome
          exact kept (by rw [same]) (by rw [same]) fun _ => rfl
      | delete host =>
          simp only [Deleter.contract]
          split
          · trivial
          · split <;> trivial
  | hosts query =>
  cases query with
  | get => exact read answered.outcome.2 fun _ => rfl
  | count => exact read answered.outcome.2 fun _ => rfl
  | expired => exact read answered.outcome.2 fun _ => rfl
  | candidate =>
      cases answer with
      | none => exact read answered.outcome fun _ => rfl
      | some row => exact read answered.outcome.2.2 fun _ => rfl
  | lock id =>
      cases answer with
      | none => trivial
      | some host =>
          obtain ⟨-, present, same⟩ := answered.outcome
          have host_id := registry.host_id present
          refine ⟨?_, ?_⟩
          · rw [same]
            simp [host_id]
          · rw [same]
            exact host_id ▸ present
  | warm | excess | claim | insert | stamp | delete => trivial
  | update place id columns =>
      cases place with
      | progress | failure | renewal | disposal => trivial
      | deviceRelease =>
          obtain ⟨host, locked, host_id, passes⟩ := deletes
          cases answer with
          | false => simp [Deleter.contract, Holds]
          | true =>
              have holds := stands.holds
              rw [locked] at holds
              simp only [Deleter.contract, locked]
              refine ⟨answered.spent (registry.spent holds.2), ?_, fun row present => ?_⟩
              · rw [answered.log, deviceReleased_append]
                simp [releaseStep, host_id]
              · obtain ⟨-, claimed, -, lease⟩ := allowed
                rw [answered.hosts_get, holds.2] at present
                obtain rfl : host.set columns = row := by
                  simpa [Op.hostEffect, HostQuery.effect, host_id] using present
                obtain ⟨-, unclaimed, lapsed⟩ := passes
                rw [stands.flags] at unclaimed lapsed
                refine ⟨by simpa [claimed] using unclaimed, fun guarded => ?_⟩
                obtain ⟨instant, read, ended⟩ := lapsed guarded
                rw [answered.now]
                have still := Host.leaseOver_mono ended (stands.readings instant read)
                simpa [Host.leaseOver, lease] using still

theorem next_readings (bound : ℤ) (read : ∀ now ∈ phase.readings, now ≤ bound)
    (current : ∀ now : ℤ, op = .clock → HEq answer now → now ≤ bound) :
    ∀ now ∈ (Deleter.contract.next phase op answer).readings, now ≤ bound := by
  cases op with
  | clock =>
      intro now member
      rcases List.mem_cons.mp member with rfl | member
      · exact current _ rfl .rfl
      · exact read now member
  | hosts query =>
      cases query with
      | lock id => cases answer <;> exact read
      | update place id columns =>
          cases place with
          | deviceRelease =>
              simp only [Deleter.contract]
              split <;> exact read
          | progress | failure | renewal | disposal => exact read
      | get | expired | warm | excess | count | candidate | claim | insert | stamp | delete =>
          exact read
  | vm call =>
      cases call with
      | delete host =>
          simp only [Deleter.contract]
          split
          · exact read
          · split <;> exact read
      | start | finish => exact read
  | uuid7 | advisoryLock | rollback | keys | templates | outside => exact read

theorem expected (answered : deployment.Answered task op answer before after)
    (registry : Registry before) : Deleter.contract.expects phase op answer := by
  cases op with
  | hosts query =>
      cases query with
      | lock id =>
          rintro host rfl
          exact registry.host_id answered.outcome.2.1
      | get | expired | warm | excess | count | candidate | claim | insert | update | stamp
      | delete => trivial
  | clock | uuid7 | advisoryLock | rollback | keys | templates | outside | vm => trivial

theorem Standing.unanswered (same : Deployment.Unanswered before after)
    (lock : ∀ id, before.state.hostLock id = some other → after.state.hostLock id = some other)
    (log : deviceReleased other after.log = deviceReleased other before.log)
    (stands : Standing guards other phase before) : Standing guards other phase after where
  flags := stands.flags
  readings now member := (stands.readings now member).trans same.now
  holds := by
    have holds := stands.holds
    cases target : phase.target with
    | none => trivial
    | vacated host => trivial
    | locked host =>
        rw [target] at holds
        exact ⟨lock _ holds.1, same.hosts ▸ holds.2⟩
    | released host =>
        rw [target] at holds
        obtain ⟨spent, released, meets⟩ := holds
        refine ⟨same.spent.mpr spent, log.trans released, fun row present => ?_⟩
        obtain ⟨unclaimed, lapsed⟩ := meets row (same.hosts ▸ present)
        exact ⟨unclaimed, fun guarded => Host.leaseOver_mono (lapsed guarded) same.now⟩

/-- Every run in which nobody revives a host between the commit of its released device and
`delete_vm` keeps what the deletes know of their hosts. -/
theorem upheld (deployment : Deployment) (guards : ι → DeleteFlags) :
    Upheld (deployment.system : System ι _ _ _ _) (undisturbed guards)
      ((Provisioner.contract deployment).prod Deleter.contract) Registry
      fun task phase world =>
        phase.1.Standing task world ∧ Standing guards task phase.2 world where
  perform {task phase op choice answer before after} allowed registry known spared answered := by
    obtain ⟨expects, registry_after, actor⟩ :=
      (Provisioner.upheld deployment).perform allowed.1 registry known.1 trivial answered
    have answered := Deployment.answered answered
    refine ⟨⟨expects, expected answered registry⟩, registry_after, actor, ?_, ?_, ?_⟩
    · exact (Deleter.next_flags _ op answer).trans known.2.flags
    · rw [answered.now]
      refine next_readings _ known.2.readings ?_
      rintro now rfl same
      obtain rfl := eq_of_heq same
      exact answered.outcome.1.le
    · exact holds_self answered registry known.2 allowed.1 allowed.2
  others {task phase op choice answer before after other standing} allowed registry known spared
      answered different stands := by
    refine ⟨(Provisioner.upheld deployment).others allowed.1 registry known.1 trivial answered
      different stands.1, stands.2.flags, fun now member => ?_, ?_⟩
    · rw [(Deployment.answered answered).now]
      exact stands.2.readings now member
    · exact holds_other (Deployment.answered answered) known.1 allowed.1 registry spared different
        stands.2.holds
  abandon {task before} _ registry := by
    have same : Deployment.Unanswered before (deployment.system.abandoned task before) :=
      .abandoned task before
    refine ⟨same.registry registry, fun {other standing} different stands =>
      ⟨same.stands stands.1, stands.2.unanswered same (fun id held => ?_) ?_⟩⟩
    · exact (State.drop_eq_some task).mpr ⟨held, different⟩
    · simp [System.abandoned, deviceReleased_append, releaseStep, Ne.symm different]
  world {move before state} _ registry moved := by
    have same : Deployment.Unanswered before { before with state } := .nature moved
    refine ⟨same.registry registry, fun {task standing} stands =>
      ⟨same.stands stands.1, stands.2.unanswered same (fun id held => ?_) rfl⟩⟩
    obtain ⟨now, vms, -, rfl⟩ := Deployment.nature_frame moved
    exact held

end Teardown

open Teardown

/-- The flags of each task's deletes. -/
def deleteGuards (calls : ι → Option HostCall) (task : ι) : DeleteFlags :=
  ((calls task).map HostCall.deleteFlags).getD {}

/-- A guarded delete removes a VM only while its guard holds of the committed row, in every run in
which nobody revives a host between the commit of its released device and `delete_vm`. -/
theorem guardedTeardown_spares_revived (deployment : Deployment) (state : State ι)
    (rest : state.AtRest) (calls : ι → Option HostCall) (config : Config ι _ _ _ _)
    (reach : deployment.system.Reaches (undisturbed (deleteGuards calls))
      (deployment.start state calls) config)
    (task : ι) (host : Host) (resume : Except Failure Unit → Task Reply)
    (waits : config.tasks task = some (.call (.vm (.delete host)) resume))
    (row : Host) (present : config.world.state.hosts.get host.id = some row) :
    (deleteGuards calls task).Meets config.world.state.now row := by
  have upholds : Upholds ((Provisioner.contract deployment).prod Deleter.contract) Registry
      (fun task phase world =>
        phase.1.Standing task world ∧ Standing (deleteGuards calls) task phase.2 world)
      (fun _ _ _ => True) config := by
    refine Upholds.reaches (upheld deployment (deleteGuards calls)) ?_ reach
    refine ⟨rest.registry, fun {task program} started => ?_⟩
    obtain ⟨call, called, rfl⟩ := Option.map_eq_some_iff.mp started
    refine ⟨({}, { flags := call.deleteFlags }), ⟨.initial _ _, ?_, by simp, trivial⟩, ?_⟩
    · simp [deleteGuards, called]
    · exact (call.follows deployment |>.prod (call.deletes deployment)).weaken fun _ _ _ => trivial
  obtain ⟨⟨actor, deleter⟩, ⟨-, stands⟩, ⟨-, target, -, shed, expired⟩, -⟩ := upholds.follows waits
  have holds := stands.holds
  rcases target with locked | released
  · rw [locked] at holds
    obtain rfl : host = row := Option.some.inj (holds.2.symm.trans present)
    rw [stands.flags] at shed expired
    refine ⟨shed, fun guarded => ?_⟩
    obtain ⟨now, read, lapsed⟩ := expired guarded
    exact Host.leaseOver_mono lapsed (stands.readings now read)
  · rw [released] at holds
    exact holds.2.2 row present

/-- An expired host with a device. -/
def renewalRaceState : State Bool :=
  .resting 2
    (Table.empty.insert 1 { Host.sample 1 with poolMember := false, expiresAt := some 1 })
    .empty .empty

/-- The janitor's delete and a caller's renewal of that host. -/
def renewalRaceCalls (janitor : Bool) : Option HostCall :=
  if janitor then some (.delete 1 { force := true, expiredOnly := true })
  else some (.renew 1 (some 100))

theorem renewalRaceState_atRest : renewalRaceState.AtRest :=
  State.resting_atRest (by simp [Table.get_insert, Host.sample]) (by simp)

/-- The operation may take a row out of reach of the guards. -/
def mayRevive : Op → Bool
  | .hosts (.claim _ _ _ _) | .hosts (.update .renewal _ _) | .hosts (.update .disposal _ _)
  | .hosts (.stamp _ _ _ _) => true
  | _ => false

theorem mayRevive_of_revives {flags : DeleteFlags} {now : ℤ} {row : Host} {op : Op}
    (revives : Revives flags now row op) : mayRevive op := by
  unfold Revives at revives
  split at revives
  · rfl
  · rfl
  · rfl
  · rfl
  · exact revives.elim

/-- Whether nobody revives a host while one of two tasks has released a device, for sure. -/
def isUndisturbed (config : Config Bool Op.Answer (State Bool) Failure Reply) :
    Event Bool Choice (Nature Bool) → Bool
  | .perform task _ =>
      match config.tasks task with
      | some (.call op _) =>
          !mayRevive op ||
            decide (∀ other : Bool, deviceReleased other config.world.log = none)
      | _ => true
  | _ => true

theorem isUndisturbed_sound {flags : Bool → DeleteFlags}
    (config : Config Bool Op.Answer (State Bool) Failure Reply)
    (event : Event Bool Choice (Nature Bool)) (passes : isUndisturbed config event) :
    (undisturbed flags).Allows config event := by
  cases event with
  | abandon | world => trivial
  | perform task choice =>
      intro op resume program other row released _ revives
      simp only [isUndisturbed, program, mayRevive_of_revives revives, Bool.not_true,
        Bool.false_or, decide_eq_true_eq] at passes
      rw [passes other] at released
      cases released

/-- A renewal commits before the janitor takes the lock, and the new lease runs out. -/
def renewalFirstSchedule : List (Event Bool Choice (Nature Bool)) :=
  .replicate 5 (.perform false .go) ++ [.world (.tick 200)] ++ .replicate 6 (.perform true .go)

/-- The janitor comes to `delete_vm` with its guard met by the renewed row. -/
theorem guardedTeardown_expired :
    ∃ config host resume row,
      Deployment.sample.system.Reaches (undisturbed (deleteGuards renewalRaceCalls))
        (Deployment.sample.start renewalRaceState renewalRaceCalls) config ∧
      config.tasks true = some (.call (.vm (.delete host)) resume) ∧
      config.world.state.hosts.get host.id = some row ∧ row.expiresAt = some 100 ∧
      (deleteGuards renewalRaceCalls true).Meets config.world.state.now row :=
  have reach := System.reaches_runChecked isUndisturbed isUndisturbed_sound renewalFirstSchedule rfl
  ⟨_, _, _, _, reach, rfl, rfl, rfl,
    guardedTeardown_spares_revived _ _ renewalRaceState_atRest _ _ reach true _ _ rfl _ rfl⟩

/-- The renewal falls between the commit of the released device and `delete_vm`. -/
def renewalRaceSchedule : List (Event Bool Choice (Nature Bool)) :=
  .replicate 5 (.perform true .go) ++ .replicate 5 (.perform false .go) ++ [.perform true .go]

/-- A renewal that is acknowledged there does not save its host. -/
theorem guardedTeardown_destroys_renewed :
    ∃ config host resume row,
      Deployment.sample.system.Reaches {}
        (Deployment.sample.start renewalRaceState renewalRaceCalls) config ∧
      config.tasks true = some (.call (.vm (.delete host)) resume) ∧
      config.tasks false = some (.done (.host row)) ∧
      config.world.state.hosts.get host.id = some row ∧
      ¬ (deleteGuards renewalRaceCalls true).Meets config.world.state.now row :=
  ⟨_, _, _, _, System.reaches_run renewalRaceSchedule rfl, rfl, rfl, rfl, by decide⟩

end Drukbox
