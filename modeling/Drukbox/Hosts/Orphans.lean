import Drukbox.Database.RowSteps
import Drukbox.Hosts.Reaper
import Drukbox.Hosts.Teardown

/-!
# No orphaned VM

A row whose `create_vm` can still make a VM stays: a caller's delete refuses its status, and the
janitor finds its lease over only after the grace.  A row that goes leaves no VM, and none can
appear for it.
-/

namespace Drukbox

open Await HostService Registry

/-- `provisioning_grace_seconds`. -/
def Deployment.grace (deployment : Deployment) : ℤ :=
  seconds deployment.settings.provisioningGraceSeconds

/-- A VM appears within the grace of its host's `created_at`, whatever became of its `create_vm`
call. -/
def Deployment.prompt {ι : Type} (deployment : Deployment) :
    Condition ι Op.Answer (State ι) (Nature ι) where
  world
    | .appears task, world => ∀ creation, world.state.creating task = some creation →
        world.state.now ≤ creation.createdAt + deployment.grace
    | .tick _, _ | .vanishes _, _ => True

namespace Orphans

variable {ι : Type} [DecidableEq ι]

section Definitions

variable (deployment : Deployment) (world : Deployment.World ι)

/-- The host with the id was used, and where a task inserted it, no VM can appear for it. -/
def Past (id : HostId) : Prop :=
  Spent id world ∧ (Inserted id world → ∀ row, world.state.hosts.get id = some row →
    row.status.deleteBlocked → row.createdAt + deployment.grace < world.state.now)

/-- The committed row, if it is still there, has the name. -/
def Named (host : Host) : Prop :=
  ∀ row, world.state.hosts.get host.id = some row → row.name = host.name

/-- What holds of hosts and VMs between any two steps. -/
structure Housed : Prop where
  names : ∀ {id other row twin}, world.state.hosts.get id = some row →
    world.state.hosts.get other = some twin → row.name = twin.name → id = other
  vms : ∀ {name}, name ∈ world.state.vms →
    ∃ id row, world.state.hosts.get id = some row ∧ row.name = name
  creations : ∀ {task creation}, world.state.creating task = some creation →
    world.state.now ≤ creation.createdAt + deployment.grace →
      Drew task creation.host world ∧ Inserted creation.host world ∧
        ∃ row, world.state.hosts.get creation.host = some row ∧ row.name = creation.name ∧
          row.createdAt = creation.createdAt ∧ row.status.deleteBlocked
  leases : ∀ {id row}, world.state.hosts.get id = some row → row.status.deleteBlocked →
    Inserted id world →
      ∃ expiresAt, row.expiresAt = some expiresAt ∧ row.createdAt + deployment.grace ≤ expiresAt

/-- What a delete or a renewal knows of its host. -/
def Holds (task : ι) (forced : Bool) : Target → Prop
  | .none => True
  | .locked host =>
      world.state.hostLock host.id = some task ∧ world.state.hosts.get host.id = some host ∧
        (forced → Past deployment world host.id)
  | .released host => Past deployment world host.id ∧ Named world host
  | .vacated host =>
      Past deployment world host.id ∧
        ∀ row, world.state.hosts.get host.id = some row → row.name ∉ world.state.vms

structure Standing (task : ι) (phases : (Provisioner × Deleter) × Reaper) : Prop where
  forced : phases.1.2.flags.force = phases.2.forced
  calling : ∀ creation, world.state.creating task = some creation → phases.1.1.creating = true
  own : ∀ mine, phases.1.1.own = some mine → mine.status.deleteBlocked →
    world.state.now ≤ mine.createdAt + deployment.grace →
      (world.state.hosts.get mine.id).isSome
  readings : ∀ now ∈ phases.2.readings, now ≤ world.state.now
  lapsed : phases.2.forced → ∀ id ∈ phases.2.lapsed, Past deployment world id
  holds : Holds deployment world task phases.1.2.flags.force phases.1.2.target

end Definitions

variable {deployment : Deployment} {task other : ι} {op : Op} {answer : op.Answer}
  {before after : Deployment.World ι} {actor : Provisioner} {deleter : Deleter} {reaper : Reaper}
  {id : HostId} {host row : Host} {forced : Bool} {target : Target}

omit [DecidableEq ι] in
/-- A row that may still get a VM was inserted with a lease beyond the grace. -/
theorem Housed.past_of_expired (housed : Housed deployment before) (registry : Registry before)
    (present : before.state.hosts.get id = some row) {now : ℤ} (read : now ≤ before.state.now)
    (expired : row.expiredBefore now) : Past deployment before id := by
  refine ⟨registry.spent present, fun born current now_present early => ?_⟩
  obtain rfl : row = current := Option.some.inj (present.symm.trans now_present)
  obtain ⟨expiresAt, lease, bound⟩ := housed.leases present early born
  have lapsed : expiresAt < now := by
    simpa [Host.expiredBefore, lease] using expired
  omega

omit [DecidableEq ι] in
theorem past_of_settled (registry : Registry before)
    (present : before.state.hosts.get id = some row) (late : row.status.deleteBlocked = false) :
    Past deployment before id := by
  refine ⟨registry.spent present, fun _ current now_present early => ?_⟩
  obtain rfl : row = current := Option.some.inj (present.symm.trans now_present)
  rw [late] at early
  contradiction

omit [DecidableEq ι] in
/-- The row of a call that can still make a VM is past nothing. -/
theorem Housed.not_past (housed : Housed deployment before) {creation : Creation}
    (creating : before.state.creating task = some creation)
    (grace : before.state.now ≤ creation.createdAt + deployment.grace) :
    ¬ Past deployment before creation.host := by
  intro past
  obtain ⟨-, born, row, present, -, created, early⟩ := housed.creations creating grace
  have late := past.2 born row present early
  omega

section Answered

variable (answered : deployment.Answered task op answer before after)
include answered

/-- An early row was early before, with the same lease: only its own task moves it, and nobody
renews, claims or stamps it. -/
theorem early_row (known : actor.Standing task before)
    (allowed : (Provisioner.contract deployment).allows actor op)
    (deletes : Deleter.contract.allows deleter op)
    (holds : Holds deployment before task forced deleter.target) (spent : Spent id before)
    (present : after.state.hosts.get id = some row) (early : row.status.deleteBlocked) :
    ∃ old, before.state.hosts.get id = some old ∧ old.status.deleteBlocked ∧
      row.SameOrigin old ∧ row.expiresAt = old.expiresAt := by
  have step := answered.outcome.rowStep present
  cases step with
  | kept was => exact ⟨row, was, early, .refl row, rfl⟩
  | insert same =>
      obtain ⟨drew, unborn⟩ := known.drawn _ allowed.1
      exact absurd (spent.2 task (same ▸ drew)) (same ▸ unborn)
  | claim was =>
      obtain ⟨-, warm, found, same⟩ := allowed
      obtain ⟨active, -, agrees⟩ := known.candidate warm found
      have status := (agrees _ (same ▸ was)).2
      rw [Host.set_status] at early
      simp [Host.claimColumns, status, active, HostStatus.deleteBlocked] at early
  | stamp was =>
      obtain ⟨mine, owns, same, active, -⟩ := allowed
      have status := ((known.own mine owns).2.2 _ (same ▸ was)).2
      simp [status, active, HostStatus.deleteBlocked] at early
  | @update place columns old was free =>
      cases place with
      | progress =>
          obtain ⟨-, ⟨mine, owns, same, -, moves⟩, lease, -⟩ := allowed
          have status := ((known.own mine owns).2.2 old (same ▸ was)).2
          refine ⟨old, was, ?_, .set _ _, by simp [lease]⟩
          cases moved : columns.status with
          | none => simpa [moved] using early
          | some status_after =>
              rw [status]
              exact (moves status_after moved).2 (by simpa [moved] using early)
      | failure =>
          have moved := allowed.2.2.1
          simp [moved, HostStatus.deleteBlocked] at early
      | renewal =>
          obtain ⟨locked, target, same, renewable⟩ := deletes
          rw [target] at holds
          obtain rfl : locked = old := Option.some.inj (holds.2.1.symm.trans (same ▸ was))
          have backed := HostStatus.vmBacked_of_renewable renewable
          rw [HostStatus.vmBacked_eq_not_deleteBlocked] at backed
          have silent := allowed.1
          simp only [Host.set_status, silent, Option.getD_none] at early
          simp [early] at backed
      | disposal =>
          obtain ⟨silent, ⟨obtained, obtains, same⟩, -⟩ := allowed
          obtain ⟨active, -, agrees⟩ := known.obtained obtained obtains
          have status := (agrees old (same ▸ was)).2
          simp [silent, status, active, HostStatus.deleteBlocked] at early
      | deviceRelease =>
          obtain ⟨silent, -, -, lease⟩ := allowed
          exact ⟨old, was, by simpa [silent] using early, .set _ _, by simp [lease]⟩

/-- An id that was used before is inserted no more. -/
theorem inserted_before (known : actor.Standing task before)
    (allowed : (Provisioner.contract deployment).allows actor op) (spent : Spent id before)
    (born : Inserted id after) : Inserted id before := by
  rcases answered.born_cases born with old | ⟨host, lease, same, rfl, -⟩
  · exact old
  · obtain ⟨drew, unborn⟩ := known.drawn _ allowed.1
    exact absurd (spent.2 task (same ▸ drew)) (same ▸ unborn)

theorem past (known : actor.Standing task before)
    (allowed : (Provisioner.contract deployment).allows actor op)
    (deletes : Deleter.contract.allows deleter op)
    (holds : Holds deployment before task forced deleter.target)
    (past : Past deployment before id) : Past deployment after id := by
  refine ⟨answered.spent past.1, fun born row present early => ?_⟩
  obtain ⟨old, was, old_early, origin, -⟩ :=
    early_row answered known allowed deletes holds past.1 present early
  have late := past.2 (inserted_before answered known allowed past.1 born) old was old_early
  rw [answered.now, origin.createdAt]
  exact late

theorem named (known : actor.Standing task before)
    (allowed : (Provisioner.contract deployment).allows actor op) (spent : Spent host.id before)
    (named : Named before host) : Named after host := by
  intro row present
  rcases (answered.outcome.rowStep present).origin with
    ⟨old, was, origin⟩ | ⟨lease, rfl, -, same, -⟩
  · exact origin.name.trans (named old was)
  · obtain ⟨drew, unborn⟩ := known.drawn _ allowed.1
    exact absurd (spent.2 task (same ▸ drew)) (same ▸ unborn)

theorem vms_subset {name : String} (member : name ∈ after.state.vms) : name ∈ before.state.vms := by
  have outcome := answered.outcome
  cases op with
  | hosts query =>
      have access := HostQuery.Outcome.access outcome
      rwa [access.vms] at member
  | keys query =>
      obtain ⟨keys, same⟩ := KeyQuery.Outcome.frame outcome
      rwa [same] at member
  | templates query =>
      have access := (TemplateQuery.Outcome.access outcome).1
      rwa [access.vms] at member
  | vm call =>
      cases call with
      | start host environment setupScript =>
          rwa [show after.state = _ from outcome] at member
      | finish => rwa [show after.state = _ from outcome] at member
      | delete host =>
          cases answer with
          | ok =>
              rw [show after.state = _ from outcome] at member
              exact Finset.mem_of_mem_erase member
          | error failure => rwa [outcome.2] at member
  | clock => rwa [outcome.2] at member
  | uuid7 => rwa [outcome.2] at member
  | advisoryLock key => rwa [outcome.2] at member
  | rollback => rwa [show after.state = _ from outcome] at member
  | outside call => rwa [show after.state = _ from outcome] at member

/-- A call that can still make a VM could before, or begins now. -/
theorem creating_cases {creation : Creation}
    (creating : after.state.creating other = some creation) :
    before.state.creating other = some creation ∨
      other = task ∧ ∃ host environment setupScript,
        op = .vm (.start host environment setupScript) ∧
          creation = { host := host.id, name := host.name, createdAt := host.createdAt } := by
  have outcome := answered.outcome
  cases op with
  | hosts query =>
      rw [(HostQuery.Outcome.access outcome).creating] at creating
      exact .inl creating
  | keys query =>
      obtain ⟨keys, same⟩ := KeyQuery.Outcome.frame outcome
      rw [same] at creating
      exact .inl creating
  | templates query =>
      rw [(TemplateQuery.Outcome.access outcome).1.creating] at creating
      exact .inl creating
  | vm call =>
      cases call with
      | start host environment setupScript =>
          rw [show after.state = _ from outcome] at creating
          simp only [Function.update_apply] at creating
          split at creating
          · next same =>
              exact .inr ⟨same, host, environment, setupScript, rfl,
                (Option.some.inj creating).symm⟩
          · exact .inl creating
      | finish =>
          rw [show after.state = _ from outcome] at creating
          simp only [Function.update_apply] at creating
          split at creating
          · contradiction
          · exact .inl creating
      | delete host =>
          cases answer with
          | ok =>
              rw [show after.state = _ from outcome] at creating
              exact .inl creating
          | error failure =>
              rw [outcome.2] at creating
              exact .inl creating
  | clock =>
      rw [outcome.2] at creating
      exact .inl creating
  | uuid7 =>
      rw [outcome.2] at creating
      exact .inl creating
  | advisoryLock key =>
      rw [outcome.2] at creating
      exact .inl creating
  | rollback =>
      rw [show after.state = _ from outcome] at creating
      exact .inl creating
  | outside call =>
      rw [show after.state = _ from outcome] at creating
      exact .inl creating

/-- An early row stays while its VM may come: a delete has found that none can. -/
theorem spares (deletes : Deleter.contract.allows deleter op)
    (holds : Holds deployment before task forced deleter.target)
    (stays : ¬ Past deployment before id) : op ≠ .hosts (.delete id) := by
  rintro rfl
  obtain ⟨host, vacated, same⟩ := deletes
  rw [vacated] at holds
  exact stays (same ▸ holds.1)

/-- The row of a call that can still make a VM is as it was. -/
theorem creation_row (housed : Housed deployment before) (registry : Registry before)
    (known : actor.Standing task before)
    (allowed : (Provisioner.contract deployment).allows actor op)
    (deletes : Deleter.contract.allows deleter op)
    (holds : Holds deployment before task forced deleter.target)
    (calling : ∀ creation, before.state.creating task = some creation → actor.creating = true)
    {creation : Creation} (creating : before.state.creating other = some creation)
    (grace : before.state.now ≤ creation.createdAt + deployment.grace) :
    ∃ row, after.state.hosts.get creation.host = some row ∧ row.name = creation.name ∧
      row.createdAt = creation.createdAt ∧ row.status.deleteBlocked := by
  obtain ⟨drew, born, row, present, name, created, early⟩ := housed.creations creating grace
  have row_id : row.id = creation.host := registry.host_id present
  have stays : (after.state.hosts.get creation.host).isSome :=
    answered.present (spares answered deletes holds (housed.not_past creating grace))
      (Option.isSome_of_eq_some present)
  obtain ⟨now, now_present⟩ := Option.isSome_iff_exists.mp stays
  have agreed : Agrees row before := by
    intro current current_present
    obtain rfl : row = current :=
      Option.some.inj (present.symm.trans (row_id ▸ current_present))
    exact ⟨.refl row, rfl⟩
  have agrees : Agrees row after := by
    apply answered.agrees known allowed (row_id.symm ▸ registry.spent present) agreed
    by_cases mine : ∃ own, actor.own = some own ∧ own.id = row.id
    · -- It is the caller's own row, and the caller waits for its call.
      obtain ⟨own, owns, same⟩ := mine
      have drew_too := (known.own own owns).1
      rw [same, row_id] at drew_too
      obtain rfl : other = task := registry.drew_unique drew drew_too
      have waits := calling creation creating
      refine .inr (.inr fun place columns updates => ?_)
      subst updates
      cases place with
      | progress => simp [allowed.1] at waits
      | failure => simp [allowed.1] at waits
      | renewal | disposal | deviceRelease => exact allowed.1
    · exact .inr (.inl fun own owns same => mine ⟨own, owns, same⟩)
  obtain ⟨origin, status⟩ := agrees now (row_id.symm ▸ now_present)
  exact ⟨now, now_present, origin.name.trans name, origin.createdAt.trans created, status ▸ early⟩

theorem names_kept (housed : Housed deployment before) {twin : Host} {rival : HostId}
    (present : after.state.hosts.get id = some row)
    (present_too : after.state.hosts.get rival = some twin) (same : row.name = twin.name) :
    id = rival := by
  rcases (answered.outcome.rowStep present).origin with
    ⟨old, was, origin⟩ | ⟨lease, rfl, accepted, row_id, -⟩
  · rcases (answered.outcome.rowStep present_too).origin with
      ⟨old_twin, was_too, origin_too⟩ | ⟨lease, rfl, accepted, -, -⟩
    · exact housed.names was was_too (origin.name.symm.trans (same.trans origin_too.name))
    · obtain rfl := eq_of_heq accepted
      obtain ⟨-, -, -, unique, -⟩ := answered.outcome
      exact absurd (origin.name.symm.trans same) (unique id old was)
  · rcases (answered.outcome.rowStep present_too).origin with
      ⟨old_twin, was_too, origin_too⟩ | ⟨lease_too, again, -, twin_id, -⟩
    · obtain rfl := eq_of_heq accepted
      obtain ⟨-, -, -, unique, -⟩ := answered.outcome
      exact absurd (origin_too.name.symm.trans same.symm) (unique rival old_twin was_too)
    · simp only [Op.hosts.injEq, HostQuery.insert.injEq] at again
      rw [← row_id, ← twin_id, again.1]

theorem housed_kept (housed : Housed deployment before) (registry : Registry before)
    (known : actor.Standing task before)
    (stands : Standing deployment before task ((actor, deleter), reaper))
    (allowed : (Provisioner.contract deployment).allows actor op)
    (deletes : Deleter.contract.allows deleter op) : Housed deployment after where
  names := names_kept answered housed
  vms {name} member := by
    obtain ⟨id, row, present, named⟩ := housed.vms (vms_subset answered member)
    have kept : op ≠ .hosts (.delete id) := by
      rintro rfl
      obtain ⟨host, vacated, same⟩ := deletes
      have holds := stands.holds
      rw [vacated] at holds
      have gone := holds.2 row (same ▸ present)
      exact gone (named ▸ vms_subset answered member)
    obtain ⟨now, now_present⟩ :=
      Option.isSome_iff_exists.mp (answered.present kept (Option.isSome_of_eq_some present))
    have origin := (answered.outcome.rowStep now_present).origin
    rcases origin with ⟨old, was, origin⟩ | ⟨-, -, -, -, absent⟩
    · obtain rfl : row = old := Option.some.inj (present.symm.trans was)
      exact ⟨id, now, now_present, origin.name.trans named⟩
    · rw [present] at absent
      contradiction
  creations {owner creation} creating grace := by
    rw [answered.now] at grace
    rcases creating_cases answered creating with old | ⟨rfl, host, environment, script, rfl, rfl⟩
    · obtain ⟨drew, born, -⟩ := housed.creations old grace
      exact ⟨answered.drew drew, answered.born born,
        creation_row answered housed registry known allowed deletes stands.holds stands.calling old
          grace⟩
    · obtain ⟨-, mine, owns, origin, status⟩ := allowed
      obtain ⟨drew, born, agrees⟩ := known.own mine owns
      have early : mine.status.deleteBlocked := by simp [status, HostStatus.deleteBlocked]
      have present := stands.own mine owns early (origin.createdAt ▸ grace)
      obtain ⟨row, present⟩ := Option.isSome_iff_exists.mp present
      obtain ⟨same, row_status⟩ := agrees row present
      have hosts : after.state.hosts = before.state.hosts := by
        rw [show after.state = _ from answered.outcome]
      refine ⟨answered.drew (origin.id.symm ▸ drew), answered.born (origin.id.symm ▸ born), row, ?_,
        same.name.trans origin.name.symm, same.createdAt.trans origin.createdAt.symm,
        row_status ▸ early⟩
      rw [hosts, origin.id]
      exact present
  leases {id row} present early born := by
    have origin := (answered.outcome.rowStep present).origin
    rcases origin with ⟨old, was, -⟩ | ⟨lease, rfl, -, -, -⟩
    · have spent := registry.spent was
      obtain ⟨old, was, old_early, origin, lease⟩ :=
        early_row answered known allowed deletes stands.holds spent present early
      rw [lease, origin.createdAt]
      exact housed.leases was old_early (inserted_before answered known allowed spent born)
    · exact allowed.2.2.2.2

theorem calling_kept (calling : ∀ creation, before.state.creating task = some creation →
      actor.creating = true) {creation : Creation}
    (creating : after.state.creating task = some creation) :
    ((Provisioner.contract deployment).next actor op answer).creating = true := by
  rcases creating_cases answered creating with old | ⟨-, host, environment, script, rfl, -⟩
  · have called := calling creation old
    cases op with
    | hosts query =>
        cases query with
        | update place => cases place <;> cases answer <;> exact called
        | claim => cases answer <;> exact called
        | insert => cases answer <;> exact called
        | get | lock | expired | warm | excess | count | candidate | stamp | delete => exact called
    | vm call =>
        cases call with
        | start => rfl
        | finish =>
            rw [show after.state = _ from answered.outcome] at creating
            simp at creating
        | delete => exact called
    | clock | uuid7 | advisoryLock | rollback | keys | templates | outside => exact called
  · rfl

omit answered in
/-- An early row of a task was early before, or the task inserts it now. -/
theorem next_own (allowed : (Provisioner.contract deployment).allows actor op) {mine : Host}
    (owns : ((Provisioner.contract deployment).next actor op answer).own = some mine)
    (early : mine.status.deleteBlocked) :
    (∃ old, actor.own = some old ∧ old.status.deleteBlocked ∧ mine.SameOrigin old) ∨
      ∃ lease, op = .hosts (.insert mine lease) ∧ HEq answer (.ok () : Except Failure Unit) := by
  have kept (owns : actor.own = some mine) :
      ∃ old, actor.own = some old ∧ old.status.deleteBlocked ∧ mine.SameOrigin old :=
    ⟨mine, owns, early, .refl mine⟩
  cases op with
  | hosts query =>
      cases query with
      | update place target columns =>
          cases answer with
          | false => cases place <;> exact .inl (kept owns)
          | true =>
          cases place with
          | progress =>
              obtain ⟨old, owned, rfl⟩ := Option.map_eq_some_iff.mp owns
              obtain ⟨-, ⟨own, owns_too, -, -, moves⟩, -⟩ := allowed
              obtain rfl : old = own := Option.some.inj (owned.symm.trans owns_too)
              refine .inl ⟨old, owned, ?_, .set _ _⟩
              cases moved : columns.status with
              | none => simpa [moved] using early
              | some status => exact (moves status moved).2 (by simpa [moved] using early)
          | failure =>
              obtain ⟨old, owned, rfl⟩ := Option.map_eq_some_iff.mp owns
              have moved := allowed.2.2.1
              simp [moved, HostStatus.deleteBlocked] at early
          | renewal | disposal | deviceRelease => exact .inl (kept owns)
      | claim => cases answer <;> exact .inl (kept owns)
      | insert host lease =>
          cases answer with
          | error failure => exact .inl (kept owns)
          | ok =>
              obtain rfl : host = mine := Option.some.inj owns
              exact .inr ⟨lease, rfl, .rfl⟩
      | get | lock | expired | warm | excess | count | candidate | stamp | delete =>
          exact .inl (kept owns)
  | vm call => cases call <;> exact .inl (kept owns)
  | clock | uuid7 | advisoryLock | rollback | keys | templates | outside => exact .inl (kept owns)

/-- Within the grace the early row of a task stays. -/
theorem own_stays {owner : ι} {standing : Provisioner} (known : standing.Standing owner before)
    (deletes : Deleter.contract.allows deleter op)
    (holds : Holds deployment before task forced deleter.target) {mine : Host}
    (owns : standing.own = some mine) (early : mine.status.deleteBlocked)
    (grace : before.state.now ≤ mine.createdAt + deployment.grace)
    (present : (before.state.hosts.get mine.id).isSome) :
    (after.state.hosts.get mine.id).isSome := by
  obtain ⟨row, row_present⟩ := Option.isSome_iff_exists.mp present
  obtain ⟨-, born, agrees⟩ := known.own mine owns
  obtain ⟨origin, status⟩ := agrees row row_present
  apply answered.present (spares answered deletes holds ?_) present
  intro past
  have late := past.2 born row row_present (status ▸ early)
  rw [origin.createdAt] at late
  omega

theorem own_kept (known : actor.Standing task before)
    (stands : Standing deployment before task ((actor, deleter), reaper))
    (allowed : (Provisioner.contract deployment).allows actor op)
    (deletes : Deleter.contract.allows deleter op) {mine : Host}
    (owns : ((Provisioner.contract deployment).next actor op answer).own = some mine)
    (early : mine.status.deleteBlocked)
    (grace : after.state.now ≤ mine.createdAt + deployment.grace) :
    (after.state.hosts.get mine.id).isSome := by
  rw [answered.now] at grace
  rcases next_own allowed owns early with ⟨old, owned, old_early, origin⟩ | ⟨lease, rfl, accepted⟩
  · rw [origin.createdAt] at grace
    have present := stands.own old owned old_early grace
    rw [origin.id]
    exact own_stays answered known deletes stands.holds owned old_early grace present
  · obtain rfl := eq_of_heq accepted
    rw [answered.hosts_get]
    simp [Op.hostEffect, HostQuery.effect]

/-- What the other tasks know of their targets stays so. -/
theorem holds_other (known : actor.Standing task before)
    (stands : Standing deployment before task ((actor, deleter), reaper))
    (allowed : (Provisioner.contract deployment).allows actor op)
    (deletes : Deleter.contract.allows deleter op) (different : other ≠ task)
    (holds : Holds deployment before other forced target) :
    Holds deployment after other forced target := by
  have pasts {id : HostId} (was : Past deployment before id) : Past deployment after id :=
    past answered known allowed deletes stands.holds was
  cases target with
  | none => trivial
  | locked host =>
      obtain ⟨locked, present, lapsed⟩ := holds
      exact ⟨(answered.outcome.change.lockOf different _).mpr locked,
        Teardown.locked_row answered different locked present, fun force => pasts (lapsed force)⟩
  | released host => exact ⟨pasts holds.1, named answered known allowed holds.1.1 holds.2⟩
  | vacated host =>
      refine ⟨pasts holds.1, fun row present member => ?_⟩
      have origin := (answered.outcome.rowStep present).origin
      rcases origin with ⟨old, was, origin⟩ | ⟨lease, rfl, -, same, -⟩
      · exact holds.2 old was (origin.name ▸ vms_subset answered member)
      · obtain ⟨drew, unborn⟩ := known.drawn _ allowed.1
        exact absurd (holds.1.1.2 task (same ▸ drew)) (same ▸ unborn)

theorem holds_self (registry : Registry before) (known : actor.Standing task before)
    (stands : Standing deployment before task ((actor, deleter), reaper))
    (allowed : (Provisioner.contract deployment).allows actor op)
    (deletes : Deleter.contract.allows deleter op) (reaps : Reaper.contract.allows reaper op) :
    Holds deployment after task deleter.flags.force
      (Deleter.contract.next deleter op answer).target := by
  have holds := stands.holds
  have pasts {id : HostId} (was : Past deployment before id) : Past deployment after id :=
    past answered known allowed deletes holds was
  have kept (hosts : after.state.hosts = before.state.hosts)
      (locks : after.state.hostLock = before.state.hostLock) :
      Holds deployment after task deleter.flags.force deleter.target := by
    cases target : deleter.target with
    | none => trivial
    | locked host =>
        rw [target] at holds
        exact ⟨locks ▸ holds.1, hosts ▸ holds.2.1, fun force => pasts (holds.2.2 force)⟩
    | released host =>
        rw [target] at holds
        exact ⟨pasts holds.1, named answered known allowed holds.1.1 holds.2⟩
    | vacated host =>
        rw [target] at holds
        refine ⟨pasts holds.1, fun row present member => ?_⟩
        exact holds.2 row (hosts ▸ present) (vms_subset answered member)
  have read (same : after.state = before.state) :
      Holds deployment after task deleter.flags.force deleter.target :=
    kept (by rw [same]) (by rw [same])
  cases op with
  | clock => exact read answered.outcome.2
  | uuid7 =>
      have same := answered.outcome.2
      exact kept (by rw [same]) (by rw [same])
  | advisoryLock key =>
      have same := answered.outcome.2
      exact kept (by rw [same]) (by rw [same])
  | rollback => trivial
  | outside call => exact read answered.outcome
  | keys query =>
      obtain ⟨keys, same⟩ := KeyQuery.Outcome.frame answered.outcome
      exact kept (by rw [same]) (by rw [same])
  | templates query =>
      cases query with
      | get id => exact read answered.outcome.2
      | touch lease =>
          obtain ⟨templateLock, same⟩ := TemplateQuery.Outcome.touch_frame answered.outcome
          exact kept (by rw [same]) (by rw [same])
      | lock | lockKey | reapable | isReapable | insert | restart | finish | abandon | delete =>
          cases deletes
  | vm call =>
      cases call with
      | start host environment setupScript =>
          have same := answered.outcome
          exact kept (by rw [same]) (by rw [same])
      | finish =>
          have same := answered.outcome
          exact kept (by rw [same]) (by rw [same])
      | delete host =>
          obtain ⟨held, passes⟩ := deletes
          have vacates (gone : host.name ∉ after.state.vms)
              (hosts : after.state.hosts = before.state.hosts) :
              Holds deployment after task deleter.flags.force (.vacated host) := by
            have found : Past deployment before host.id ∧ Named before host := by
              rcases held with locked | released
              · rw [locked] at holds
                obtain ⟨-, present, lapsed⟩ := holds
                refine ⟨?_, fun row row_present => ?_⟩
                · rcases passes.1 with force | late
                  · exact lapsed force
                  · exact past_of_settled registry present late
                · obtain rfl : host = row := Option.some.inj (present.symm.trans row_present)
                  rfl
              · rw [released] at holds
                exact holds
            refine ⟨pasts found.1, fun row present => ?_⟩
            rw [found.2 row (hosts ▸ present)]
            exact gone
          cases answer with
          | ok =>
              have same := answered.outcome
              exact vacates (by rw [same]; simp) (by rw [same])
          | error failure =>
              obtain ⟨absent, same⟩ := answered.outcome
              simp only [Deleter.contract]
              split
              · next missing => exact vacates (by rw [same]; exact absent missing) (by rw [same])
              · trivial
  | hosts query =>
      cases query with
      | get => exact read answered.outcome.2
      | count => exact read answered.outcome.2
      | expired => exact read answered.outcome.2
      | candidate =>
          cases answer with
          | none => exact read answered.outcome
          | some row => exact read answered.outcome.2.2
      | lock id =>
          cases answer with
          | none => trivial
          | some host =>
              obtain ⟨-, present, same⟩ := answered.outcome
              have host_id : host.id = id := registry.host_id present
              refine ⟨?_, ?_, fun force => ?_⟩
              · rw [same]
                simp [host_id]
              · rw [same]
                exact host_id ▸ present
              · exact pasts (host_id ▸ stands.lapsed (stands.forced ▸ force) id
                  (reaps (stands.forced ▸ force)))
      | warm | excess | claim | insert | stamp | delete => trivial
      | update place id columns =>
          cases place with
          | progress | failure | renewal | disposal => trivial
          | deviceRelease =>
              obtain ⟨host, locked, host_id, passes⟩ := deletes
              rw [locked] at holds
              obtain ⟨-, present, lapsed⟩ := holds
              cases answer with
              | false => simp [Deleter.contract, Holds]
              | true =>
                  simp only [Deleter.contract, locked]
                  have was : Past deployment before host.id := by
                    rcases passes.1 with force | late
                    · exact lapsed force
                    · exact past_of_settled registry present late
                  refine ⟨pasts was, named answered known allowed was.1 fun row row_present => ?_⟩
                  obtain rfl : host = row := Option.some.inj (present.symm.trans row_present)
                  rfl

theorem lapsed_kept (housed : Housed deployment before) (registry : Registry before)
    (known : actor.Standing task before)
    (stands : Standing deployment before task ((actor, deleter), reaper))
    (allowed : (Provisioner.contract deployment).allows actor op)
    (deletes : Deleter.contract.allows deleter op) (reaps : Reaper.contract.allows reaper op)
    (forced : reaper.forced) (member : id ∈ (Reaper.contract.next reaper op answer).lapsed) :
    Past deployment after id := by
  apply past answered known allowed deletes stands.holds
  cases op with
  | hosts query =>
      cases query with
      | expired now =>
          obtain ⟨row, present, expired⟩ := (answered.outcome.1 id).mp member
          exact housed.past_of_expired registry present (stands.readings now (reaps forced)) expired
      | get | lock | warm | excess | count | candidate | claim | insert | update | stamp | delete =>
          exact stands.lapsed forced id member
  | clock | uuid7 | advisoryLock | rollback | keys | templates | outside | vm =>
      exact stands.lapsed forced id member

theorem readings_kept (read : ∀ now ∈ reaper.readings, now ≤ before.state.now) :
    ∀ now ∈ (Reaper.contract.next reaper op answer).readings, now ≤ after.state.now := by
  rw [answered.now]
  cases op with
  | clock =>
      intro now member
      rcases List.mem_cons.mp member with rfl | member
      · exact answered.outcome.1.le
      · exact read now member
  | hosts query => cases query <;> exact read
  | uuid7 | advisoryLock | rollback | keys | templates | outside | vm => exact read

theorem standing_self (housed : Housed deployment before) (registry : Registry before)
    (known : actor.Standing task before)
    (stands : Standing deployment before task ((actor, deleter), reaper))
    (allowed : (Provisioner.contract deployment).allows actor op)
    (deletes : Deleter.contract.allows deleter op) (reaps : Reaper.contract.allows reaper op) :
    Standing deployment after task
      (((Provisioner.contract deployment).next actor op answer,
          Deleter.contract.next deleter op answer),
        Reaper.contract.next reaper op answer) where
  forced := by
    rw [Deleter.next_flags, Reaper.next_forced]
    exact stands.forced
  calling creation creating := calling_kept answered stands.calling creating
  own mine owns early grace := own_kept answered known stands allowed deletes owns early grace
  readings := readings_kept answered stands.readings
  lapsed forced id member := by
    rw [Reaper.next_forced] at forced
    exact lapsed_kept answered housed registry known stands allowed deletes reaps forced member
  holds := by
    rw [Deleter.next_flags]
    exact holds_self answered registry known stands allowed deletes reaps

theorem standing_other (known : actor.Standing task before)
    (stands : Standing deployment before task ((actor, deleter), reaper))
    (allowed : (Provisioner.contract deployment).allows actor op)
    (deletes : Deleter.contract.allows deleter op) (different : other ≠ task)
    {phases : (Provisioner × Deleter) × Reaper} (standing : phases.1.1.Standing other before)
    (other_stands : Standing deployment before other phases) :
    Standing deployment after other phases where
  forced := other_stands.forced
  calling creation creating := by
    rcases creating_cases answered creating with old | ⟨same, -⟩
    · exact other_stands.calling creation old
    · exact absurd same different
  own mine owns early grace := by
    rw [answered.now] at grace
    exact own_stays answered standing deletes stands.holds owns early grace
      (other_stands.own mine owns early grace)
  readings now member := by
    rw [answered.now]
    exact other_stands.readings now member
  lapsed forced id member :=
    past answered known allowed deletes stands.holds (other_stands.lapsed forced id member)
  holds := holds_other answered known stands allowed deletes different other_stands.holds

end Answered

section Unanswered

variable (same : Deployment.Unanswered before after)
include same

omit [DecidableEq ι] in
theorem past_unanswered (past : Past deployment before id) : Past deployment after id := by
  refine ⟨same.spent.mpr past.1, fun born row present early => ?_⟩
  have late := past.2 (same.born.mp born) row (same.hosts ▸ present) early
  exact lt_of_lt_of_le late same.now

variable (creating : after.state.creating = before.state.creating)
  (appears : ∀ {name}, name ∈ after.state.vms → name ∈ before.state.vms ∨
    ∃ task creation, before.state.creating task = some creation ∧
      before.state.now ≤ creation.createdAt + deployment.grace ∧ creation.name = name)
include creating appears

omit [DecidableEq ι] in
/-- A VM that appears has its row. -/
theorem housed_unanswered (housed : Housed deployment before) : Housed deployment after where
  names present present_too named :=
    housed.names (same.hosts ▸ present) (same.hosts ▸ present_too) named
  vms {name} member := by
    rw [same.hosts]
    rcases appears member with old | ⟨task, creation, creates, grace, named⟩
    · exact housed.vms old
    · obtain ⟨-, -, row, present, row_name, -⟩ := housed.creations creates grace
      exact ⟨creation.host, row, present, row_name.trans named⟩
  creations {task creation} creates grace := by
    rw [creating] at creates
    obtain ⟨drew, born, row⟩ := housed.creations creates (same.now.trans grace)
    rw [same.drew, same.born, same.hosts]
    exact ⟨drew, born, row⟩
  leases present early born := housed.leases (same.hosts ▸ present) early (same.born.mp born)

omit [DecidableEq ι] in
/-- No VM appears for a row that is past it. -/
theorem standing_unanswered {phases : (Provisioner × Deleter) × Reaper}
    (housed : Housed deployment before)
    (lock : ∀ id, before.state.hostLock id = some task → after.state.hostLock id = some task)
    (stands : Standing deployment before task phases) : Standing deployment after task phases where
  forced := stands.forced
  calling creation creates := stands.calling creation (creating ▸ creates)
  own mine owns early grace := by
    rw [same.hosts]
    exact stands.own mine owns early (same.now.trans grace)
  readings now member := (stands.readings now member).trans same.now
  lapsed forced id member := past_unanswered same (stands.lapsed forced id member)
  holds := by
    have holds := stands.holds
    cases target : phases.1.2.target with
    | none => trivial
    | locked host =>
        rw [target] at holds
        exact ⟨lock _ holds.1, same.hosts ▸ holds.2.1, fun force =>
          past_unanswered same (holds.2.2 force)⟩
    | released host =>
        rw [target] at holds
        exact ⟨past_unanswered same holds.1, fun row present => holds.2 row (same.hosts ▸ present)⟩
    | vacated host =>
        rw [target] at holds
        refine ⟨past_unanswered same holds.1, fun row present member => ?_⟩
        rw [same.hosts] at present
        rcases appears member with old | ⟨owner, creation, creates, grace, named⟩
        · exact holds.2 row present old
        · obtain ⟨-, -, made, made_present, made_name, -⟩ := housed.creations creates grace
          have made_id : host.id = creation.host :=
            housed.names present made_present (named.symm.trans made_name.symm)
          exact housed.not_past creates grace (made_id ▸ holds.1)

end Unanswered

/-- Every run keeps hosts and VMs together and what each task knows, whatever happens to the
tasks. -/
theorem upheld (deployment : Deployment) :
    Upheld (deployment.system : System ι _ _ _ _) deployment.prompt
      (((Provisioner.contract deployment).prod Deleter.contract).prod Reaper.contract)
      (fun world => Registry world ∧ Housed deployment world)
      fun task phases world =>
        phases.1.1.Standing task world ∧ Standing deployment world task phases where
  perform {task phases op choice answer before after} allowed holds stands _ answered := by
    have answered := Deployment.answered answered
    refine ⟨⟨⟨answered.expected holds.1 stands.1 allowed.1.1, Teardown.expected answered holds.1⟩,
      ?_⟩,
      ⟨answered.registry holds.1 stands.1 allowed.1.1,
        housed_kept answered holds.2 holds.1 stands.1 stands.2 allowed.1.1 allowed.1.2⟩,
      answered.standing_self holds.1 stands.1 allowed.1.1,
      standing_self answered holds.2 holds.1 stands.1 stands.2 allowed.1.1 allowed.1.2 allowed.2⟩
    cases op <;> trivial
  others allowed holds stands _ answered different held := by
    have answered := Deployment.answered answered
    exact ⟨answered.standing_other holds.1 stands.1 allowed.1.1 different held.1,
      standing_other answered stands.1 stands.2 allowed.1.1 allowed.1.2 different held.1 held.2⟩
  abandon {task before} _ holds := by
    have same : Deployment.Unanswered before (deployment.system.abandoned task before) :=
      .abandoned task before
    refine ⟨⟨same.registry holds.1, housed_unanswered same rfl .inl holds.2⟩,
      fun different held => ⟨same.stands held.1, ?_⟩⟩
    refine standing_unanswered same rfl .inl holds.2 (fun id locked => ?_) held.2
    exact (State.drop_eq_some task).mpr ⟨locked, different⟩
  world {move before state} prompt holds moved := by
    have same : Deployment.Unanswered before { before with state } := .nature moved
    have frame : state.creating = before.state.creating ∧
      state.hostLock = before.state.hostLock := by
      obtain ⟨now, vms, -, rfl⟩ := Deployment.nature_frame moved
      exact ⟨rfl, rfl⟩
    have appears {name : String} (member : name ∈ state.vms) : name ∈ before.state.vms ∨
        ∃ task creation, before.state.creating task = some creation ∧
          before.state.now ≤ creation.createdAt + deployment.grace ∧ creation.name = name := by
      cases move with
      | tick microseconds =>
          obtain rfl := Option.some.inj moved
          exact .inl member
      | vanishes lost =>
          obtain rfl := Option.some.inj moved
          exact .inl (Finset.mem_of_mem_erase member)
      | appears task =>
          obtain ⟨creation, creates, rfl⟩ := Option.map_eq_some_iff.mp moved
          rcases Finset.mem_insert.mp member with new | old
          · exact .inr ⟨task, creation, creates, prompt creation creates, new.symm⟩
          · exact .inl old
    refine ⟨⟨same.registry holds.1, housed_unanswered same frame.1 appears holds.2⟩,
      fun held => ⟨same.stands held.1, ?_⟩⟩
    exact standing_unanswered same frame.1 appears holds.2
      (fun id locked => frame.2 ▸ locked) held.2

/-- Committed rows with unique names, and no VM without a row. -/
structure Orderly (state : State ι) : Prop where
  atRest : state.AtRest
  names : ∀ {id other row twin}, state.hosts.get id = some row → state.hosts.get other = some twin →
    row.name = twin.name → id = other
  housed : ∀ {name}, name ∈ state.vms → ∃ id row, state.hosts.get id = some row ∧ row.name = name

/-- **No orphaned VM.**  In every run in which callers force no delete, every VM has a host row with
its name, and so has every `create_vm` call that can still make one: no delete, shed or reap removes
the row before. -/
theorem no_orphaned_vm {state : State ι} (orderly : Orderly state) {calls : ι → Option HostCall}
    (unforced : ∀ task id flags, calls task = some (.delete id flags) → flags.force = false)
    {config : Config ι Op.Answer (State ι) Failure Reply}
    (reach : deployment.system.Reaches deployment.prompt (deployment.start state calls) config) :
    (∀ {name}, name ∈ config.world.state.vms →
        ∃ id row, config.world.state.hosts.get id = some row ∧ row.name = name) ∧
      ∀ {task creation}, config.world.state.creating task = some creation →
        config.world.state.now ≤ creation.createdAt + deployment.grace →
          ∃ row, config.world.state.hosts.get creation.host = some row ∧
            row.name = creation.name := by
  have upholds : Upholds
      (((Provisioner.contract deployment).prod Deleter.contract).prod Reaper.contract)
      (fun world => Registry world ∧ Housed deployment world)
      (fun task phases world =>
        phases.1.1.Standing task world ∧ Standing deployment world task phases)
      (fun _ _ _ => True) config := by
    refine Upholds.reaches (upheld deployment) ⟨⟨orderly.atRest.registry, ?_⟩, ?_⟩ reach
    · refine ⟨orderly.names, orderly.housed, fun {task creation} creating => ?_, fun _ _ born => ?_⟩
      · have idle := orderly.atRest.creating task
        simp [show state.creating task = some creation from creating] at idle
      · obtain ⟨_, _, _, _, logged⟩ := born
        cases logged
    · intro task program started
      obtain ⟨call, called, rfl⟩ := Option.map_eq_some_iff.mp started
      refine ⟨(({}, { flags := call.deleteFlags }), { forced := call.deleteFlags.force }),
        ⟨.initial _ _, rfl, ?_, by simp, by simp, by simp, trivial⟩, ?_⟩
      · intro creation creating
        have idle := orderly.atRest.creating task
        simp [show state.creating task = some creation from creating] at idle
      · have follows := (call.follows deployment).prod (call.deletes deployment)
        have reaps := Reaper.program_follows deployment call fun id flags same =>
          unforced task id flags (same ▸ called)
        exact (follows.prod reaps).weaken fun _ _ _ => trivial
  have housed := upholds.inv.2
  refine ⟨housed.vms, fun creating grace => ?_⟩
  obtain ⟨-, -, row, present, named, -⟩ := housed.creations creating grace
  exact ⟨row, present, named⟩

/-- A create and a run of the janitor, over no rows. -/
def crash : Config Bool Op.Answer (State Bool) Failure Reply :=
  Deployment.sample.start (.resting 0 .empty .empty .empty) fun janitor =>
    some (if janitor then .reap else .create {} false)

/-- The process crashes during `create_vm`, the VM appears, and the janitor finds nothing. -/
def crashSchedule : List (Event Bool Choice (Nature Bool)) :=
  [.perform false (.number 1)] ++ .replicate 5 (.perform false .go) ++
    [.perform false (.environment [])] ++ .replicate 3 (.perform false .go) ++
    [.abandon false, .world (.tick 5), .world (.appears false), .perform true .go,
      .perform true (.numbers [])]

/-- The check of a schedule for `prompt`. -/
def isPrompt (config : Config Bool Op.Answer (State Bool) Failure Reply) :
    Event Bool Choice (Nature Bool) → Bool
  | .world (.appears task) => (config.world.state.creating task).all fun creation =>
      config.world.state.now ≤ creation.createdAt + Deployment.sample.grace
  | _ => true

theorem isPrompt_sound (config : Config Bool Op.Answer (State Bool) Failure Reply)
    (event : Event Bool Choice (Nature Bool)) (passes : isPrompt config event) :
    Deployment.sample.prompt.Allows config event := by
  cases event with
  | perform task choice => exact fun _ _ _ => trivial
  | abandon task => trivial
  | world move =>
      cases move with
      | tick | vanishes => trivial
      | appears task =>
          intro creation creates
          simpa [isPrompt, creates] using passes

theorem no_orphaned_vm_crash :
    ∃ config : Config Bool Op.Answer (State Bool) Failure Reply,
      Deployment.sample.system.Reaches Deployment.sample.prompt crash config ∧
        config.tasks false = none ∧ config.tasks true = some (.done (.reaped [])) ∧
          Host.buildName 1 ∈ config.world.state.vms ∧
            ∃ id row, config.world.state.hosts.get id = some row ∧ row.name = Host.buildName 1 := by
  have executed :
      (Deployment.sample.system.runChecked isPrompt crash crashSchedule).isSome := rfl
  have reach := System.reaches_runChecked isPrompt isPrompt_sound crashSchedule executed
  have orderly : Orderly (State.resting 0 .empty .empty .empty : State Bool) :=
    ⟨State.resting_atRest (by simp) (by simp), by simp [State.resting], by simp [State.resting]⟩
  have unforced (task : Bool) (id : HostId) (flags : DeleteFlags)
      (called : some (if task then HostCall.reap else .create {} false) =
        some (.delete id flags)) : flags.force = false := by
    cases task <;> simp at called
  have made := Finset.mem_insert_self (Host.buildName 1) ∅
  exact ⟨_, reach, rfl, rfl, made, (no_orphaned_vm orderly unforced reach).1 made⟩

end Orphans

end Drukbox
