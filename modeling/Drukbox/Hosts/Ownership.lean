import Drukbox.Hosts.ProvisionerFollows

/-!
# Who writes a host row

Every UUID is drawn once, and the task that drew it inserts its row and moves its status.  So what a
task knows of its own row, of a warm host and of a host that it obtained stays true of the
committed row, whatever the other tasks do.
-/

namespace Drukbox

open Await

variable {ι : Type} [DecidableEq ι]

/-- The runs of one deployment. -/
abbrev Deployment.World (ι : Type) := Await.World ι Op.Answer (State ι)

namespace Registry

/-- The task drew the UUID. -/
def Drew (task : ι) (id : ℕ) (world : Deployment.World ι) : Prop :=
  Entry.answered task .uuid7 id ∈ world.log

/-- A host with the id was inserted. -/
def Inserted (id : HostId) (world : Deployment.World ι) : Prop :=
  ∃ task host lease, host.id = id ∧
    Entry.answered task (.hosts (.insert host lease)) (.ok ()) ∈ world.log

/-- The id was used before the run, or a host was inserted with it. -/
def Spent (id : HostId) (world : Deployment.World ι) : Prop :=
  id ∈ world.state.issued ∧ ∀ task, Drew task id world → Inserted id world

/-- The committed row, if it is still there, is a version of this one and has its status. -/
def Agrees (row : Host) (world : Deployment.World ι) : Prop :=
  ∀ now, world.state.hosts.get row.id = some now → now.SameOrigin row ∧ now.status = row.status

end Registry

open Registry

/-- What holds of the ids of the hosts between any two steps. -/
structure Registry (world : Deployment.World ι) : Prop where
  host_id : ∀ {id host}, world.state.hosts.get id = some host → host.id = id
  spent : ∀ {id host}, world.state.hosts.get id = some host → Spent id world
  drew_issued : ∀ {task id}, Drew task id world → id ∈ world.state.issued
  born_issued : ∀ {id}, Inserted id world → id ∈ world.state.issued
  drew_unique : ∀ {task other id}, Drew task id world → Drew other id world → task = other

structure Provisioner.Standing (task : ι) (phase : Provisioner) (world : Deployment.World ι) :
    Prop where
  readings : ∀ now ∈ phase.readings, now ≤ world.state.now
  drawn : ∀ id, phase.drawn = some id → Drew task id world ∧ ¬ Inserted id world
  own : ∀ mine, phase.own = some mine →
    Drew task mine.id world ∧ Inserted mine.id world ∧ Agrees mine world
  candidate : ∀ row, phase.candidate = some row →
    row.status = .active ∧ Spent row.id world ∧ Agrees row world
  obtained : ∀ host, phase.obtained = some host →
    host.status = .active ∧ Spent host.id world ∧ Agrees host world

variable {deployment : Deployment} {task other : ι} {op : Op} {answer : op.Answer}
  {choice : Choice} {before after : Deployment.World ι} {phase standing : Provisioner}

/-- The world after an answered operation. -/
structure Deployment.Answered (deployment : Deployment) (task : ι) (op : Op) (answer : op.Answer)
    (before after : Deployment.World ι) : Prop where
  outcome : op.Outcome deployment task before.state answer after.state
  log : after.log = before.log ++ [.answered task op answer]

theorem Deployment.answered
    (answered : deployment.system.answer task op choice before = some (answer, after)) :
    deployment.Answered task op answer before after := by
  obtain ⟨performed, log⟩ := System.answer_eq_some.mp answered
  exact ⟨deployment.perform_outcome performed, log⟩

namespace Deployment.Answered

variable (answered : deployment.Answered task op answer before after)
include answered

theorem now : after.state.now = before.state.now :=
  answered.outcome.change.now

theorem mem_log {entry : Entry ι Op.Answer} :
    entry ∈ after.log ↔ entry ∈ before.log ∨ entry = .answered task op answer := by
  simp [answered.log]

theorem drew {id : ℕ} (drew : Drew other id before) : Drew other id after :=
  answered.mem_log.mpr (.inl drew)

theorem born {id : HostId} (born : Inserted id before) : Inserted id after := by
  obtain ⟨owner, host, lease, same, logged⟩ := born
  exact ⟨owner, host, lease, same, answered.mem_log.mpr (.inl logged)⟩

theorem drew_cases {id : ℕ} (drew : Drew other id after) :
    Drew other id before ∨
      (other = task ∧ id ∉ before.state.issued ∧ id ∈ after.state.issued) := by
  rcases answered.mem_log.mp drew with old | new
  · exact .inl old
  · obtain ⟨rfl, rfl, same⟩ := Entry.answered.inj new
    obtain rfl : id = answer := eq_of_heq same
    obtain ⟨fresh, issued⟩ := answered.outcome
    exact .inr ⟨rfl, fresh, by rw [issued]; exact Finset.mem_insert_self ..⟩

theorem spent {id : HostId} (spent : Spent id before) : Spent id after := by
  refine ⟨answered.outcome.change.issued spent.1, fun owner drew => ?_⟩
  rcases answered.drew_cases drew with old | ⟨-, fresh, -⟩
  · exact answered.born (spent.2 owner old)
  · exact absurd spent.1 fresh

theorem born_cases {id : HostId} (born : Inserted id after) :
    Inserted id before ∨ ∃ host lease, host.id = id ∧ op = .hosts (.insert host lease) ∧
      HEq answer (.ok () : Except Failure Unit) := by
  obtain ⟨owner, host, lease, same, logged⟩ := born
  rcases answered.mem_log.mp logged with old | new
  · exact .inl ⟨owner, host, lease, same, old⟩
  · obtain ⟨-, rfl, accepted⟩ := Entry.answered.inj new
    exact .inr ⟨host, lease, same, rfl, accepted.symm⟩

theorem hosts_get (id : HostId) :
    after.state.hosts.get id = op.hostEffect answer id (before.state.hosts.get id) :=
  answered.outcome.hosts_get id

/-- What a task knows of a row survives a step of any task that follows its contract. -/
theorem agrees (known : phase.Standing task before)
    (allowed : (Provisioner.contract deployment).allows phase op) {row : Host}
    (spent : Spent row.id before) (agrees : Agrees row before)
    (kept : row.status.settled ∨ (∀ mine, phase.own = some mine → mine.id ≠ row.id) ∨
      ∀ place columns, op = .hosts (.update place row.id columns) → columns.status = none) :
    Agrees row after := by
  intro now present
  rw [answered.hosts_get] at present
  cases op with
  | clock | uuid7 | advisoryLock | rollback | keys | templates | outside | vm =>
      exact agrees now present
  | hosts query =>
  cases query with
  | get | lock | expired | warm | excess | count | candidate => exact agrees now present
  | claim target serviceAccount instant expiresAt =>
      cases answer with
      | none => exact agrees now present
      | some claimed =>
      simp only [Op.hostEffect, HostQuery.effect] at present
      split at present
      · next same =>
          obtain ⟨-, host, was, -, rfl, -⟩ := answered.outcome
          obtain rfl : _ = now := by simpa using present
          rw [← same] at was
          obtain ⟨origin, status⟩ := agrees host was
          exact ⟨(Host.SameOrigin.set _ _).trans origin, status⟩
      · exact agrees now present
  | insert host lease =>
      cases answer with
      | error failure => exact agrees now present
      | ok =>
      simp only [Op.hostEffect, HostQuery.effect] at present
      split at present
      · next same =>
          obtain ⟨drew, unborn⟩ := known.drawn _ allowed.1
          exact absurd (spent.2 task (same ▸ drew)) (same ▸ unborn)
      · exact agrees now present
  | update place target columns =>
      cases answer with
      | false => exact agrees now present
      | true =>
      simp only [Op.hostEffect, HostQuery.effect] at present
      split at present
      · next same =>
          subst same
          obtain ⟨old, was, rfl⟩ := Option.map_eq_some_iff.mp present
          obtain ⟨origin, status⟩ := agrees old was
          refine ⟨(Host.SameOrigin.set _ _).trans origin, ?_⟩
          suffices silent : columns.status = none by simp [silent, status]
          have owned {mine : Host} (owns : phase.own = some mine) (same : mine.id = row.id)
              (unsettled : mine.status.settled = false) : columns.status = none := by
            rcases kept with settled | others | silent
            · have mine_status := ((known.own mine owns).2.2 old (by rw [same]; exact was)).2
              rw [← status, mine_status, unsettled] at settled
              contradiction
            · exact absurd same (others mine owns)
            · exact silent place columns rfl
          cases place with
          | progress =>
              obtain ⟨-, ⟨mine, owns, same, unsettled, -⟩, -⟩ := allowed
              exact owned owns same unsettled
          | failure =>
              obtain ⟨-, ⟨mine, owns, same, unsettled⟩, -⟩ := allowed
              exact owned owns same unsettled
          | renewal => exact allowed.1
          | disposal => exact allowed.1
          | deviceRelease => exact allowed.1
      · exact agrees now present
  | stamp target initial expiresAt updatedAt =>
      simp only [Op.hostEffect, HostQuery.effect] at present
      split at present
      · obtain ⟨old, was, rfl⟩ := Option.map_eq_some_iff.mp present
        obtain ⟨origin, status⟩ := agrees old was
        split
        · exact ⟨(Host.SameOrigin.set _ _).trans origin, status⟩
        · exact ⟨origin, status⟩
      · exact agrees now present
  | delete target =>
      simp only [Op.hostEffect, HostQuery.effect] at present
      split at present
      · contradiction
      · exact agrees now present

/-- An id that was used before belongs to no new row. -/
theorem absent (known : phase.Standing task before)
    (allowed : (Provisioner.contract deployment).allows phase op) {id : HostId}
    (spent : Spent id before) (absent : before.state.hosts.get id = none) :
    after.state.hosts.get id = none := by
  rw [answered.hosts_get, absent]
  cases op with
  | clock | uuid7 | advisoryLock | rollback | keys | templates | outside | vm => rfl
  | hosts query =>
  cases query with
  | get | lock | expired | warm | excess | count | candidate => rfl
  | claim target serviceAccount instant expiresAt =>
      cases answer with
      | none => rfl
      | some claimed =>
      simp only [Op.hostEffect, HostQuery.effect]
      split
      · next same =>
          obtain ⟨-, host, was, -⟩ := answered.outcome
          rw [← same, absent] at was
          contradiction
      · rfl
  | insert host lease =>
      cases answer with
      | error failure => rfl
      | ok =>
      simp only [Op.hostEffect, HostQuery.effect]
      split
      · next same =>
          obtain ⟨drew, unborn⟩ := known.drawn _ allowed.1
          exact absurd (spent.2 task (same ▸ drew)) (same ▸ unborn)
      · rfl
  | update place target columns =>
      cases answer <;> simp [Op.hostEffect, HostQuery.effect]
  | stamp target initial expiresAt updatedAt => simp [Op.hostEffect, HostQuery.effect]
  | delete target => simp [Op.hostEffect, HostQuery.effect]

/-- A row stays until its delete. -/
theorem present {id : HostId} (kept : op ≠ .hosts (.delete id))
    (present : (before.state.hosts.get id).isSome) : (after.state.hosts.get id).isSome := by
  rw [answered.hosts_get]
  cases op with
  | clock | uuid7 | advisoryLock | rollback | keys | templates | outside | vm => exact present
  | hosts query =>
  cases query with
  | get | lock | expired | warm | excess | count | candidate => exact present
  | claim target serviceAccount instant expiresAt =>
      cases answer with
      | none => exact present
      | some claimed =>
      simp only [Op.hostEffect, HostQuery.effect]
      split
      · rfl
      · exact present
  | insert host lease =>
      cases answer with
      | error failure => exact present
      | ok =>
      simp only [Op.hostEffect, HostQuery.effect]
      split
      · rfl
      · exact present
  | update place target columns =>
      cases answer with
      | false => exact present
      | true =>
      simp only [Op.hostEffect, HostQuery.effect]
      split <;> simpa using present
  | stamp target initial expiresAt updatedAt =>
      simp only [Op.hostEffect, HostQuery.effect]
      split <;> simpa using present
  | delete target =>
      simp only [Op.hostEffect, HostQuery.effect]
      split
      · next same => exact absurd (same ▸ rfl) kept
      · exact present

theorem registry (registry : Registry before) (known : phase.Standing task before)
    (allowed : (Provisioner.contract deployment).allows phase op) : Registry after := by
  have fresh {id : HostId} {host : Host} (present : after.state.hosts.get id = some host) :
      (∃ old, before.state.hosts.get id = some old ∧ host.SameOrigin old) ∨
        (host.id = id ∧ Drew task id before ∧ Inserted id after) := by
    rw [answered.hosts_get] at present
    cases op with
    | clock | uuid7 | advisoryLock | rollback | keys | templates | outside | vm =>
        exact .inl ⟨host, present, .refl host⟩
    | hosts query =>
    cases query with
    | get | lock | expired | warm | excess | count | candidate =>
        exact .inl ⟨host, present, .refl host⟩
    | claim target serviceAccount instant expiresAt =>
        cases answer with
        | none => exact .inl ⟨host, present, .refl host⟩
        | some claimed =>
        simp only [Op.hostEffect, HostQuery.effect] at present
        split at present
        · next same =>
            subst same
            obtain ⟨-, old, was, -, rfl, -⟩ := answered.outcome
            obtain rfl : _ = host := by simpa using present
            exact .inl ⟨old, was, .set _ _⟩
        · exact .inl ⟨host, present, .refl host⟩
    | insert newborn lease =>
        cases answer with
        | error failure => exact .inl ⟨host, present, .refl host⟩
        | ok =>
        simp only [Op.hostEffect, HostQuery.effect] at present
        split at present
        · next same =>
            subst same
            obtain rfl : newborn = host := by simpa using present
            exact .inr ⟨rfl, (known.drawn _ allowed.1).1,
              task, newborn, lease, rfl, answered.mem_log.mpr (.inr rfl)⟩
        · exact .inl ⟨host, present, .refl host⟩
    | update place target columns =>
        cases answer with
        | false => exact .inl ⟨host, present, .refl host⟩
        | true =>
        simp only [Op.hostEffect, HostQuery.effect] at present
        split at present
        · obtain ⟨old, was, rfl⟩ := Option.map_eq_some_iff.mp present
          exact .inl ⟨old, was, .set _ _⟩
        · exact .inl ⟨host, present, .refl host⟩
    | stamp target initial expiresAt updatedAt =>
        simp only [Op.hostEffect, HostQuery.effect] at present
        split at present
        · obtain ⟨old, was, rfl⟩ := Option.map_eq_some_iff.mp present
          refine .inl ⟨old, was, ?_⟩
          split
          · exact .set _ _
          · exact .refl old
        · exact .inl ⟨host, present, .refl host⟩
    | delete target =>
        simp only [Op.hostEffect, HostQuery.effect] at present
        split at present
        · contradiction
        · exact .inl ⟨host, present, .refl host⟩
  refine ⟨fun {id host} present => ?_, fun {id host} present => ?_, fun {owner id} drew => ?_,
    fun {id} born => ?_, fun {owner rival id} drew drew_too => ?_⟩
  · rcases fresh present with ⟨old, was, origin⟩ | ⟨same, -, -⟩
    · exact origin.id.trans (registry.host_id was)
    · exact same
  · rcases fresh present with ⟨old, was, -⟩ | ⟨-, drew, born⟩
    · exact answered.spent (registry.spent was)
    · exact ⟨answered.outcome.change.issued (registry.drew_issued drew), fun _ _ => born⟩
  · rcases answered.drew_cases drew with old | ⟨-, -, issued⟩
    · exact answered.outcome.change.issued (registry.drew_issued old)
    · exact issued
  · refine answered.outcome.change.issued ?_
    rcases answered.born_cases born with old | ⟨host, lease, same, rfl, -⟩
    · exact registry.born_issued old
    · exact registry.drew_issued (same ▸ (known.drawn _ allowed.1).1)
  · rcases answered.drew_cases drew with old | ⟨rfl, unissued, -⟩ <;>
    rcases answered.drew_cases drew_too with old_too | ⟨rfl, unissued_too, -⟩
    · exact registry.drew_unique old old_too
    · exact absurd (registry.drew_issued old) unissued_too
    · exact absurd (registry.drew_issued old_too) unissued
    · rfl

theorem standing_other (registry : Registry before) (known : phase.Standing task before)
    (allowed : (Provisioner.contract deployment).allows phase op) (different : other ≠ task)
    (stands : standing.Standing other before) : standing.Standing other after := by
  refine ⟨fun now member => ?_, fun id drawn => ?_, fun mine owns => ?_, fun row found => ?_,
    fun host obtains => ?_⟩
  · exact answered.now ▸ stands.readings now member
  · obtain ⟨drew, unborn⟩ := stands.drawn id drawn
    refine ⟨answered.drew drew, fun born => ?_⟩
    rcases answered.born_cases born with old | ⟨host, lease, same, rfl, -⟩
    · exact unborn old
    · exact different (registry.drew_unique drew (same ▸ (known.drawn _ allowed.1).1))
  · obtain ⟨drew, born, agrees⟩ := stands.own mine owns
    refine ⟨answered.drew drew, answered.born born, answered.agrees known allowed
      ⟨registry.drew_issued drew, fun _ _ => born⟩ agrees
        (.inr (.inl fun its owns same => ?_))⟩
    exact different (registry.drew_unique drew (same ▸ (known.own its owns).1))
  · obtain ⟨active, spent, agrees⟩ := stands.candidate row found
    exact ⟨active, answered.spent spent,
      answered.agrees known allowed spent agrees (.inl (by rw [active]; rfl))⟩
  · obtain ⟨active, spent, agrees⟩ := stands.obtained host obtains
    exact ⟨active, answered.spent spent,
      answered.agrees known allowed spent agrees (.inl (by rw [active]; rfl))⟩

theorem expected (registry : Registry before) (known : phase.Standing task before)
    (allowed : (Provisioner.contract deployment).allows phase op) :
    (Provisioner.contract deployment).expects phase op answer := by
  cases op with
  | clock | uuid7 | advisoryLock | rollback | keys | templates | outside | vm => trivial
  | hosts query =>
  cases query with
  | get id =>
      cases answer with
      | none => trivial
      | some row =>
      obtain ⟨found, -⟩ := answered.outcome
      have present := found.symm
      refine ⟨registry.host_id present, fun mine owns same => ?_, fun host obtains same => ?_⟩
      · exact (known.own mine owns).2.2 row (same ▸ present)
      · exact ((known.obtained host obtains).2.2 row (same ▸ present)).1
  | lock id =>
      cases answer with
      | none => trivial
      | some row => exact registry.host_id answered.outcome.2.1
  | candidate provider now createdFrom =>
      cases answer with
      | none => trivial
      | some row => exact answered.outcome.2.1
  | claim id serviceAccount now expiresAt =>
      cases answer with
      | none => trivial
      | some claimed =>
      obtain ⟨-, host, was, -, rfl, -⟩ := answered.outcome
      have host_id : host.id = id := registry.host_id was
      refine ⟨host_id, fun warm found => ?_⟩
      obtain ⟨-, row, found_too, same⟩ := allowed
      obtain rfl : warm = row := Option.some.inj (found.symm.trans found_too)
      exact (Host.SameOrigin.set _ _).trans ((known.candidate warm found).2.2 host (same ▸ was)).1
  | expired | warm | excess | count | insert | update | stamp | delete => trivial

theorem standing_self (registry : Registry before) (known : phase.Standing task before)
    (allowed : (Provisioner.contract deployment).allows phase op) :
    ((Provisioner.contract deployment).next phase op answer).Standing task after := by
  have readings (now : ℤ) (member : now ∈ phase.readings) : now ≤ after.state.now :=
    answered.now ▸ known.readings now member
  have active (row : Host)
      (was : row.status = .active ∧ Spent row.id before ∧ Agrees row before) :
      row.status = .active ∧ Spent row.id after ∧ Agrees row after :=
    ⟨was.1, answered.spent was.2.1,
      answered.agrees known allowed was.2.1 was.2.2 (.inl (by rw [was.1]; rfl))⟩
  have candidate (row : Host) (found : phase.candidate = some row) :=
    active row (known.candidate row found)
  have obtained (row : Host) (found : phase.obtained = some row) :=
    active row (known.obtained row found)
  have drawn (other : ∀ host lease, op ≠ .hosts (.insert host lease)) (id : HostId)
      (drawn : phase.drawn = some id) : Drew task id after ∧ ¬ Inserted id after := by
    obtain ⟨drew, unborn⟩ := known.drawn id drawn
    refine ⟨answered.drew drew, fun born => ?_⟩
    rcases answered.born_cases born with old | ⟨host, lease, -, same, -⟩
    · exact unborn old
    · exact other host lease same
  have own (silent : ∀ place id columns, op = .hosts (.update place id columns) →
      columns.status = none) (mine : Host) (owns : phase.own = some mine) :
      Drew task mine.id after ∧ Inserted mine.id after ∧ Agrees mine after := by
    obtain ⟨drew, born, agrees⟩ := known.own mine owns
    exact ⟨answered.drew drew, answered.born born, answered.agrees known allowed
      ⟨registry.drew_issued drew, fun _ _ => born⟩ agrees
      (.inr (.inr fun place columns same => silent place _ columns same))⟩
  have unchanged (other : ∀ host lease, op ≠ .hosts (.insert host lease))
      (silent : ∀ place id columns, op = .hosts (.update place id columns) →
        columns.status = none) : phase.Standing task after :=
    ⟨readings, drawn other, own silent, candidate, obtained⟩
  have moved {place : HostCommit} {target : HostId} {columns : HostColumns} (mine : Host)
      (owns : phase.own = some mine) (same : mine.id = target)
      (written : op = .hosts (.update place target columns) ∧ HEq answer true) :
      Provisioner.Standing task { phase with own := phase.own.map (·.set columns) } after := by
    obtain ⟨rfl, rfl⟩ := written
    refine ⟨readings, drawn (by simp), fun row owned => ?_, candidate, obtained⟩
    obtain rfl : mine.set columns = row := by simpa [owns] using owned
    obtain ⟨drew, born, agrees⟩ := known.own mine owns
    refine ⟨answered.drew drew, answered.born born, fun now present => ?_⟩
    rw [answered.hosts_get] at present
    simp only [Host.set_id, Op.hostEffect, HostQuery.effect, same, if_true] at present
    obtain ⟨old, was, rfl⟩ := Option.map_eq_some_iff.mp present
    obtain ⟨origin, status⟩ := agrees old (same ▸ was)
    exact ⟨(Host.SameOrigin.set _ _).trans (origin.trans (Host.SameOrigin.set _ _).symm),
      by simp [status]⟩
  have refused (other : ∀ host lease, op ≠ .hosts (.insert host lease))
      (same : after.state = before.state) : phase.Standing task after := by
    refine ⟨readings, drawn other, fun mine owns => ?_, candidate, obtained⟩
    obtain ⟨drew, born, agrees⟩ := known.own mine owns
    exact ⟨answered.drew drew, answered.born born,
      fun current present => agrees current (same ▸ present)⟩
  cases op with
  | clock =>
      refine ⟨fun now member => ?_, drawn (by simp), own (by simp), candidate, obtained⟩
      rcases List.mem_cons.mp member with rfl | member
      · rw [answered.now]
        exact answered.outcome.1.le
      · exact readings now member
  | uuid7 =>
      refine ⟨readings, fun id drew => ?_, own (by simp), candidate, obtained⟩
      obtain rfl : answer = id := by simpa [Provisioner.contract] using drew
      refine ⟨answered.mem_log.mpr (.inr rfl), fun born => ?_⟩
      rcases answered.born_cases born with old | ⟨host, lease, -, same, -⟩
      · exact answered.outcome.1 (registry.born_issued old)
      · contradiction
  | advisoryLock | rollback | keys | templates | outside => exact unchanged (by simp) (by simp)
  | vm call =>
      cases call with
      | start | finish => exact ⟨readings, drawn (by simp), own (by simp), candidate, obtained⟩
      | delete => exact unchanged (by simp) (by simp)
  | hosts query =>
  cases query with
  | get | lock | expired | warm | excess | count | delete => exact unchanged (by simp) (by simp)
  | candidate provider now createdFrom =>
      refine ⟨readings, drawn (by simp), own (by simp), fun row found => ?_, obtained⟩
      obtain rfl : answer = some row := found
      obtain ⟨⟨id, present⟩, claimable, same⟩ := answered.outcome
      have row_id : row.id = id := registry.host_id present
      subst row_id
      refine ⟨?_, answered.spent (registry.spent present), fun current now_present => ?_⟩
      · simp only [Host.claimable, Bool.and_eq_true, beq_iff_eq] at claimable
        exact claimable.1.1.2
      · rw [same, present] at now_present
        obtain rfl := Option.some.inj now_present
        exact ⟨.refl _, rfl⟩
  | claim target serviceAccount instant expiresAt =>
      cases answer with
      | none => exact unchanged (by simp) (by simp)
      | some claimed =>
      refine ⟨readings, drawn (by simp), own (by simp), candidate, fun host obtains => ?_⟩
      obtain rfl : claimed = host := by
        simpa [Provisioner.contract, Provisioner.nextHosts] using obtains
      obtain ⟨-, host, was, -, rfl, same⟩ := answered.outcome
      obtain ⟨-, row, found, row_id⟩ := allowed
      have host_id : host.id = target := registry.host_id was
      obtain ⟨active, spent, agrees⟩ := known.candidate row found
      have status := (agrees host (row_id ▸ was)).2
      refine ⟨status.trans active, answered.spent (registry.spent (host_id.symm ▸ was)),
        fun current present => ?_⟩
      rw [same] at present
      obtain rfl : _ = current := by simpa [host_id] using present
      exact ⟨.refl _, rfl⟩
  | insert newborn lease =>
      cases answer with
      | error failure =>
          refine ⟨readings, fun id was_drawn => ?_, own (by simp), candidate, obtained⟩
          obtain ⟨drew, unborn⟩ := known.drawn id was_drawn
          refine ⟨answered.drew drew, fun born => ?_⟩
          obtain ⟨owner, host, lease, same, logged⟩ := born
          rcases answered.mem_log.mp logged with old | new
          · exact unborn ⟨owner, host, lease, same, old⟩
          · obtain ⟨-, -, same⟩ := Entry.answered.inj new
            cases same
      | ok =>
          have born : Inserted newborn.id after :=
            ⟨task, newborn, lease, rfl, answered.mem_log.mpr (.inr rfl)⟩
          refine ⟨readings, fun id drawn => ?_, fun mine owns => ?_, candidate, obtained⟩
          · simp [Provisioner.contract, Provisioner.nextHosts] at drawn
          · obtain rfl : newborn = mine := by
              simpa [Provisioner.contract, Provisioner.nextHosts] using owns
            refine ⟨answered.drew (known.drawn _ allowed.1).1, born, fun current present => ?_⟩
            rw [answered.hosts_get] at present
            obtain rfl : newborn = current := by
              simpa [Op.hostEffect, HostQuery.effect] using present
            exact ⟨.refl _, rfl⟩
  | update place target columns =>
      cases place with
      | progress =>
          obtain ⟨-, ⟨mine, owns, same, -⟩, -⟩ := allowed
          cases answer with
          | true => exact moved mine owns same ⟨rfl, .rfl⟩
          | false => exact refused (by simp) answered.outcome.2
      | failure =>
          obtain ⟨-, ⟨mine, owns, same, -⟩, -⟩ := allowed
          cases answer with
          | true => exact moved mine owns same ⟨rfl, .rfl⟩
          | false => exact refused (by simp) answered.outcome.2
      | renewal | disposal | deviceRelease =>
          have silent := allowed.1
          exact unchanged (by simp) (by rintro _ _ _ ⟨⟩; exact silent)
  | stamp target initial expiresAt updatedAt =>
      have kept := own (by simp)
      refine ⟨readings, drawn (by simp), kept, candidate, fun host obtains => ?_⟩
      obtain ⟨mine, owns, -, active, -⟩ := allowed
      have obtains : phase.own = some host := obtains
      obtain rfl : mine = host := Option.some.inj (owns.symm.trans obtains)
      obtain ⟨drew, born, agrees⟩ := kept mine owns
      exact ⟨active, ⟨answered.outcome.change.issued (registry.drew_issued (known.own mine owns).1),
        fun _ _ => born⟩, agrees⟩

end Deployment.Answered

/-- A step without an answer: the host rows and the answers are as before. -/
structure Deployment.Unanswered (before after : Deployment.World ι) : Prop where
  hosts : after.state.hosts = before.state.hosts
  issued : after.state.issued = before.state.issued
  now : before.state.now ≤ after.state.now
  log : ∀ {task op} {answer : op.Answer},
    Entry.answered task op answer ∈ after.log ↔ Entry.answered task op answer ∈ before.log

namespace Deployment.Unanswered

omit [DecidableEq ι]

theorem abandoned [DecidableEq ι] (task : ι) (before : Deployment.World ι) :
    Unanswered before (deployment.system.abandoned task before) :=
  ⟨rfl, rfl, le_refl _, by simp [System.abandoned]⟩

theorem nature {move : Nature ι} {state : State ι}
    (moved : Deployment.nature move before.state = some state) :
    Unanswered before { before with state } := by
  obtain ⟨now, vms, passes, rfl⟩ := Deployment.nature_frame moved
  exact ⟨rfl, rfl, passes, .rfl⟩

variable (same : Unanswered before after)
include same

theorem drew {id : ℕ} : Drew task id after ↔ Drew task id before :=
  same.log

theorem born {id : HostId} : Inserted id after ↔ Inserted id before := by
  simp only [Inserted, same.log]

theorem spent {id : HostId} : Spent id after ↔ Spent id before := by
  simp only [Spent, same.issued, same.drew, same.born]

theorem agrees {row : Host} : Agrees row after ↔ Agrees row before := by
  simp only [Agrees, same.hosts]

theorem registry (registry : Registry before) : Registry after where
  host_id present := registry.host_id (same.hosts ▸ present)
  spent present := same.spent.mpr (registry.spent (same.hosts ▸ present))
  drew_issued drew := same.issued ▸ registry.drew_issued (same.drew.mp drew)
  born_issued born := same.issued ▸ registry.born_issued (same.born.mp born)
  drew_unique drew drew_too := registry.drew_unique (same.drew.mp drew) (same.drew.mp drew_too)

theorem stands (stands : phase.Standing task before) : phase.Standing task after where
  readings now member := (stands.readings now member).trans same.now
  drawn id drawn := by
    rw [same.drew, same.born]
    exact stands.drawn id drawn
  own mine owns := by
    rw [same.drew, same.born, same.agrees]
    exact stands.own mine owns
  candidate row found := by
    rw [same.spent, same.agrees]
    exact stands.candidate row found
  obtained host obtains := by
    rw [same.spent, same.agrees]
    exact stands.obtained host obtains

end Deployment.Unanswered

/-- Every run keeps the registry and what each task knows, whatever happens to the tasks. -/
theorem Provisioner.upheld (deployment : Deployment) :
    Upheld (deployment.system : System ι _ _ _ _) {} (Provisioner.contract deployment) Registry
      fun task phase world => phase.Standing task world where
  perform allowed registry known _ answered :=
    have answered := Deployment.answered answered
    ⟨answered.expected registry known allowed, answered.registry registry known allowed,
      answered.standing_self registry known allowed⟩
  others allowed registry known _ answered different stands :=
    (Deployment.answered answered).standing_other registry known allowed different stands
  abandon _ registry :=
    have same := Deployment.Unanswered.abandoned _ _
    ⟨same.registry registry, fun _ stands => same.stands stands⟩
  world _ registry moved :=
    have same := Deployment.Unanswered.nature moved
    ⟨same.registry registry, fun stands => same.stands stands⟩

/-- A run begins with committed rows: no transaction is open and no `create_vm` call is out. -/
structure State.AtRest (state : State ι) : Prop where
  host_id : ∀ {id host}, state.hosts.get id = some host → host.id = id
  host_issued : ∀ {id host}, state.hosts.get id = some host → id ∈ state.issued
  record_issued : ∀ {key record}, state.keys.get key = some record → record.hostId ∈ state.issued
  hostLock : ∀ id, state.hostLock id = none
  templateLock : ∀ id, state.templateLock id = none
  advisory : ∀ lock, state.advisory lock = none
  creating : ∀ task, state.creating task = none

/-- A deployment with one provider, whose hosts join the tailnet. -/
def Deployment.sample : Deployment where
  settings :=
    { defaultHostProvider := "exe"
      secretsProxyUrl := ""
      secretsProxyCaFile := ""
      idempotencyKeyTtlHours := 24
      provisioningGraceSeconds := 900
      templateBuildTimeout := 1800
      templateFailedRetention := 3600
      templateUnusedTtl := 86400
      leaseDefaultTtl := 3600
      poolSizes := []
      hostLimits := []
      hostLimitPerServiceAccount := some 1
      poolSize := 1
      poolHostMaxAgeHours := 24
      poolMaxCreatesPerTick := 1 }
  providers :=
    [{ name := "exe"
       defaultImage := "ubuntu"
       supportsInstanceType := false
       supportsDiskGb := false
       tailnet := true
       gateway := false
       buildsTemplates := true
       needsValue := true
       maxLifetime := none }]
  tailnet := some "tail.net"
  gatewaySshHost := ""
  gatewaySshPort := 22
  bootstrapScript := ""
  hashtext _ := 0
  sha256 text := text

/-- An active host of that deployment. -/
def Host.sample (id : HostId) : Host where
  id
  env := []
  secrets := []
  name := Host.buildName id
  serviceAccount := none
  status := .active
  provider := "exe"
  image := "ubuntu"
  instanceType := none
  diskGb := none
  tailscaleDeviceId := some "device"
  createdAt := 0
  updatedAt := 0
  expiresAt := none
  poolMember := true

/-- Any number of tasks of the host service, over any committed rows. -/
def Deployment.start (deployment : Deployment) (state : State ι) (calls : ι → Option HostCall) :
    Config ι Op.Answer (State ι) Failure Reply where
  world := { state, log := [] }
  tasks task := (calls task).map (HostCall.program deployment)

/-- Committed rows, between all transactions. -/
def State.resting (now : ℤ) (hosts : Table HostId Host) (keys : Table String IdempotencyKey)
    (templates : Table TemplateId Template) : State ι where
  now
  issued := hosts.keys
  hosts
  keys
  templates
  hostLock _ := none
  templateLock _ := none
  advisory _ := none
  vms := ∅
  creating _ := none

omit [DecidableEq ι] in
theorem State.resting_atRest {now : ℤ} {hosts : Table HostId Host}
    {keys : Table String IdempotencyKey} {templates : Table TemplateId Template}
    (host_id : ∀ {id host}, hosts.get id = some host → host.id = id)
    (record_host : ∀ {key record}, keys.get key = some record → record.hostId ∈ hosts.keys) :
    (State.resting now hosts keys templates : State ι).AtRest where
  host_id present := host_id present
  host_issued present := (hosts.mem_keys _).mpr (Option.isSome_of_eq_some present)
  record_issued present := record_host present
  hostLock _ := rfl
  templateLock _ := rfl
  advisory _ := rfl
  creating _ := rfl

omit [DecidableEq ι] in
theorem State.AtRest.registry {state : State ι} (rest : state.AtRest) :
    Registry { state, log := [] } where
  host_id := rest.host_id
  spent present := ⟨rest.host_issued present, fun _ drew => by simp [Drew] at drew⟩
  drew_issued drew := by simp [Drew] at drew
  born_issued born := by simp [Inserted] at born
  drew_unique drew := by simp [Drew] at drew

omit [DecidableEq ι] in
theorem Provisioner.Standing.initial (task : ι) (world : Deployment.World ι) :
    Provisioner.Standing task {} world where
  readings := by simp
  drawn := by simp
  own := by simp
  candidate := by simp
  obtained := by simp

end Drukbox
