import Drukbox.Database.RowSteps
import Drukbox.Hosts.Ownership
import Drukbox.Hosts.PoolClaims
import Drukbox.Hosts.Quota

/-!
# Host limits

The count and what it admits share one transaction, whose advisory lock keeps every other admission
to the scope out.  So a limit holds in every run in which no commit makes a dead host live again.
-/

namespace Drukbox

open Await HostService Registry

namespace Quota

variable {ι : Type} [DecidableEq ι]

/-- The live hosts of a scope. -/
def live (scope : CountScope) (state : State ι) : ℕ :=
  state.hosts.count fun host => scope.counts host && host.live state.now

/-- The step writes columns of the row with which it is live. -/
def Revives (now : ℤ) (row : Host) : Op → Prop
  | .hosts (.claim id serviceAccount instant expiresAt) =>
      id = row.id ∧ row.claimedAt = none ∧
        (row.set (Host.claimColumns serviceAccount instant expiresAt)).live now
  | .hosts (.update _ id columns) => id = row.id ∧ (row.set columns).live now
  | .hosts (.stamp id initial expiresAt updatedAt) =>
      id = row.id ∧ row.expiresAt = some initial ∧
        (row.set { expiresAt := some expiresAt, updatedAt }).live now
  | _ => False

/-- No commit makes a host of the scope live again that has expired or failed. -/
def unrevived (scope : CountScope) : Condition ι Op.Answer (State ι) (Nature ι) where
  perform _ op world := ∀ row, world.state.hosts.get row.id = some row → scope.counts row →
    row.live world.state.now = false → ¬ Revives world.state.now row op

/-- No commit makes a dead host of the account live again, and a claim for the account takes its
warm host. -/
def uncontested (account : String) : Condition ι Op.Answer (State ι) (Nature ι) where
  perform task op world := (unrevived (.serviceAccount account)).perform task op world ∧
    ∀ id now expiresAt, op = .hosts (.claim id (some account) now expiresAt) →
      ∃ row, world.state.hosts.get id = some row ∧ row.claimedAt = none

/-- The answer brings a host into the scope. -/
def Admits (scope : CountScope) : (op : Op) → op.Answer → Prop
  | .hosts (.insert host _), .ok () => scope.counts host
  | .hosts (.claim _ account _ _), some _ => scope.claims account
  | _, _ => False

structure Standing (deployment : Deployment) (scope : CountScope) (limit : ℕ) (task : ι)
    (phase : Applicant) (world : Deployment.World ι) : Prop where
  readings : ∀ now ∈ phase.readings, now ≤ world.state.now
  locked : phase.locked → world.state.advisory (deployment.hashtext scope.key) = some task
  room : phase.room → phase.locked ∧ live scope world.state < limit

def Limited (scope : CountScope) (limit : ℕ) (world : Deployment.World ι) : Prop :=
  Registry world ∧ live scope world.state ≤ limit

/-- What a task knows of its own row and of the limit is so. -/
def Knows (deployment : Deployment) (scope : CountScope) (limit : ℕ) (task : ι)
    (phases : Provisioner × Applicant) (world : Deployment.World ι) : Prop :=
  phases.1.Standing task world ∧ Standing deployment scope limit task phases.2 world

omit [DecidableEq ι] in
theorem Knows.initial {deployment : Deployment} {scope : CountScope} {limit : ℕ} (task : ι)
    (world : Deployment.World ι) : Knows deployment scope limit task ({}, {}) world where
  left := .initial task world
  right := { readings := by simp, locked := by simp, room := by simp }

variable {deployment : Deployment} {scope : CountScope} {limit : ℕ} {task other : ι} {op : Op}
  {answer : op.Answer} {before after : Deployment.World ι} {actor : Provisioner}
  {phase standing : Applicant} {id : HostId} {row : Host}

theorem live_earlier {now later : ℤ} (passes : now ≤ later) (alive : row.live later) :
    row.live now := by
  simp only [Host.live, Host.unexpired, Bool.and_eq_true] at alive ⊢
  refine ⟨alive.1, ?_⟩
  have unexpired := alive.2
  split at unexpired
  · rfl
  · simp only [decide_eq_true_eq] at unexpired ⊢
    omega

omit [DecidableEq ι] in
theorem live_of_later {state later : State ι} (hosts : later.hosts = state.hosts)
    (passes : state.now ≤ later.now) : live scope later ≤ live scope state := by
  apply Table.count_le
  intro id row present counted
  simp only [Bool.and_eq_true] at counted
  refine ⟨row, hosts ▸ present, ?_⟩
  simp [counted.1, live_earlier passes counted.2]

/-- Where an update gives the host to no account, it was in the scope before. -/
theorem counts_of_set {columns : HostColumns}
    (leaves : ∀ account, columns.serviceAccount ≠ some (some account))
    (counts : scope.counts (row.set columns)) : scope.counts row := by
  cases scope with
  | provider name => exact counts
  | serviceAccount name =>
      cases given : columns.serviceAccount with
      | none => simpa [CountScope.counts, given] using counts
      | some account =>
          cases account with
          | none => simp [CountScope.counts, given] at counts
          | some account => exact absurd given (leaves account)

/-- Every update that a task may make gives its host to no account. -/
theorem update_leaves {place : HostCommit} {columns : HostColumns}
    (allowed : (Provisioner.contract deployment).allows actor (.hosts (.update place id columns)))
    (admits : (contract scope limit).allows phase (.hosts (.update place id columns)))
    (account : String) : columns.serviceAccount ≠ some (some account) := by
  cases place with
  | progress => simp [allowed.2.2.2.2]
  | failure => simp [allowed.2.2.2.2.1]
  | renewal => simp [allowed.2.2]
  | deviceRelease => simp [allowed.2.2.1]
  | disposal => exact admits account

section Answered

variable (answered : deployment.Answered task op answer before after)
include answered

/-- A live host of the scope was one before, or the answer brings it in. -/
theorem live_row (registry : Registry before)
    (allowed : (Provisioner.contract deployment).allows actor op)
    (admits : (contract scope limit).allows phase op)
    (unrevives : (unrevived scope).perform task op before)
    (present : after.state.hosts.get id = some row) (counts : scope.counts row)
    (alive : row.live before.state.now) :
    (∃ old, before.state.hosts.get id = some old ∧ scope.counts old ∧ old.live before.state.now) ∨
      Admits scope op answer := by
  have revived {old : Host} (was : before.state.hosts.get id = some old)
      (counted : scope.counts old) (revives : old.id = id → Revives before.state.now old op) :
      ∃ old, before.state.hosts.get id = some old ∧ scope.counts old ∧
        old.live before.state.now := by
    refine ⟨old, was, counted, ?_⟩
    have old_id := registry.host_id was
    by_contra dead
    have still : old.live before.state.now = false := by simpa using dead
    exact unrevives old (by rw [old_id]; exact was) counted still (revives old_id)
  have step := answered.outcome.rowStep present
  cases step with
  | kept was => exact .inl ⟨row, was, counts, alive⟩
  | insert => exact .inr counts
  | @update place columns old was =>
      have counted := counts_of_set (update_leaves allowed admits) counts
      exact .inl (revived was counted fun same => ⟨same.symm, alive⟩)
  | stamp was free matched =>
      have counted := counts_of_set (by simp) counts
      exact .inl (revived was counted fun same => ⟨same.symm, matched, alive⟩)
  | @claim account now expiresAt old was _ unclaimed =>
      by_cases claims : scope.claims account
      · exact .inr claims
      · refine .inl (revived was ?_ fun same => ⟨same.symm, unclaimed, alive⟩)
        cases scope with
        | provider name => exact counts
        | serviceAccount name =>
            simp [CountScope.counts, CountScope.claims, Host.claimColumns] at counts claims
            exact absurd counts claims

/-- Without an admission the live hosts of the scope are no more. -/
theorem live_le (registry : Registry before)
    (allowed : (Provisioner.contract deployment).allows actor op)
    (admits : (contract scope limit).allows phase op)
    (unrevives : (unrevived scope).perform task op before)
    (quiet : ¬ Admits scope op answer) : live scope after.state ≤ live scope before.state := by
  apply Table.count_le
  intro id row present counted
  simp only [Bool.and_eq_true] at counted
  rw [answered.now] at counted
  rcases live_row answered registry allowed admits unrevives present counted.1 counted.2 with
    ⟨old, was, counts, alive⟩ | admitted
  · exact ⟨old, was, by simp [counts, alive]⟩
  · exact absurd admitted quiet

/-- An admission adds one at most. -/
theorem live_le_succ (admitted : Admits scope op answer) :
    live scope after.state ≤ live scope before.state + 1 := by
  have others (key : HostId)
      (same : ∀ other, other ≠ key →
        after.state.hosts.get other = before.state.hosts.get other) :
      live scope after.state ≤ live scope before.state + 1 := by
    apply Table.count_le_succ key
    intro other row different present counted
    rw [answered.now] at counted
    exact ⟨row, same other different ▸ present, counted⟩
  cases op with
  | hosts query =>
      cases query with
      | insert host lease =>
          cases answer with
          | error failure => exact admitted.elim
          | ok =>
              refine others host.id fun other different => ?_
              rw [answered.hosts_get]
              simp [Op.hostEffect, HostQuery.effect, different]
      | claim target account now expiresAt =>
          cases answer with
          | none => exact admitted.elim
          | some claimed =>
              refine others target fun other different => ?_
              rw [answered.hosts_get]
              simp [Op.hostEffect, HostQuery.effect, different]
      | get | lock | expired | warm | excess | count | candidate | update | stamp | delete =>
          exact admitted.elim
  | clock | uuid7 | advisoryLock | rollback | keys | templates | outside | vm =>
      exact admitted.elim

omit answered in
/-- Only a task that counted room admits. -/
theorem room_of_admits (admits : (contract scope limit).allows phase op)
    (admitted : Admits scope op answer) : phase.room := by
  cases op with
  | hosts query =>
      cases query with
      | insert host lease =>
          cases answer with
          | error failure => exact admitted.elim
          | ok => exact admits admitted
      | claim target account now expiresAt =>
          cases answer with
          | none => exact admitted.elim
          | some claimed => exact admits admitted
      | get | lock | expired | warm | excess | count | candidate | update | stamp | delete =>
          exact admitted.elim
  | clock | uuid7 | advisoryLock | rollback | keys | templates | outside | vm =>
      exact admitted.elim

omit answered in
/-- An admission ends the transaction. -/
theorem ends_of_admits (admitted : Admits scope op answer) : ends op answer = true := by
  cases op with
  | hosts query =>
      cases query with
      | insert host lease =>
          cases answer with
          | error failure => exact admitted.elim
          | ok => rfl
      | claim => rfl
      | get | lock | expired | warm | excess | count | candidate | update | stamp | delete =>
          exact admitted.elim
  | clock | uuid7 | advisoryLock | rollback | keys | templates | outside | vm =>
      exact admitted.elim

/-- The limit holds. -/
theorem limit_kept (registry : Registry before)
    (allowed : (Provisioner.contract deployment).allows actor op)
    (admits : (contract scope limit).allows phase op)
    (unrevives : (unrevived scope).perform task op before)
    (stands : Standing deployment scope limit task phase before)
    (bound : live scope before.state ≤ limit) : live scope after.state ≤ limit := by
  by_cases admitted : Admits scope op answer
  · have room := (stands.room (room_of_admits admits admitted)).2
    have more := live_le_succ answered admitted
    omega
  · exact (live_le answered registry allowed admits unrevives admitted).trans bound

theorem advisory_other (different : other ≠ task) (key : ℤ)
    (held : before.state.advisory key = some other) : after.state.advisory key = some other :=
  (answered.outcome.change.advisoryOf different key).mpr held

theorem advisory_self (open_ : ends op answer = false) (key : ℤ)
    (held : before.state.advisory key = some task) : after.state.advisory key = some task := by
  have outcome := answered.outcome
  cases op with
  | clock => rwa [outcome.2]
  | uuid7 => rwa [outcome.2]
  | outside call => rwa [show after.state = _ from outcome]
  | rollback => cases open_
  | advisoryLock name =>
      rw [outcome.2]
      simp only [Function.update_apply]
      split
      · rfl
      · exact held
  | keys query =>
      obtain ⟨keys, same⟩ := KeyQuery.Outcome.frame outcome
      rwa [same]
  | vm call =>
      cases call with
      | start | finish => rwa [show after.state = _ from outcome]
      | delete host =>
          cases answer with
          | ok => rwa [show after.state = _ from outcome]
          | error failure => rwa [outcome.2]
  | templates query =>
      cases query with
      | get => rwa [outcome.2]
      | touch lease =>
          obtain ⟨templateLock, same⟩ := TemplateQuery.Outcome.touch_frame outcome
          rwa [same]
      | lock | lockKey | reapable | isReapable | insert | restart | finish | abandon | delete =>
          cases open_
  | hosts query =>
      cases query with
      | get => rwa [outcome.2]
      | lock =>
          cases answer with
          | none => rwa [outcome.2]
          | some host => rwa [outcome.2.2]
      | expired => rwa [outcome.2]
      | warm => rwa [outcome.2]
      | excess => rwa [outcome.2]
      | count => rwa [outcome.2]
      | candidate =>
          cases answer with
          | none => rwa [show after.state = _ from outcome]
          | some host => rwa [outcome.2.2]
      | stamp =>
          rcases outcome with ⟨-, host, -, -, same⟩ | ⟨-, same⟩
          · rwa [same]
          · rwa [same]
      | insert =>
          cases answer with
          | ok => cases open_
          | error failure => rwa [show after.state = _ from outcome]
      | update =>
          cases answer with
          | true => cases open_
          | false => rwa [outcome.2]
      | claim | delete => cases open_

theorem standing_self (registry : Registry before)
    (allowed : (Provisioner.contract deployment).allows actor op)
    (admits : (contract scope limit).allows phase op)
    (unrevives : (unrevived scope).perform task op before)
    (stands : Standing deployment scope limit task phase before) :
    Standing deployment scope limit task ((contract scope limit).next phase op answer) after := by
  have readings (now : ℤ) (member : now ∈ phase.readings) : now ≤ after.state.now := by
    rw [answered.now]
    exact stands.readings now member
  by_cases ended : ends op answer
  · simp only [contract, ended, if_true]
    exact ⟨readings, by simp, by simp⟩
  have open_ : ends op answer = false := by simpa using ended
  have held (locked : phase.locked) :=
    advisory_self answered open_ _ (stands.locked locked)
  have quiet : live scope after.state ≤ live scope before.state :=
    live_le answered registry allowed admits unrevives fun admitted =>
      ended (ends_of_admits admitted)
  have room (counted : phase.room) : phase.locked ∧ live scope after.state < limit :=
    ⟨(stands.room counted).1, lt_of_le_of_lt quiet (stands.room counted).2⟩
  have kept : Standing deployment scope limit task phase after := ⟨readings, held, room⟩
  simp only [contract, open_, Bool.false_eq_true, if_false]
  cases op with
  | clock =>
      refine ⟨fun now member => ?_, held, room⟩
      rcases List.mem_cons.mp member with rfl | member
      · rw [answered.now]
        exact answered.outcome.1.le
      · exact readings now member
  | advisoryLock key =>
      refine ⟨readings, fun locked => ?_, fun counted => ⟨?_, (room counted).2⟩⟩
      · simp only [learn, Bool.or_eq_true, beq_iff_eq] at locked
        rcases locked with locked | rfl
        · exact held locked
        · rw [answered.outcome.2]
          simp
      · simp [learn, (room counted).1]
  | hosts query =>
      cases query with
      | count counted now =>
          refine ⟨readings, held, fun knows => ?_⟩
          simp only [learn, Bool.or_eq_true, Bool.and_eq_true, beq_iff_eq, List.contains_iff_mem,
            decide_eq_true_eq] at knows
          rcases knows with knows | ⟨⟨⟨rfl, locked⟩, read⟩, below⟩
          · exact room knows
          · refine ⟨locked, lt_of_le_of_lt ?_ below⟩
            obtain ⟨rfl, same⟩ := answered.outcome
            rw [same]
            apply Table.count_le
            intro id row present counts
            simp only [Bool.and_eq_true] at counts
            exact ⟨row, present, by simp [counts.1,
              live_earlier (stands.readings now read) counts.2]⟩
      | get | lock | expired | warm | excess | candidate | claim | insert | update | stamp
      | delete => exact kept
  | uuid7 | rollback | keys | templates | outside | vm => exact kept

/-- What the other tasks know of the limit stays so: an admission needs the lock that they hold. -/
theorem standing_other (registry : Registry before)
    (allowed : (Provisioner.contract deployment).allows actor op)
    (admits : (contract scope limit).allows phase op)
    (unrevives : (unrevived scope).perform task op before)
    (stands : Standing deployment scope limit task phase before) (different : other ≠ task)
    (other_stands : Standing deployment scope limit other standing before) :
    Standing deployment scope limit other standing after where
  readings now member := by
    rw [answered.now]
    exact other_stands.readings now member
  locked locked := advisory_other answered different _ (other_stands.locked locked)
  room counted := by
    obtain ⟨locked, below⟩ := other_stands.room counted
    refine ⟨locked, lt_of_le_of_lt ?_ below⟩
    apply live_le answered registry allowed admits unrevives
    intro admitted
    have held := stands.locked (stands.room (room_of_admits admits admitted)).1
    rw [other_stands.locked locked] at held
    exact different (Option.some.inj held)

end Answered

omit [DecidableEq ι] in
/-- A step without an answer keeps what a task knows, as long as its locks stay. -/
theorem standing_unanswered (same : Deployment.Unanswered before after)
    (locks : ∀ key, before.state.advisory key = some task → after.state.advisory key = some task)
    (stands : Standing deployment scope limit task phase before) :
    Standing deployment scope limit task phase after where
  readings now member := (stands.readings now member).trans same.now
  locked locked := locks _ (stands.locked locked)
  room counted :=
    ⟨(stands.room counted).1,
      lt_of_le_of_lt (live_of_later same.hosts same.now) (stands.room counted).2⟩

/-- Every run in which no commit makes a dead host of the scope live again, and in which the claims
that bring hosts into the scope win, keeps the limit. -/
theorem upheld (deployment : Deployment) (scope : CountScope) (limit : ℕ)
    (condition : Condition ι Op.Answer (State ι) (Nature ι))
    (unrevives : ∀ {task op world}, condition.perform task op world →
      (unrevived scope).perform task op world)
    (wins : ∀ {task id account now expiresAt world},
      condition.perform task (.hosts (.claim id account now expiresAt)) world →
        scope.claims account →
          ∃ row, world.state.hosts.get id = some row ∧ row.claimedAt = none) :
    Upheld (deployment.system : System ι _ _ _ _) condition
      ((Provisioner.contract deployment).prod (contract scope limit))
      (Limited scope limit) (Knows deployment scope limit) where
  perform {task phases op choice answer before after} allowed holds stands meets answered := by
    have answered := Deployment.answered answered
    have unrevives := unrevives meets
    refine ⟨⟨answered.expected holds.1 stands.1 allowed.1, ?_⟩,
      ⟨answered.registry holds.1 stands.1 allowed.1,
        limit_kept answered holds.1 allowed.1 allowed.2 unrevives stands.2 holds.2⟩,
      answered.standing_self holds.1 stands.1 allowed.1,
      standing_self answered holds.1 allowed.1 allowed.2 unrevives stands.2⟩
    cases op with
    | hosts query =>
        cases query with
        | claim id account now expiresAt =>
            intro claims
            obtain ⟨row, present, unclaimed⟩ := wins meets claims
            cases answer with
            | some claimed => rfl
            | none => exact absurd unclaimed (answered.outcome.1 row present)
        | get | lock | expired | warm | excess | count | candidate | insert | update | stamp
        | delete => trivial
    | clock | uuid7 | advisoryLock | rollback | keys | templates | outside | vm => trivial
  others {task phases op choice answer before after other standing} allowed holds stands meets
      answered different held := by
    have answered := Deployment.answered answered
    exact ⟨answered.standing_other holds.1 stands.1 allowed.1 different held.1,
      standing_other answered holds.1 allowed.1 allowed.2 (unrevives meets) stands.2 different
        held.2⟩
  abandon {task before} _ holds := by
    have same : Deployment.Unanswered before (deployment.system.abandoned task before) :=
      .abandoned task before
    refine ⟨⟨same.registry holds.1, (live_of_later same.hosts same.now).trans holds.2⟩,
      fun different held => ⟨same.stands held.1, standing_unanswered same (fun key locked => ?_)
        held.2⟩⟩
    exact (State.drop_eq_some task).mpr ⟨locked, different⟩
  world {move before state} _ holds moved := by
    have same : Deployment.Unanswered before { before with state } := .nature moved
    refine ⟨⟨same.registry holds.1, (live_of_later same.hosts same.now).trans holds.2⟩,
      fun held => ⟨same.stands held.1, standing_unanswered same (fun key locked => ?_) held.2⟩⟩
    obtain ⟨now, vms, -, rfl⟩ := Deployment.nature_frame moved
    exact locked

theorem program_follows {provider : String} {limit : ℕ}
    (limits : deployment.settings.hostLimits.lookup provider = some limit) (call : PoolCall) :
    Follows (contract (.provider provider) limit) (fun _ (_ : Except Failure Reply) => True) {}
      (call.program deployment) := by
  have named (name : String) (same : CountScope.provider provider = .provider name) :
      deployment.settings.hostLimits.lookup name = some limit := by
    obtain rfl := CountScope.provider.inj same
    exact limits
  have session {α : Type} {program : Task α} (reply : α → Reply)
      (follows : Follows (contract (.provider provider) limit)
        (fun _ (_ : Except Failure α) => True) {} program) :
      Follows (contract (.provider provider) limit) (fun _ (_ : Except Failure Reply) => True) {}
        (reply <$> inSession program) := by
    refine .bind (.closing (follows.weaken fun _ outcome _ => ⟨trivial, fun _ _ => ?_⟩))
    cases outcome <;> trivial
  cases call with
  | claim request asked =>
      have claims : Follows (contract (.provider provider) limit)
          (fun _ (_ : Except Failure (Option Host)) => True) {}
          (tryClaimPoolHost deployment request asked) :=
        (tryClaimPoolHost_follows (by simp [Ready, CountScope.claims])).weaken fun _ _ _ => trivial
      refine .bind (.closing (claims.weaken fun _ outcome _ => ⟨trivial, fun _ _ => ?_⟩))
      cases outcome <;> trivial
  | service call =>
      cases call with
      | getOrCreate request =>
          exact session _ ((getOrCreateHost_follows named (by simp)).weaken fun _ _ _ => trivial)
      | create request poolMember =>
          exact session _ (createHost_follows named (by simp [Ready, CountScope.claims]))
      | renew id expiresAt => exact session _ (common_follows renewHost_common)
      | delete id flags => exact session _ (common_follows deleteHost_common)
      | reap =>
          have reaps : Follows (contract (.provider provider) limit)
              (fun _ (_ : Except Failure (List HostId)) => True) {}
              (reapExpiredHosts deployment) :=
            .step trivial fun _ _ => .step trivial fun _ _ => common_follows (reapEach_common _)
          refine .bind (reaps.weaken fun _ outcome _ => ?_)
          cases outcome <;> trivial
      | maintain =>
          refine .bind ((maintainPool_follows named).weaken fun _ outcome _ => ?_)
          cases outcome <;> trivial

/-- **A provider's host limit.**  In every run in which no commit makes a dead host of the provider
live again, its live hosts are at most the limit. -/
theorem provider_limit {state : State ι} (rest : state.AtRest) {calls : ι → Option PoolCall}
    {provider : String} {limit : ℕ}
    (limits : deployment.settings.hostLimits.lookup provider = some limit)
    (fresh : ∀ id row, state.hosts.get id = some row → row.provider ≠ provider)
    {config : Config ι Op.Answer (State ι) Failure Reply}
    (reach : deployment.system.Reaches (unrevived (.provider provider))
      (PoolCall.start deployment state calls) config) :
    live (.provider provider) config.world.state ≤ limit := by
  have begins : live (.provider provider) state ≤ limit := by
    have none : live (.provider provider) state ≤ (Table.empty : Table HostId Host).count fun _ =>
        true := by
      apply Table.count_le
      intro id row present counted
      simp only [CountScope.counts, Bool.and_eq_true, beq_iff_eq] at counted
      exact absurd counted.1 (fresh id row present)
    exact none.trans (Nat.zero_le limit)
  have keeps := upheld deployment (.provider provider) limit
    (unrevived (.provider provider) : Condition ι _ _ _) (fun unrevives => unrevives)
    (by simp [CountScope.claims])
  have upholds : Upholds
      ((Provisioner.contract deployment).prod (contract (.provider provider) limit))
      (Limited (.provider provider) limit) (Knows deployment (.provider provider) limit)
      (fun _ _ _ => True) config := by
    have first : Limited (.provider provider) limit (PoolCall.start deployment state calls).world :=
      ⟨rest.registry, begins⟩
    refine Upholds.reaches keeps ⟨first, ?_⟩ reach
    intro task program started
    obtain ⟨call, called, rfl⟩ := Option.map_eq_some_iff.mp started
    refine ⟨({}, {}), Knows.initial task _, ?_⟩
    exact ((call.provisions deployment).prod (program_follows limits call)).weaken
      fun _ _ _ => trivial
  exact upholds.inv.2

/-- The step changes a row in place only where it is live, and a claim finds its warm host. -/
def isQuiet (config : Config ℕ Op.Answer (State ℕ) Failure Reply) :
    Event ℕ Choice (Nature ℕ) → Bool
  | .perform task _ =>
      let live id := (config.world.state.hosts.get id).all (·.live config.world.state.now)
      match config.tasks task with
      | some (.call (.hosts (.claim id _ _ _)) _) =>
          live id && (config.world.state.hosts.get id).any (·.claimedAt.isNone)
      | some (.call (.hosts (.update _ id _)) _)
      | some (.call (.hosts (.stamp id _ _ _)) _) => live id
      | _ => true
  | _ => true

theorem isQuiet_sound (config : Config ℕ Op.Answer (State ℕ) Failure Reply)
    (event : Event ℕ Choice (Nature ℕ)) (quiet : isQuiet config event) :
    (uncontested "agent").Allows config event ∧
      (unrevived (.provider "exe")).Allows config event := by
  cases event with
  | abandon | world => exact ⟨trivial, trivial⟩
  | perform task choice =>
      suffices allowed : ∀ op resume, config.tasks task = some (.call op resume) →
          (∀ scope, (unrevived scope).perform task op config.world) ∧
            ∀ id now expiresAt, op = .hosts (.claim id (some "agent") now expiresAt) →
              ∃ row, config.world.state.hosts.get id = some row ∧ row.claimedAt = none from
        ⟨fun op resume waits => ⟨(allowed op resume waits).1 _, (allowed op resume waits).2⟩,
          fun op resume waits => (allowed op resume waits).1 _⟩
      intro op resume waits
      simp only [isQuiet, waits] at quiet
      have alive {id : HostId} {row : Host}
        (present : config.world.state.hosts.get row.id = some row)
          (lives : (config.world.state.hosts.get id).all (·.live config.world.state.now))
          (dead : row.live config.world.state.now = false) (same : id = row.id) : False := by
        subst same
        rw [present, Option.all_some, dead] at lives
        contradiction
      cases op with
      | hosts query =>
          cases query with
          | claim id account instant expiresAt =>
              rw [Bool.and_eq_true] at quiet
              refine ⟨fun _ row present _ dead revives =>
                alive present quiet.1 dead revives.1, fun target now ends same => ?_⟩
              simp only [Op.hosts.injEq, HostQuery.claim.injEq] at same
              obtain ⟨rfl, -⟩ := same
              obtain ⟨row, found, unclaimed⟩ := (Option.any_eq_true _ _).mp quiet.2
              exact ⟨row, found, Option.isNone_iff_eq_none.mp unclaimed⟩
          | update | stamp =>
              exact ⟨fun _ row present _ dead revives =>
                alive present quiet dead revives.1, by simp⟩
          | get | lock | expired | warm | excess | count | candidate | insert | delete =>
              exact ⟨fun _ _ _ _ _ revives => revives, by simp⟩
      | clock | uuid7 | advisoryLock | rollback | keys | templates | outside | vm =>
          exact ⟨fun _ _ _ _ _ revives => revives, by simp⟩

/-- The sample deployment with room for one host of its provider. -/
def oneHost : Deployment :=
  { Deployment.sample with
    settings := { Deployment.sample.settings with hostLimits := [("exe", 1)] } }

/-- Two creates, and a renewal of the first host. -/
def revival : Config ℕ Op.Answer (State ℕ) Failure Reply :=
  PoolCall.start oneHost (.resting 0 .empty .empty .empty) fun task =>
    some (.service (if task = 2 then .renew 1 (some 5000000000) else .create {} false))

/-- The first create inserts its host, and the second counts it. -/
def fullSchedule : List (Event ℕ Choice (Nature ℕ)) :=
  [.perform 0 (.number 1)] ++ .replicate 5 (.perform 0 .go) ++ [.perform 1 (.number 2)] ++
    .replicate 4 (.perform 1 .go)

theorem provider_limit_full :
    ∃ config, oneHost.system.Reaches (unrevived (.provider "exe")) revival config ∧
      oneHost.settings.hostLimits.lookup "exe" = some 1 ∧
        live (.provider "exe") config.world.state ≤ 1 := by
  have executed : (oneHost.system.runChecked isQuiet revival fullSchedule).isSome := rfl
  have reach := System.reaches_runChecked isQuiet (fun config event quiet =>
    (isQuiet_sound config event quiet).2) fullSchedule executed
  have rest : (State.resting 0 .empty .empty .empty : State ℕ).AtRest :=
    State.resting_atRest (by simp) (by simp)
  exact ⟨_, reach, rfl, provider_limit rest rfl (by simp [State.resting]) reach⟩

/-- The first host expires while it boots, the second takes its place, and the first is renewed. -/
def revivalSchedule : List (Event ℕ Choice (Nature ℕ)) :=
  [.perform 0 (.number 1)] ++ .replicate 8 (.perform 0 .go) ++ [.perform 0 (.environment [])] ++
    .replicate 3 (.perform 0 .go) ++
      [.perform 0 (.vm ⟨Host.buildName 1, "root", "", 22, none, none⟩)] ++
    .replicate 2 (.perform 0 .go) ++ [.world (.tick 901000000), .perform 1 (.number 2)] ++
    .replicate 5 (.perform 1 .go) ++ .replicate 3 (.perform 2 .go)

/-- A renewal of a host that has expired brings its provider above the limit. -/
theorem renewal_exceeds_provider_limit :
    ∃ config, oneHost.system.Reaches {} revival config ∧
      oneHost.settings.hostLimits.lookup "exe" = some 1 ∧
        live (.provider "exe") config.world.state = 2 :=
  ⟨_, System.reaches_run revivalSchedule rfl, rfl, rfl⟩

/-- **A service account's host limit.**  In every run of requests in which no claim for the account
loses its warm host and no commit makes a dead host of the account live again, the live hosts of an
account other than the admin are at most the limit. -/
theorem account_limit {state : State ι} (rest : state.AtRest) {calls : ι → Option HostCall}
    (requests : ∀ task call, calls task = some call → ∃ request, call = .getOrCreate request)
    {limit : ℕ} (limited : deployment.settings.hostLimitPerServiceAccount = some limit)
    (positive : limit ≠ 0) {account : String} (caller : account ≠ ServiceAccount.admin)
    (begins : live (.serviceAccount account) state ≤ limit)
    {config : Config ι Op.Answer (State ι) Failure Reply}
    (reach : deployment.system.Reaches (uncontested account) (deployment.start state calls)
      config) :
    live (.serviceAccount account) config.world.state ≤ limit := by
  have limits : accountLimit deployment (some account) = some (account, limit) := by
    simp [accountLimit, limited, positive, caller]
  have upholds : Upholds
      ((Provisioner.contract deployment).prod (contract (.serviceAccount account) limit))
      (Limited (.serviceAccount account) limit)
      (Knows deployment (.serviceAccount account) limit) (fun _ _ _ => True) config := by
    have wins {task : ι} {id : HostId} {claimer : Option String} {now : ℤ} {expiresAt : Option ℤ}
        {world : Deployment.World ι}
        (meets : (uncontested account).perform task (.hosts (.claim id claimer now expiresAt))
          world) (claims : (CountScope.serviceAccount account).claims claimer) :
        ∃ row, world.state.hosts.get id = some row ∧ row.claimedAt = none := by
      obtain rfl : claimer = some account := by simpa [CountScope.claims] using claims
      exact meets.2 id now expiresAt rfl
    have keeps := upheld deployment (.serviceAccount account) limit (uncontested account)
      (fun meets => meets.1) wins
    have first : Limited (.serviceAccount account) limit (deployment.start state calls).world :=
      ⟨rest.registry, begins⟩
    refine Upholds.reaches keeps ⟨first, ?_⟩ reach
    intro task program started
    obtain ⟨call, called, rfl⟩ := Option.map_eq_some_iff.mp started
    obtain ⟨request, rfl⟩ := requests task call called
    refine ⟨({}, {}), Knows.initial task _, ?_⟩
    have named (name : String) (same : CountScope.serviceAccount account = .serviceAccount name) :
        accountLimit deployment (some name) = some (name, limit) := by
      obtain rfl := CountScope.serviceAccount.inj same
      exact limits
    have obtains : Follows (contract (.serviceAccount account) limit)
        (fun _ (_ : Except Failure Reply) => True) {}
        ((HostCall.getOrCreate request).program deployment) := by
      refine .bind (.closing ((getOrCreateHost_follows (by simp) named).weaken fun _ outcome _ =>
        ⟨trivial, fun _ _ => ?_⟩))
      cases outcome <;> trivial
    exact (((HostCall.getOrCreate request).follows deployment).prod obtains).weaken
      fun _ _ _ => trivial
  exact upholds.inv.2

/-- Two requests of one account and one of the admin, over some rows. -/
def requests (hosts : Table HostId Host) : Config ℕ Op.Answer (State ℕ) Failure Reply :=
  Deployment.sample.start (.resting 0 hosts .empty .empty) fun task =>
    some (.getOrCreate { serviceAccount := if task = 2 then some "admin" else some "agent" })

def warmHost : Table HostId Host := Table.empty.insert 1 (Host.sample 1)

/-- The first request claims the warm host, and the second counts it and is refused. -/
def claimSchedule : List (Event ℕ Choice (Nature ℕ)) :=
  .replicate 4 (.perform 0 .go) ++ [.perform 0 (.number 1)] ++ .replicate 3 (.perform 0 .go) ++
    .replicate 4 (.perform 1 .go)

theorem account_limit_claim :
    ∃ config host failure,
      Deployment.sample.system.Reaches (uncontested "agent") (requests warmHost) config ∧
      Deployment.sample.settings.hostLimitPerServiceAccount = some 1 ∧
      config.tasks 0 = some (.done (.host host)) ∧
      config.tasks 1 = some (.raise failure) ∧ failure.kind = .hostCapacity ∧
        live (.serviceAccount "agent") config.world.state ≤ 1 := by
  have executed :
      (Deployment.sample.system.runChecked isQuiet (requests warmHost) claimSchedule).isSome := rfl
  have reach := System.reaches_runChecked isQuiet (fun config event quiet =>
    (isQuiet_sound config event quiet).1) claimSchedule executed
  have rest : (State.resting 0 warmHost .empty .empty : State ℕ).AtRest :=
    State.resting_atRest (by simp [warmHost, Table.get_insert, Host.sample]) (by simp)
  refine ⟨_, _, _, reach, rfl, rfl, rfl, rfl,
    account_limit rest ?_ rfl (by decide) (by decide) (by decide) reach⟩
  rintro task call ⟨⟩
  exact ⟨_, rfl⟩

/-- The first request counts, and loses the warm host to the admin's request; the `COMMIT` of the
lost claim lets the second request count before the first inserts. -/
def lostClaimSchedule : List (Event ℕ Choice (Nature ℕ)) :=
  .replicate 4 (.perform 0 .go) ++
    [.perform 0 (.number 1), .perform 2 .go, .perform 2 (.number 1)] ++
    .replicate 2 (.perform 2 .go) ++ .replicate 2 (.perform 0 .go) ++
    .replicate 5 (.perform 1 .go) ++ [.perform 1 (.number 2)] ++ .replicate 2 (.perform 1 .go) ++
    [.perform 0 (.number 3)] ++ .replicate 2 (.perform 0 .go)

/-- A lost claim brings its account above the limit, while no lease is renewed and none expires. -/
theorem lost_claim_exceeds_account_limit :
    ∃ config, Deployment.sample.system.Reaches {} (requests warmHost) config ∧
      Deployment.sample.settings.hostLimitPerServiceAccount = some 1 ∧
      config.world.state.now = 0 ∧
      (config.world.state.hosts.count fun host => !host.unexpired 0) = 0 ∧
      live (.serviceAccount "agent") (requests warmHost).world.state = 0 ∧
      live (.serviceAccount "agent") config.world.state = 2 :=
  ⟨_, System.reaches_run lostClaimSchedule rfl, rfl, rfl, rfl, rfl, rfl⟩

end Quota

end Drukbox
