import Drukbox.Hosts.Holder

/-!
# Losers of a race for an idempotency key

Calls with one key that start without a record: one call records its host, and every other host
that a call obtained goes back to the pool or expires.
-/

namespace Drukbox

open Await HostService Registry

namespace Disposal

variable {ι : Type} [DecidableEq ι]

def Did (task : ι) (deed : Deed) (world : Deployment.World ι) : Prop :=
  ∃ op answer, Entry.answered task op answer ∈ world.log ∧ op.deed answer = deed

abbrev Obtained (task : ι) (id : HostId) (world : Deployment.World ι) : Prop :=
  Did task (.obtains id) world

/-- The task recorded its host for the key. -/
abbrev Records (task : ι) (record : IdempotencyKey) (world : Deployment.World ι) : Prop :=
  Did task (.records record) world

/-- The row as its disposal leaves it: an unclaimed pool member, or expired. -/
def LetGo (deployment : Deployment) (released : ℤ) (row : Host) : Prop :=
  (row.poolMember = true ∧ row.claimedAt = none ∧ row.serviceAccount = none ∧
    ∃ vm, Holder.Registered deployment row vm ∧
      row.expiresAt =
        vm.leaseEnd row.createdAt
          (some (released + hours deployment.settings.poolHostMaxAgeHours))) ∨
    row.poolMember = false ∧ row.expiresAt = some released

/-- The host was disposed of at the time that a task read. -/
def Disposed (deployment : Deployment) (id : HostId) (world : Deployment.World ι) : Prop :=
  ∃ row releaser released, world.state.hosts.get id = some row ∧ row.status = .active ∧
    Entry.answered releaser .clock released ∈ world.log ∧ released ≤ world.state.now ∧
    LetGo deployment released row

/-- One entry of the history, for the host that a task holds. -/
def holdStep (task : ι) (held : Option HostId) : Entry ι Op.Answer → Option HostId
  | .answered owner op answer =>
      if owner = task then (op.deed answer).held held else held
  | .abandoned _ => held

/-- The host that a task obtained, and has neither recorded nor disposed of. -/
def holding (task : ι) (log : List (Entry ι Op.Answer)) : Option HostId :=
  log.foldl (holdStep task) none

/-- A held host: claimed from the pool, or the task's own. -/
def Held (deployment : Deployment) (task : ι) (id : HostId) (world : Deployment.World ι) : Prop :=
  ∃ row, world.state.hosts.get id = some row ∧ row.status = .active ∧
    ((row.claimedAt.isSome ∧ row.poolMember = true ∧ ∃ vm, Holder.Registered deployment row vm) ∨
      Drew task id world ∧ Inserted id world)

/-- What holds of the hosts that calls obtained between any two steps. -/
structure Custody (deployment : Deployment) (key : String) (start : ℤ) (asked : ι → Prop)
    (world : Deployment.World ι) : Prop where
  held : ∀ {task id}, holding task world.log = some id →
    Held deployment task id world ∧ Obtained task id world ∧ asked task
  exclusive : ∀ {task other id}, holding task world.log = some id →
    holding other world.log = some id → task = other
  obtained : ∀ {task id}, Obtained task id world →
    (∃ owner, holding owner world.log = some id) ∨
      ∃ record, world.state.keys.get key = some record ∧
        (record.hostId = id ∨ Disposed deployment id world)
  spent : ∀ {task id}, Obtained task id world → Spent id world
  own : ∀ {task id}, Obtained task id world → Inserted id world → Drew task id world
  born : ∀ {id row}, Inserted id world → world.state.hosts.get id = some row →
    row.poolMember = false ∧ row.claimedAt = none
  records : ∀ {task record}, Records task record world →
    world.state.keys.get key = some record ∧ Obtained task record.hostId world
  recorder : ∀ {task other record also}, Records task record world →
    Records other also world → task = other
  written : ∀ {record}, world.state.keys.get key = some record →
    Agreement.Fresh deployment start world record ∧ ∃ task, Records task record world

structure Standing (deployment : Deployment) (key : String) (start : ℤ) (asked : ι → Prop)
    (task : ι) (phases : (Provisioner × Agreement) × Holder) (world : Deployment.World ι) :
    Prop where
  asked : asked task
  readings : ∀ now ∈ phases.2.readings,
    Entry.answered task .clock now ∈ world.log ∧ now ≤ world.state.now
  candidate : phases.2.candidate = phases.1.1.candidate
  held : phases.2.held = holding task world.log
  obtained : phases.2.obtained = false → ∀ id, ¬ Obtained task id world
  read : ∀ row, phases.2.read = some row → phases.2.held = some row.id →
    world.state.hosts.get row.id = some row
  refused : phases.2.refused → (world.state.keys.get key).isSome
  own : ∀ mine, phases.1.1.own = some mine →
    mine.poolMember = false ∧ (world.state.hosts.get mine.id).isSome
  live : phases.1.2.stale = false
  looked : ∀ record, phases.1.2.looked = some record →
    Agreement.Fresh deployment start world record

variable {deployment : Deployment} {key : String} {start : ℤ} {asked : ι → Prop} {task other : ι}
  {op : Op} {answer : op.Answer} {before after : Deployment.World ι} {actor : Provisioner}
  {agreement : Agreement} {holder : Holder} {id : HostId}

theorem holding_append (entry : Entry ι Op.Answer) (log : List (Entry ι Op.Answer)) :
    holding task (log ++ [entry]) = holdStep task (holding task log) entry := by
  simp [holding, List.foldl_append]

section Answered

variable (answered : deployment.Answered task op answer before after)
include answered

theorem holding_self :
    holding task after.log = (op.deed answer).held (holding task before.log) := by
  rw [answered.log, holding_append]
  simp [holdStep]

theorem holding_other (different : other ≠ task) :
    holding other after.log = holding other before.log := by
  rw [answered.log, holding_append]
  simp [holdStep, Ne.symm different]

theorem did {deed : Deed} (did : Did other deed before) : Did other deed after := by
  obtain ⟨op, answer, logged, same⟩ := did
  exact ⟨op, answer, answered.mem_log.mpr (.inl logged), same⟩

theorem did_cases {deed : Deed} (did : Did other deed after) :
    Did other deed before ∨ (other = task ∧ op.deed answer = deed) := by
  obtain ⟨_, _, logged, same⟩ := did
  rcases answered.mem_log.mp logged with old | new
  · exact .inl ⟨_, _, old, same⟩
  · obtain ⟨rfl, rfl, new⟩ := Entry.answered.inj new
    obtain rfl := eq_of_heq new
    exact .inr ⟨rfl, same⟩

/-- A call writes an active row only to obtain it or to dispose of it. -/
theorem row_kept (known : actor.Standing task before)
    (allowed : (Provisioner.contract deployment).allows actor op)
    (holds : (Holder.contract deployment).allows holder op) {row : Host}
    (present : before.state.hosts.get id = some row) (active : row.status = .active)
    (obtains : op.deed answer ≠ .obtains id) (disposes : op.deed answer ≠ .disposes id) :
    after.state.hosts.get id = some row := by
  have settled {mine : Host} (owns : actor.own = some mine) (same : mine.id = id)
      (unsettled : mine.status.settled = false) : False := by
    have status := ((known.own mine owns).2.2 row (by rw [same]; exact present)).2
    rw [← status, active] at unsettled
    contradiction
  rw [answered.hosts_get]
  cases op with
  | clock | uuid7 | advisoryLock | rollback | keys | templates | outside | vm => exact present
  | hosts query =>
  cases query with
  | get | lock | expired | warm | excess | count | candidate => exact present
  | claim target serviceAccount now expiresAt =>
      cases answer with
      | none => exact present
      | some claimed =>
      simp only [Op.hostEffect, HostQuery.effect]
      split
      · next same => exact absurd (same ▸ rfl) obtains
      · exact present
  | insert host lease =>
      cases answer with
      | error failure => exact present
      | ok =>
      simp only [Op.hostEffect, HostQuery.effect]
      split
      · next same =>
          have absent := answered.outcome.2.2.1
          rw [← same, present] at absent
          contradiction
      · exact present
  | update place target columns =>
      cases answer with
      | false => exact present
      | true =>
      simp only [Op.hostEffect, HostQuery.effect]
      split
      · next same =>
          subst same
          cases place with
          | progress =>
              obtain ⟨-, ⟨mine, owns, same, unsettled, -⟩, -⟩ := allowed
              exact (settled owns same unsettled).elim
          | failure =>
              obtain ⟨-, ⟨mine, owns, same, unsettled⟩, -⟩ := allowed
              exact (settled owns same unsettled).elim
          | disposal => exact absurd rfl disposes
          | renewal | deviceRelease => cases holds
      · exact present
  | stamp target initial expiresAt updatedAt =>
      simp only [Op.hostEffect, HostQuery.effect]
      split
      · next same => exact absurd (same ▸ rfl) obtains
      · exact present
  | delete target => cases holds

variable (custody : Custody deployment key start asked before)
  (registry : Registry before)
  (known : actor.Standing task before)
  (stands : Standing deployment key start asked task ((actor, agreement), holder) before)
  (allowed : (Provisioner.contract deployment).allows actor op)
  (holds : (Holder.contract deployment).allows holder op)

omit answered in
theorem obtains_free (holds : (Holder.contract deployment).allows holder op)
    (obtains : op.deed answer = .obtains id) : holder.obtained = false ∧ holder.held = none := by
  rcases Op.deed_obtains obtains with ⟨_, _, _, _, rfl, -⟩ | ⟨_, _, _, rfl⟩
  · exact ⟨holds.1, holds.2.1⟩
  · exact holds

include known stands allowed holds in
theorem obtains_held (obtains : op.deed answer = .obtains id) : Held deployment task id after := by
  rcases Op.deed_obtains obtains with
    ⟨serviceAccount, now, expiresAt, claimed, rfl, same⟩ | ⟨initial, expiresAt, updatedAt, rfl⟩
  · obtain rfl := eq_of_heq same
    obtain ⟨-, host, was, unclaimed, rfl, same⟩ := answered.outcome
    obtain ⟨-, -, row, vm, found, row_id, member, registered⟩ := holds
    obtain ⟨active, -, agrees⟩ := known.candidate row (stands.candidate ▸ found)
    obtain ⟨origin, status⟩ := agrees host (by rw [row_id]; exact was)
    refine ⟨host.set (Host.claimColumns serviceAccount now expiresAt), by simp [same],
      status.trans active, .inl ⟨rfl, ?_, vm, ?_⟩⟩
    · exact origin.poolMember.trans member
    · rw [Holder.Registered, Host.set_provider, origin.provider]
      exact registered
  · obtain ⟨mine, owns, rfl, active, -⟩ := allowed
    obtain ⟨drew, born, agrees⟩ := known.own mine owns
    have present := answered.present (by simp) (stands.own mine owns).2
    obtain ⟨row, present⟩ := Option.isSome_iff_exists.mp present
    refine ⟨row, present, ?_, .inr ⟨answered.drew drew, answered.born born⟩⟩
    rw [answered.hosts_get] at present
    simp only [Op.hostEffect, HostQuery.effect, if_true] at present
    obtain ⟨old, was, rfl⟩ := Option.map_eq_some_iff.mp present
    have status := (agrees old was).2.trans active
    split <;> exact status

include custody registry known stands allowed holds in
/-- Nobody holds a host that a call obtains. -/
theorem obtains_alone (obtains : op.deed answer = .obtains id) :
    holding other before.log ≠ some id := by
  intro holding_id
  obtain ⟨⟨row, present, active, kinds⟩, obtained, -⟩ := custody.held holding_id
  rcases Op.deed_obtains obtains with
    ⟨serviceAccount, now, expiresAt, claimed, rfl, same⟩ | ⟨initial, expiresAt, updatedAt, rfl⟩
  · obtain rfl := eq_of_heq same
    obtain ⟨-, host, was, unclaimed, -⟩ := answered.outcome
    obtain rfl : host = row := Option.some.inj (was.symm.trans present)
    rcases kinds with ⟨claimed, -⟩ | ⟨-, born⟩
    · simp [unclaimed] at claimed
    · obtain ⟨-, -, warm, vm, found, row_id, member, -⟩ := holds
      obtain ⟨-, -, agrees⟩ := known.candidate warm (stands.candidate ▸ found)
      have origin := (agrees host (by rw [row_id]; exact was)).1
      rw [← origin.poolMember, (custody.born born present).1] at member
      contradiction
  · obtain ⟨mine, owns, rfl, -⟩ := allowed
    obtain ⟨drew, born, -⟩ := known.own mine owns
    obtain rfl := registry.drew_unique drew (custody.own obtained born)
    exact stands.obtained holds.1 _ obtained

omit answered in
/-- A call disposes of the host that it holds, once the key has another record. -/
theorem disposes_held (holds : (Holder.contract deployment).allows holder op)
    (disposes : op.deed answer = .disposes id) : holder.held = some id ∧ holder.refused := by
  obtain ⟨columns, rfl, -⟩ := Op.deed_disposes disposes
  exact ⟨holds.1, holds.2.1⟩

include custody stands holds in
/-- A host that a call disposes of goes back to the pool or expires. -/
theorem disposes_disposed (disposes : op.deed answer = .disposes id) :
    Disposed deployment id after := by
  obtain ⟨columns, rfl, same⟩ := Op.deed_disposes disposes
  obtain rfl := eq_of_heq same
  obtain ⟨held, -, row, read, rfl, released, read_now, silent, columns_are⟩ := holds
  have present := stands.read row read held
  obtain ⟨⟨_, present_too, active, kinds⟩, -⟩ := custody.held (stands.held ▸ held)
  obtain rfl := Option.some.inj (present.symm.trans present_too)
  obtain ⟨logged, passed⟩ := stands.readings released read_now
  refine ⟨row.set columns, task, released, ?_, by simp [silent, active],
    answered.mem_log.mpr (.inl logged), answered.now ▸ passed, ?_⟩
  · rw [answered.hosts_get]
    simp [Op.hostEffect, HostQuery.effect, present]
  · rcases kinds with ⟨claimed, member, -⟩ | ⟨-, born⟩
    · rw [if_pos claimed] at columns_are
      obtain ⟨unclaimed, nobody, vm, registered, lease⟩ := columns_are
      exact .inl ⟨member, by simp [unclaimed], by simp [nobody], vm, registered, by simp [lease]⟩
    · obtain ⟨member, unclaimed⟩ := custody.born born present
      simp only [unclaimed, Option.isSome_none, Bool.false_eq_true, if_false] at columns_are
      exact .inr ⟨member, by simp [columns_are.2]⟩

include known allowed holds in
theorem held_kept (held : Held deployment other id before)
    (obtains : op.deed answer ≠ .obtains id) (disposes : op.deed answer ≠ .disposes id) :
    Held deployment other id after := by
  obtain ⟨row, present, active, kinds⟩ := held
  exact ⟨row, row_kept answered known allowed holds present active obtains disposes, active,
    kinds.imp_right fun own => ⟨answered.drew own.1, answered.born own.2⟩⟩

include known allowed holds in
theorem disposed_kept (disposed : Disposed deployment id before)
    (obtains : op.deed answer ≠ .obtains id) (disposes : op.deed answer ≠ .disposes id) :
    Disposed deployment id after := by
  obtain ⟨row, releaser, released, present, active, logged, passed, letGo⟩ := disposed
  exact ⟨row, releaser, released,
    row_kept answered known allowed holds present active obtains disposes, active,
    answered.mem_log.mpr (.inl logged), answered.now ▸ passed, letGo⟩

variable (keeps : (Agreement.contract deployment key).allows agreement op)
include keeps

/-- A call records its host only for a key without a record. -/
theorem records_recorded {record : IdempotencyKey} (records : op.deed answer = .records record) :
    before.state.keys.get key = none ∧ after.state.keys.get key = some record := by
  obtain ⟨rfl, accepted⟩ := Op.deed_records records
  obtain rfl := eq_of_heq accepted
  obtain ⟨rfl, -⟩ := keeps
  obtain ⟨-, absent, -, same⟩ := answered.outcome
  exact ⟨absent, by simp [same]⟩

omit answered keeps in
theorem records_held (holds : (Holder.contract deployment).allows holder op)
    {record : IdempotencyKey} (records : op.deed answer = .records record) :
    holder.held = some record.hostId := by
  obtain ⟨rfl, -⟩ := Op.deed_records records
  exact holds

include stands

theorem record_kept {record : IdempotencyKey}
    (recorded : before.state.keys.get key = some record) :
    after.state.keys.get key = some record := by
  rcases Agreement.record_cases answered keeps with kept | ⟨rfl, -⟩ | ⟨_, -, -, absent, -⟩
  · exact kept.trans recorded
  · exact absurd (stands.live.symm.trans keeps.2) (by simp)
  · simp [absent] at recorded

include known allowed holds custody

/-- A host that was obtained stays held, recorded or disposed of. -/
theorem obtained_kept (obtained : Obtained other id before) :
    (∃ owner, holding owner after.log = some id) ∨
      ∃ record, after.state.keys.get key = some record ∧
        (record.hostId = id ∨ Disposed deployment id after) := by
  by_cases obtains : op.deed answer = .obtains id
  · exact .inl ⟨task, by simp [holding_self answered, obtains]⟩
  rcases custody.obtained obtained with ⟨owner, holding_id⟩ | ⟨record, recorded, went⟩
  · by_cases different : owner = task
    · subst different
      have held_id : holder.held = some id := stands.held.trans holding_id
      cases deed : op.deed answer with
      | none => exact .inl ⟨owner, by rw [holding_self answered, deed]; exact holding_id⟩
      | obtains host => simp [(obtains_free holds deed).2] at held_id
      | disposes host =>
          obtain ⟨held_host, refused⟩ := disposes_held holds deed
          obtain rfl : id = host := Option.some.inj (held_id.symm.trans held_host)
          obtain ⟨record, recorded⟩ := Option.isSome_iff_exists.mp (stands.refused refused)
          exact .inr ⟨record, record_kept answered stands keeps recorded,
            .inr (disposes_disposed answered custody stands holds deed)⟩
      | records record =>
          have same := held_id.symm.trans (records_held holds deed)
          exact .inr ⟨record, (records_recorded answered keeps deed).2,
            .inl (Option.some.inj same).symm⟩
    · exact .inl ⟨owner, (holding_other answered different).trans holding_id⟩
  · refine .inr ⟨record, record_kept answered stands keeps recorded, went.imp_right fun gone => ?_⟩
    by_cases disposes : op.deed answer = .disposes id
    · exact disposes_disposed answered custody stands holds disposes
    · exact disposed_kept answered known allowed holds gone obtains disposes

include registry
omit keeps

/-- What a call holds after its step. -/
theorem held_step (holding_id : holding other after.log = some id) :
    Held deployment other id after ∧ Obtained other id after ∧ asked other := by
  have kept (holding_id : holding other before.log = some id)
      (obtains : op.deed answer ≠ .obtains id) (disposes : op.deed answer ≠ .disposes id) :
      Held deployment other id after ∧ Obtained other id after ∧ asked other :=
    have ⟨held, obtained, asks⟩ := custody.held holding_id
    ⟨held_kept answered known allowed holds held obtains disposes, did answered obtained, asks⟩
  by_cases different : other = task
  · subst different
    rw [holding_self answered] at holding_id
    cases deed : op.deed answer with
    | none => exact kept (by simpa [deed] using holding_id) (by simp [deed]) (by simp [deed])
    | obtains host =>
        obtain rfl : host = id := by simpa [deed] using holding_id
        exact ⟨obtains_held answered known stands allowed holds deed,
          ⟨op, answer, answered.mem_log.mpr (.inr rfl), deed⟩, stands.asked⟩
    | disposes host => simp [deed] at holding_id
    | records record => simp [deed] at holding_id
  · rw [holding_other answered different] at holding_id
    refine kept holding_id (fun obtains => ?_) fun disposes => ?_
    · exact obtains_alone answered custody registry known stands allowed holds obtains holding_id
    · have held := stands.held.symm.trans (disposes_held holds disposes).1
      exact different (custody.exclusive holding_id held)

/-- Two calls never hold one host. -/
theorem exclusive_step {owner : ι} (holding_id : holding other after.log = some id)
    (holding_too : holding owner after.log = some id) : other = owner := by
  have alone {other : ι} (different : other ≠ task) (holding_id : holding other after.log = some id)
      (holding_self_id : holding task after.log = some id) : False := by
    rw [holding_other answered different] at holding_id
    rw [holding_self answered] at holding_self_id
    cases deed : op.deed answer with
    | none =>
        rw [deed] at holding_self_id
        exact different (custody.exclusive holding_id holding_self_id)
    | obtains host =>
        obtain rfl : host = id := by simpa [deed] using holding_self_id
        exact obtains_alone answered custody registry known stands allowed holds deed holding_id
    | disposes host => simp [deed] at holding_self_id
    | records record => simp [deed] at holding_self_id
  by_cases first : other = task
  · by_cases second : owner = task
    · exact first.trans second.symm
    · exact (alone second holding_too (first ▸ holding_id)).elim
  · by_cases second : owner = task
    · exact (alone first holding_id (second ▸ holding_too)).elim
    · rw [holding_other answered first] at holding_id
      rw [holding_other answered second] at holding_too
      exact custody.exclusive holding_id holding_too

omit registry

/-- The row of a born host stays outside the pool and unclaimed. -/
theorem born_step {row : Host} (born : Inserted id after)
    (present : after.state.hosts.get id = some row) :
    row.poolMember = false ∧ row.claimedAt = none := by
  rcases answered.born_cases born with born | ⟨host, lease, rfl, rfl, accepted⟩
  swap
  · obtain rfl := eq_of_heq accepted
    rw [answered.hosts_get] at present
    obtain rfl : host = row := by simpa [Op.hostEffect, HostQuery.effect] using present
    exact ⟨holds, allowed.2.2.1⟩
  rw [answered.hosts_get] at present
  cases op with
  | clock | uuid7 | advisoryLock | rollback | keys | templates | outside | vm =>
      exact custody.born born present
  | hosts query =>
  cases query with
  | get | lock | expired | warm | excess | count | candidate => exact custody.born born present
  | claim target serviceAccount now expiresAt =>
      cases answer with
      | none => exact custody.born born present
      | some claimed =>
      simp only [Op.hostEffect, HostQuery.effect] at present
      split at present
      · next same =>
          subst same
          obtain ⟨-, host, was, -⟩ := answered.outcome
          obtain ⟨-, -, warm, vm, found, row_id, member, -⟩ := holds
          obtain ⟨-, -, agrees⟩ := known.candidate warm (stands.candidate ▸ found)
          have origin := (agrees host (by rw [row_id]; exact was)).1
          rw [← origin.poolMember, (custody.born born was).1] at member
          contradiction
      · exact custody.born born present
  | insert host lease =>
      cases answer with
      | error failure => exact custody.born born present
      | ok =>
      simp only [Op.hostEffect, HostQuery.effect] at present
      split at present
      · next same => exact absurd (same ▸ born) (known.drawn _ allowed.1).2
      · exact custody.born born present
  | update place target columns =>
      cases answer with
      | false => exact custody.born born present
      | true =>
      simp only [Op.hostEffect, HostQuery.effect] at present
      split at present
      · obtain ⟨old, was, rfl⟩ := Option.map_eq_some_iff.mp present
        obtain ⟨member, unclaimed⟩ := custody.born born was
        refine ⟨member, ?_⟩
        cases place with
        | progress => simp [allowed.2.2.2.1, unclaimed]
        | failure => simp [allowed.2.2.2.1, unclaimed]
        | disposal => rcases allowed.2.2 with pooled | ⟨kept, -⟩ <;> simp [*]
        | renewal | deviceRelease => cases holds
      · exact custody.born born present
  | stamp target initial expiresAt updatedAt =>
      simp only [Op.hostEffect, HostQuery.effect] at present
      split at present
      · obtain ⟨old, was, rfl⟩ := Option.map_eq_some_iff.mp present
        have outside := custody.born born was
        split <;> exact outside
      · exact custody.born born present
  | delete target => cases holds

theorem own_step (obtained : Obtained other id after) (born : Inserted id after) :
    Drew other id after := by
  rcases did_cases answered obtained with old | ⟨rfl, obtains⟩
  · rcases answered.born_cases born with born | ⟨host, lease, rfl, rfl, -⟩
    · exact answered.drew (custody.own old born)
    · obtain ⟨drew, unborn⟩ := known.drawn _ allowed.1
      exact absurd ((custody.spent old).2 task drew) unborn
  · obtain ⟨row, present, -, ⟨-, member, -⟩ | ⟨drew, -⟩⟩ :=
      obtains_held answered known stands allowed holds obtains
    · have outside := born_step answered custody known stands allowed holds born present
      simp [outside.1] at member
    · exact drew

include registry keeps

theorem custody_step (readings : ∀ now ∈ agreement.readings, start ≤ now) :
    Custody deployment key start asked after where
  held := held_step answered custody registry known stands allowed holds
  exclusive := exclusive_step answered custody registry known stands allowed holds
  obtained {owner id} obtained := by
    rcases did_cases answered obtained with old | ⟨rfl, obtains⟩
    · exact obtained_kept answered custody known stands allowed holds keeps old
    · exact .inl ⟨owner, by simp [holding_self answered, obtains]⟩
  spent {owner id} obtained := by
    rcases did_cases answered obtained with old | ⟨rfl, obtains⟩
    · exact answered.spent (custody.spent old)
    · obtain ⟨row, present, -⟩ := obtains_held answered known stands allowed holds obtains
      exact (answered.registry registry known allowed).spent present
  own := own_step answered custody known stands allowed holds
  born := born_step answered custody known stands allowed holds
  records {owner record} records := by
    rcases did_cases answered records with old | ⟨rfl, new⟩
    · obtain ⟨recorded, obtained⟩ := custody.records old
      exact ⟨record_kept answered stands keeps recorded, did answered obtained⟩
    · have held := stands.held.symm.trans (records_held holds new)
      exact ⟨(records_recorded answered keeps new).2, did answered (custody.held held).2.1⟩
  recorder {owner rival record also} records records_too := by
    rcases did_cases answered records with old | ⟨rfl, new⟩
    · rcases did_cases answered records_too with old_too | ⟨rfl, new⟩
      · exact custody.recorder old old_too
      · have absent := (records_recorded answered keeps new).1
        simp [(custody.records old).1] at absent
    · rcases did_cases answered records_too with old_too | ⟨rfl, -⟩
      · have absent := (records_recorded answered keeps new).1
        simp [(custody.records old_too).1] at absent
      · rfl
  written {record} recorded := by
    rcases Agreement.record_cases answered keeps with
      kept | ⟨-, absent⟩ | ⟨new, inserts, accepted, -, written⟩
    · obtain ⟨fresh, writer, records⟩ := custody.written (kept ▸ recorded)
      exact ⟨Agreement.fresh answered keeps fresh, writer, did answered records⟩
    · simp [absent] at recorded
    · obtain rfl : new = record := Option.some.inj (written.symm.trans recorded)
      obtain ⟨_, settled, fresh, -⟩ :=
        Agreement.written answered keeps readings inserts accepted
      obtain rfl := Option.some.inj (settled.symm.trans recorded)
      subst inserts
      obtain rfl := eq_of_heq accepted
      exact ⟨fresh, task, _, _, answered.mem_log.mpr (.inr rfl), rfl⟩

omit known allowed keeps in
theorem expected : (Holder.contract deployment).expects holder op answer := by
  have host_held {id : HostId} (held : holder.held = some id) :=
    (custody.held (stands.held.symm.trans held)).1
  cases op with
  | clock | uuid7 | advisoryLock | rollback | keys | templates | outside | vm => trivial
  | hosts query =>
  cases query with
  | get id =>
      cases answer with
      | none =>
          intro held
          obtain ⟨row, present, -⟩ := host_held held
          have absent := answered.outcome.1
          rw [present] at absent
          contradiction
      | some row =>
          have present := answered.outcome.1.symm
          refine ⟨registry.host_id present, fun held claimed => ?_⟩
          obtain ⟨_, present_too, -, ⟨-, -, registered⟩ | ⟨-, born⟩⟩ := host_held held
          · rw [Option.some.inj (present.symm.trans present_too)]
            exact registered
          · simp [(custody.born born present).2] at claimed
  | candidate provider now createdFrom =>
      cases answer with
      | none => trivial
      | some row => exact answered.outcome.2.1
  | claim target serviceAccount now expiresAt =>
      cases answer with
      | none => trivial
      | some claimed =>
          obtain ⟨-, host, was, -, rfl, -⟩ := answered.outcome
          have same := registry.host_id was
          exact same
  | update place target columns =>
      cases place with
      | disposal =>
          cases answer with
          | true => exact rfl
          | false =>
              obtain ⟨row, present, -⟩ := host_held holds.1
              have absent := answered.outcome.1
              rw [present] at absent
              contradiction
      | progress | failure | renewal | deviceRelease => trivial
  | lock | expired | warm | excess | count | insert | stamp | delete => trivial

theorem standing_other {standing : (Provisioner × Agreement) × Holder} (different : other ≠ task)
    (stands_other : Standing deployment key start asked other standing before) :
    Standing deployment key start asked other standing after where
  asked := stands_other.asked
  readings now member :=
    have ⟨logged, passed⟩ := stands_other.readings now member
    ⟨answered.mem_log.mpr (.inl logged), answered.now ▸ passed⟩
  candidate := stands_other.candidate
  held := stands_other.held.trans (holding_other answered different).symm
  obtained free id obtained := by
    rcases did_cases answered obtained with old | ⟨same, -⟩
    · exact stands_other.obtained free id old
    · exact different same
  read row read held := by
    have holding_id := stands_other.held.symm.trans held
    obtain ⟨⟨current, present, active, -⟩, -⟩ := custody.held holding_id
    obtain rfl := Option.some.inj (present.symm.trans (stands_other.read row read held))
    refine row_kept answered known allowed holds present active (fun obtains => ?_)
      fun disposes => ?_
    · exact obtains_alone answered custody registry known stands allowed holds obtains holding_id
    · have held := stands.held.symm.trans (disposes_held holds disposes).1
      exact different (custody.exclusive holding_id held)
  refused refused := by
    obtain ⟨record, recorded⟩ := Option.isSome_iff_exists.mp (stands_other.refused refused)
    simp [record_kept answered stands keeps recorded]
  own mine owns := by
    obtain ⟨outside, present⟩ := stands_other.own mine owns
    refine ⟨outside, answered.present ?_ present⟩
    rintro rfl
    exact holds
  live := stands_other.live
  looked record found := Agreement.fresh answered keeps (stands_other.looked record found)

theorem standing_self
    (short : before.state.now < start + hours deployment.settings.idempotencyKeyTtlHours) :
    Standing deployment key start asked task
      (((Provisioner.contract deployment).next actor op answer,
        (Agreement.contract deployment key).next agreement op answer),
        (Holder.contract deployment).next holder op answer) after where
  asked := stands.asked
  readings now member := by
    rcases Holder.next_readings deployment member with old | ⟨rfl, same⟩
    · obtain ⟨logged, passed⟩ := stands.readings now old
      exact ⟨answered.mem_log.mpr (.inl logged), answered.now ▸ passed⟩
    · obtain rfl := eq_of_heq same
      exact ⟨answered.mem_log.mpr (.inr rfl), answered.now ▸ answered.outcome.1.le⟩
  candidate := Holder.next_candidate deployment stands.candidate
  held := by
    rw [Holder.next_held, holding_self answered, stands.held]
  obtained free id obtained := by
    obtain ⟨was_free, idle⟩ := Holder.next_obtained deployment free
    rcases did_cases answered obtained with old | ⟨-, obtains⟩
    · exact stands.obtained was_free id old
    · exact idle id obtains
  read row read held := by
    rw [Holder.next_held] at held
    rcases Holder.next_read deployment read with
      ⟨was_read, idle⟩ | ⟨-, record, records⟩ | ⟨id, rfl, same⟩
    · rw [idle] at held
      obtain ⟨⟨current, present, active, -⟩, -⟩ := custody.held (stands.held.symm.trans held)
      obtain rfl := Option.some.inj (present.symm.trans (stands.read row was_read held))
      exact row_kept answered known allowed holds present active (by simp [idle]) (by simp [idle])
    · simp [records] at held
    · obtain rfl := eq_of_heq same
      obtain ⟨found, same⟩ := answered.outcome
      rw [same, registry.host_id found.symm]
      exact found.symm
  refused refused := by
    rcases Holder.next_refused deployment refused with was | ⟨record, rfl, same⟩
    · obtain ⟨record, recorded⟩ := Option.isSome_iff_exists.mp (stands.refused was)
      simp [record_kept answered stands keeps recorded]
    · obtain rfl := eq_of_heq same
      obtain ⟨rfl, -⟩ := keeps
      obtain ⟨recorded | gone, same⟩ := answered.outcome
      · exact same ▸ recorded
      · obtain ⟨⟨row, present, -⟩, -⟩ := custody.held (stands.held.symm.trans holds)
        rw [present] at gone
        contradiction
  own mine owns := by
    rcases Provisioner.next_own deployment owns with ⟨old, owned, origin⟩ | ⟨lease, rfl, accepted⟩
    · obtain ⟨outside, present⟩ := stands.own old owned
      rw [origin.poolMember, origin.id]
      refine ⟨outside, answered.present ?_ present⟩
      rintro rfl
      exact holds
    · obtain rfl := eq_of_heq accepted
      refine ⟨holds, ?_⟩
      rw [answered.hosts_get]
      simp [Op.hostEffect, HostQuery.effect]
  live := by
    have live : agreement.stale = false := stands.live
    cases op with
    | clock =>
        simp only [Agreement.contract, live, Bool.false_or, Option.any_eq_false,
          decide_eq_false_iff_not]
        intro record found
        have outlives := (stands.looked record found).1
        exact not_le.mpr ((answered.outcome.1.trans_lt short).trans_le outlives)
    | keys query =>
        cases query with
        | get name => rfl
        | insert record => cases answer <;> exact live
        | delete name => exact live
    | hosts query =>
        cases query with
        | get id =>
            cases answer with
            | none =>
                simp only [Agreement.contract, live, Bool.false_or, Option.any_eq_false,
                  decide_eq_false_iff_not]
                rintro record found rfl
                have present := (stands.looked record found).2
                simp [← answered.outcome.1] at present
            | some row =>
                simp only [Agreement.contract]
                split <;> exact live
        | lock | expired | warm | excess | count | candidate | claim | insert | update
        | stamp | delete =>
            exact live
    | uuid7 | advisoryLock | rollback | templates | outside | vm => exact live
  looked record found := by
    have kept (found : agreement.looked = some record) :=
      Agreement.fresh answered keeps (stands.looked record found)
    cases op with
    | keys query =>
        cases query with
        | get name =>
            have named : name = key := keeps
            have recorded := answered.outcome.1.symm.trans found
            exact Agreement.fresh answered keeps (custody.written (named ▸ recorded)).1
        | insert record => cases answer <;> exact kept found
        | delete name => exact kept found
    | hosts query =>
        cases query with
        | get id =>
            cases answer with
            | none => exact kept found
            | some row =>
                simp only [Agreement.contract] at found
                split at found <;> exact kept found
        | lock | expired | warm | excess | count | candidate | claim | insert | update
        | stamp | delete =>
            exact kept found
    | clock | uuid7 | advisoryLock | rollback | templates | outside | vm => exact kept found

end Answered

theorem Custody.unanswered (same : Deployment.Unanswered before after)
    (keys : after.state.keys = before.state.keys) (log : after.log = before.log)
    (custody : Custody deployment key start asked before) :
    Custody deployment key start asked after := by
  have did {task : ι} {deed : Deed} : Did task deed after ↔ Did task deed before := by
    simp [Did, log]
  have disposed {id : HostId} (gone : Disposed deployment id before) :
      Disposed deployment id after := by
    obtain ⟨row, releaser, released, present, active, logged, passed, letGo⟩ := gone
    exact ⟨row, releaser, released, same.hosts ▸ present, active, log ▸ logged,
      passed.trans same.now, letGo⟩
  refine ⟨fun {task id} holding_id => ?_, ?_, fun {task id} obtained => ?_,
    fun {task id} obtained => same.spent.mpr (custody.spent (did.mp obtained)),
    fun {task id} obtained born =>
      same.drew.mpr (custody.own (did.mp obtained) (same.born.mp born)),
    fun {id row} born present => custody.born (same.born.mp born) (same.hosts ▸ present),
    fun {task record} records => ?_,
    fun {task other record also} records records_too =>
      custody.recorder (did.mp records) (did.mp records_too),
    fun {record} recorded => ?_⟩
  · obtain ⟨⟨row, present, active, kinds⟩, obtained, asks⟩ := custody.held (log ▸ holding_id)
    refine ⟨⟨row, same.hosts ▸ present, active, ?_⟩, did.mpr obtained, asks⟩
    rw [same.drew, same.born]
    exact kinds
  · rw [log]
    exact custody.exclusive
  · rw [log, keys]
    exact (custody.obtained (did.mp obtained)).imp_right fun ⟨record, recorded, went⟩ =>
      ⟨record, recorded, went.imp_right disposed⟩
  · obtain ⟨recorded, obtained⟩ := custody.records (did.mp records)
    exact ⟨keys ▸ recorded, did.mpr obtained⟩
  · obtain ⟨fresh, writer, records⟩ := custody.written (keys ▸ recorded)
    exact ⟨fresh.unanswered same, writer, did.mpr records⟩

theorem Standing.unanswered {phases : (Provisioner × Agreement) × Holder}
    (same : Deployment.Unanswered before after) (keys : after.state.keys = before.state.keys)
    (log : after.log = before.log)
    (stands : Standing deployment key start asked task phases before) :
    Standing deployment key start asked task phases after where
  asked := stands.asked
  readings now member :=
    have ⟨logged, passed⟩ := stands.readings now member
    ⟨log ▸ logged, passed.trans same.now⟩
  candidate := stands.candidate
  held := log ▸ stands.held
  obtained := by simpa [Did, log] using stands.obtained
  read row read held := same.hosts ▸ stands.read row read held
  refused refused := keys ▸ stands.refused refused
  own mine owns := same.hosts ▸ stands.own mine owns
  live := stands.live
  looked record found := (stands.looked record found).unanswered same

/-- Nobody crashes, and the key does not expire. -/
def uneventful (deployment : Deployment) (start : ℤ) :
    Condition ι Op.Answer (State ι) (Nature ι) where
  perform _ _ world :=
    world.state.now < start + hours deployment.settings.idempotencyKeyTtlHours
  abandon _ _ := False

omit [DecidableEq ι] in
/-- Such a run meets no stale record. -/
theorem collects_stale
    (short : before.state.now < start + hours deployment.settings.idempotencyKeyTtlHours)
    (live : agreement.stale = false)
    (keeps : (Agreement.contract deployment key).allows agreement op) :
    (Agreement.collectsStale deployment key start).perform task op before := by
  refine ⟨short, ?_⟩
  rintro record rfl
  exact absurd (live.symm.trans keeps.2) (by simp)

/-- Every run without crashes that is shorter than the time to live keeps the custody. -/
theorem upheld (deployment : Deployment) (key : String) (start : ℤ) (asked : ι → Prop) :
    Upheld (deployment.system : System ι _ _ _ _) (uneventful deployment start)
      (((Provisioner.contract deployment).prod (Agreement.contract deployment key)).prod
        (Holder.contract deployment))
      (fun world => (Registry world ∧ Agreement.Recorded deployment key start world) ∧
        Custody deployment key start asked world)
      fun task phases world =>
        (phases.1.1.Standing task world ∧
          Agreement.Standing deployment key start phases.1.2 world) ∧
        Standing deployment key start asked task phases world where
  perform {task phases op choice answer before after} allowed inv known short answered := by
    have spared : (Agreement.collectsStale deployment key start).perform task op before :=
      collects_stale short known.2.live allowed.1.2
    obtain ⟨expects, base, actor⟩ :=
      (Agreement.upheld deployment key start).perform allowed.1 inv.1 known.1 spared answered
    have answered := Deployment.answered answered
    exact ⟨⟨expects, expected answered inv.2 inv.1.1 known.2 allowed.2⟩,
      ⟨base, custody_step answered inv.2 inv.1.1 known.1.1 known.2 allowed.1.1 allowed.2
        allowed.1.2 known.1.2.readings⟩, actor,
      standing_self answered inv.2 inv.1.1 known.1.1 known.2 allowed.1.1 allowed.2
        allowed.1.2 short⟩
  others {task phases op choice answer before after other standing} allowed inv known short answered
      different stands :=
    have spared : (Agreement.collectsStale deployment key start).perform task op before :=
      collects_stale short known.2.live allowed.1.2
    ⟨(Agreement.upheld deployment key start).others allowed.1 inv.1 known.1 spared answered
      different stands.1,
      standing_other (Deployment.answered answered) inv.2 inv.1.1 known.1.1 known.2 allowed.1.1
        allowed.2 allowed.1.2 different stands.2⟩
  abandon crashes := crashes.elim
  world {move before state} _ inv moved := by
    have base := (Agreement.upheld deployment key start).world trivial inv.1 moved
    have same : Deployment.Unanswered before { before with state } := .nature moved
    have keys : state.keys = before.state.keys := by
      obtain ⟨now, vms, -, rfl⟩ := Deployment.nature_frame moved
      rfl
    exact ⟨⟨base.1, inv.2.unanswered same keys rfl⟩,
      fun stands => ⟨base.2 stands.1, stands.2.unanswered same keys rfl⟩⟩

end Disposal

open Disposal

/-- Two calls with one key, over two warm hosts. -/
def recordRace : Config Bool Op.Answer (State Bool) Failure Reply :=
  Deployment.sample.start (.resting 1 warmHosts .empty .empty)
    fun task => (keyedRequests task).map .getOrCreate

/-- Both calls find no record.  The first claims a host and records it; the second claims another
one, comes too late, and gives it back. -/
def lateRecord : List (Event Bool Choice (Nature Bool)) :=
  [.perform false .go] ++
    [.perform true .go, .perform true .go, .perform true (.number 1), .perform true .go,
      .perform true .go, .perform true .go, .perform true .go, .perform true .go] ++
    [.perform false .go, .perform false (.number 2), .perform false .go, .perform false .go,
      .perform false .go, .perform false .go] ++
    .replicate 7 (.perform false .go)

/-- The event is no crash, and comes before the key expires. -/
def isUneventful (config : Config Bool Op.Answer (State Bool) Failure Reply) :
    Event Bool Choice (Nature Bool) → Bool
  | .perform _ _ => config.world.state.now < 1 + hours 24
  | .abandon _ => false
  | .world _ => true

theorem isUneventful_sound (config : Config Bool Op.Answer (State Bool) Failure Reply)
    (event : Event Bool Choice (Nature Bool)) (passed : isUneventful config event) :
    (uneventful Deployment.sample 1).Allows config event := by
  cases event with
  | perform task choice => exact fun _ _ _ => show _ < _ from of_decide_eq_true passed
  | abandon task => cases passed
  | world move => trivial

end Drukbox
