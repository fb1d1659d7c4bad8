import Drukbox.Await.Ledger
import Drukbox.Database.RowSteps
import Drukbox.Hosts.Claimant
import Drukbox.Hosts.Ownership
import Drukbox.Hosts.Selection

/-!
# Pool exclusivity

A claim takes a warm host, which nobody owns, and only its claimant gives it back.  What the pool
selects are pool members, and no host that a caller created is one.
-/

namespace Drukbox

open Await HostService Registry

namespace PoolClaims

variable {ι : Type} [DecidableEq ι]

def Claimed (task : ι) (id : HostId) (world : Deployment.World ι) : Prop :=
  ∃ serviceAccount now expiresAt row,
    Entry.answered task (.hosts (.claim id serviceAccount now expiresAt)) (some row) ∈ world.log

/-- The pool maintainer selected the host to shed it. -/
def Shed (id : HostId) (world : Deployment.World ι) : Prop :=
  ∃ task provider now limit ids,
    Entry.answered task (.hosts (.excess provider now limit)) ids ∈ world.log ∧ id ∈ ids

def Made (task : ι) (host : Host) (world : Deployment.World ι) : Prop :=
  ∃ lease, Entry.answered task (.hosts (.insert host lease)) (.ok ()) ∈ world.log

def Selected (task : ι) (provider : String) (now : ℤ) (row : Host) (world : Deployment.World ι) :
    Prop :=
  ∃ createdFrom,
    Entry.answered task (.hosts (.candidate provider now createdFrom)) (some row) ∈ world.log ∧
      row.claimable provider now createdFrom

/-- What an answer does to the ownership of warm hosts. -/
def opTransfer (task : ι) : (op : Op) → op.Answer → Transfer ι HostId
  | .hosts (.claim id _ _ _), some _ => .take task id
  | .hosts (.update .disposal id columns), true =>
      if columns.claimedAt = some none then .give task id else .pass
  | _, _ => .pass

/-- What an entry of the history does to the ownership of warm hosts. -/
def transfer : Entry ι Op.Answer → Transfer ι HostId
  | .answered task op answer => opTransfer task op answer
  | .abandoned _ => .pass

/-- The owners of the warm hosts, where the history is in order. -/
def Owners (owners : HostId → Option ι) (world : Deployment.World ι) : Prop :=
  Ledger.run (fun _ => none) (world.log.map transfer) = some owners

variable (asked : ι → Option String) (pools : ι → Bool)

/-- What holds of the pool between any two steps. -/
structure Pool (world : Deployment.World ι) : Prop where
  ledger : ∃ owners, Owners owners world ∧ ∀ {id task}, owners id = some task →
    Claimed task id world ∧ ∀ row, world.state.hosts.get id = some row → row.claimedAt ≠ none
  made : ∀ {task host}, Made task host world → host.poolMember = pools task ∧
    ∀ row, world.state.hosts.get host.id = some row → row.poolMember = host.poolMember
  chosen : ∀ {id}, (∃ task, Claimed task id world) ∨ Shed id world →
    Spent id world ∧ ∀ {maker host}, Made maker host world → host.id = id → host.poolMember = true
  claims : ∀ {task id serviceAccount now expiresAt row},
    Entry.answered task (.hosts (.claim id serviceAccount now expiresAt)) (some row) ∈ world.log →
      ∃ provider found, asked task = some provider ∧ Selected task provider now found world ∧
        row.id = id ∧ row.SameOrigin found

structure Standing (task : ι) (phases : Provisioner × Claimant) (world : Deployment.World ι) :
    Prop where
  provider : phases.2.provider = asked task
  pool : phases.2.pool = pools task
  selected : ∀ {now row}, phases.2.selected = some (now, row) →
    phases.1.candidate = some row ∧
      ∃ provider, asked task = some provider ∧ Selected task provider now row world
  own : ∀ {mine}, phases.1.own = some mine →
    ∃ host, Made task host world ∧ mine.SameOrigin host
  held : ∀ {id}, phases.2.held = some id →
    (∃ owners, Owners owners world ∧ owners id = some task) ∨
      ∃ host, Made task host world ∧ host.id = id ∧ host.poolMember = false

variable {asked : ι → Option String} {pools : ι → Bool} {deployment : Deployment}
  {task other : ι} {op : Op} {answer : op.Answer} {before after : Deployment.World ι}
  {actor : Provisioner} {claimant : Claimant} {id : HostId} {host row : Host}
  {owners : HostId → Option ι}

omit [DecidableEq ι] in
theorem opTransfer_give (gives : opTransfer task op answer = .give other id) :
    other = task ∧ ∃ columns, op = .hosts (.update .disposal id columns) ∧ HEq answer true ∧
      columns.claimedAt = some none := by
  cases op with
  | hosts query =>
      cases query with
      | update place target columns =>
          cases place <;> cases answer <;> simp only [opTransfer] at gives <;> try cases gives
          split at gives
          · next given =>
              cases gives
              exact ⟨rfl, columns, rfl, .rfl, given⟩
          · cases gives
      | claim => cases answer <;> cases gives
      | get | lock | expired | warm | excess | count | candidate | insert | stamp | delete =>
          cases gives
  | clock | uuid7 | advisoryLock | rollback | keys | templates | outside | vm => cases gives

omit [DecidableEq ι] in
theorem opTransfer_take (takes : opTransfer task op answer = .take other id) :
    other = task ∧ ∃ serviceAccount now expiresAt row,
      op = .hosts (.claim id serviceAccount now expiresAt) ∧
        HEq answer (some row : Option Host) := by
  cases op with
  | hosts query =>
      cases query with
      | update place target columns =>
          cases place <;> cases answer <;> simp only [opTransfer] at takes <;> try cases takes
          split at takes <;> cases takes
      | claim target serviceAccount now expiresAt =>
          cases answer with
          | none => cases takes
          | some row =>
              cases takes
              exact ⟨rfl, serviceAccount, now, expiresAt, row, rfl, .rfl⟩
      | get | lock | expired | warm | excess | count | candidate | insert | stamp | delete =>
          cases takes
  | clock | uuid7 | advisoryLock | rollback | keys | templates | outside | vm => cases takes

/-- The oldest of some rows are among them. -/
theorem oldest_good {hosts : Table HostId Host} {good : Host → Bool} {limit : ℕ}
    {ids : List HostId} (oldest : HostQuery.Oldest hosts good limit ids) (member : id ∈ ids) :
    ∃ host, hosts.get id = some host ∧ good host = true := by
  have found := oldest.2.2.1 id member
  simp only [Option.any_eq_true, Bool.and_eq_true] at found
  obtain ⟨host, present, holds, -⟩ := found
  exact ⟨host, present, holds⟩

omit [DecidableEq ι] in
theorem Selected.poolMember {provider : String} {now : ℤ}
    (selected : Selected task provider now row before) : row.poolMember = true := by
  obtain ⟨createdFrom, -, claimable⟩ := selected
  simp only [Host.claimable, Bool.and_eq_true] at claimable
  exact claimable.1.1.1.1.2

/-- The row that is claimed is a version of the warm host that its task selected. -/
theorem claim_row (known : actor.Standing task before)
    (stands : Standing asked pools task (actor, claimant) before)
    {serviceAccount : Option String} {now : ℤ} {expiresAt : Option ℤ}
    (allowed : Claimant.contract.allows claimant (.hosts (.claim id serviceAccount now expiresAt)))
    (was : before.state.hosts.get id = some row) :
    ∃ provider found, asked task = some provider ∧ Selected task provider now found before ∧
      row.SameOrigin found := by
  obtain ⟨found, selected, same⟩ := allowed
  obtain ⟨candidate, provider, asks, selection⟩ := stands.selected selected
  obtain ⟨-, -, agrees⟩ := known.candidate found candidate
  exact ⟨provider, found, asks, selection, (agrees row (same ▸ was)).1⟩

section Next

variable (deployment)

theorem next_asked : ((Claimant.contract).next claimant op answer).provider = claimant.provider ∧
    ((Claimant.contract).next claimant op answer).pool = claimant.pool := by
  cases op with
  | hosts query =>
      cases query with
      | update place => cases place <;> exact ⟨rfl, rfl⟩
      | claim => cases answer <;> exact ⟨rfl, rfl⟩
      | stamp =>
          simp only [Claimant.contract, Claimant.nextHosts]
          split <;> exact ⟨rfl, rfl⟩
      | get | lock | expired | warm | excess | count | candidate | insert | delete =>
          exact ⟨rfl, rfl⟩
  | clock | uuid7 | advisoryLock | rollback | keys | templates | outside | vm => exact ⟨rfl, rfl⟩

theorem next_selected {now : ℤ}
    (selected : ((Claimant.contract).next claimant op answer).selected = some (now, row)) :
    (claimant.selected = some (now, row) ∧
        ((Provisioner.contract deployment).next actor op answer).candidate = actor.candidate) ∨
      ∃ provider createdFrom, op = .hosts (.candidate provider now createdFrom) ∧
        HEq answer (some row : Option Host) := by
  cases op with
  | hosts query =>
      cases query with
      | update place => cases place <;> cases answer <;> exact .inl ⟨selected, rfl⟩
      | claim => cases answer <;> exact .inl ⟨selected, rfl⟩
      | insert => cases answer <;> exact .inl ⟨selected, rfl⟩
      | stamp =>
          simp only [Claimant.contract, Claimant.nextHosts] at selected
          split at selected <;> exact .inl ⟨selected, rfl⟩
      | candidate provider now createdFrom =>
          obtain ⟨found, rfl, same⟩ := Option.map_eq_some_iff.mp selected
          cases same
          exact .inr ⟨provider, createdFrom, rfl, .rfl⟩
      | get | lock | expired | warm | excess | count | delete => exact .inl ⟨selected, rfl⟩
  | vm call => cases call <;> exact .inl ⟨selected, rfl⟩
  | clock | uuid7 | advisoryLock | rollback | keys | templates | outside =>
      exact .inl ⟨selected, rfl⟩

omit [DecidableEq ι] in
theorem next_held (held : ((Claimant.contract).next claimant op answer).held = some id) :
    (claimant.held = some id ∧ opTransfer task op answer ≠ .give task id) ∨
      opTransfer task op answer = .take task id ∨
        ∃ initial expiresAt updatedAt, op = .hosts (.stamp id initial expiresAt updatedAt) ∧
          claimant.pool = false := by
  cases op with
  | hosts query =>
      cases query with
      | update place =>
          cases place with
          | disposal => cases answer <;> cases held
          | progress | failure | renewal | deviceRelease => exact .inl ⟨held, by simp [opTransfer]⟩
      | claim =>
          cases answer with
          | none => exact .inl ⟨held, by simp [opTransfer]⟩
          | some claimed =>
              cases held
              exact .inr (.inl rfl)
      | stamp target initial expiresAt updatedAt =>
          simp only [Claimant.contract, Claimant.nextHosts] at held
          split at held
          · exact .inl ⟨held, by simp [opTransfer]⟩
          · next fresh =>
              cases held
              exact .inr (.inr ⟨initial, expiresAt, updatedAt, rfl, by simpa using fresh⟩)
      | get | lock | expired | warm | excess | count | candidate | insert | delete =>
          exact .inl ⟨held, by simp [opTransfer]⟩
  | clock | uuid7 | advisoryLock | rollback | keys | templates | outside | vm =>
      exact .inl ⟨held, by simp [opTransfer]⟩

end Next

section Answered

variable (answered : deployment.Answered task op answer before after)
include answered

theorem claimed (claimed : Claimed other id before) : Claimed other id after := by
  obtain ⟨serviceAccount, now, expiresAt, row, logged⟩ := claimed
  exact ⟨serviceAccount, now, expiresAt, row, answered.mem_log.mpr (.inl logged)⟩

theorem claimed_cases (claimed : Claimed other id after) :
    Claimed other id before ∨ opTransfer task op answer = .take task id := by
  obtain ⟨serviceAccount, now, expiresAt, row, logged⟩ := claimed
  rcases answered.mem_log.mp logged with old | new
  · exact .inl ⟨serviceAccount, now, expiresAt, row, old⟩
  · obtain ⟨rfl, rfl, same⟩ := Entry.answered.inj new
    obtain rfl := eq_of_heq same
    exact .inr rfl

theorem shed_cases (shed : Shed id after) :
    Shed id before ∨ ∃ host, before.state.hosts.get id = some host ∧ host.poolMember = true := by
  obtain ⟨owner, provider, now, limit, ids, logged, member⟩ := shed
  rcases answered.mem_log.mp logged with old | new
  · exact .inl ⟨owner, provider, now, limit, ids, old, member⟩
  · obtain ⟨rfl, rfl, same⟩ := Entry.answered.inj new
    obtain rfl := eq_of_heq same
    obtain ⟨host, present, warm⟩ := oldest_good answered.outcome.1 member
    simp only [Host.warm, Bool.and_eq_true] at warm
    exact .inr ⟨host, present, warm.2.1.1⟩

theorem made (made : Made other host before) : Made other host after := by
  obtain ⟨lease, logged⟩ := made
  exact ⟨lease, answered.mem_log.mpr (.inl logged)⟩

theorem made_cases (made : Made other host after) :
    Made other host before ∨ other = task ∧ ∃ lease, op = .hosts (.insert host lease) ∧
      HEq answer (.ok () : Except Failure Unit) := by
  obtain ⟨lease, logged⟩ := made
  rcases answered.mem_log.mp logged with old | new
  · exact .inl ⟨lease, old⟩
  · obtain ⟨rfl, rfl, same⟩ := Entry.answered.inj new
    exact .inr ⟨rfl, lease, rfl, same.symm⟩

theorem selected {provider : String} {now : ℤ} (selected : Selected other provider now row before) :
    Selected other provider now row after := by
  obtain ⟨createdFrom, logged, claimable⟩ := selected
  exact ⟨createdFrom, answered.mem_log.mpr (.inl logged), claimable⟩

theorem owners_after {final : HostId → Option ι} (owned : Owners owners before)
    (stepped : Ledger.step owners (opTransfer task op answer) = some final) :
    Owners final after := by
  rw [Owners, answered.log, List.map_append, List.map_singleton, Ledger.run_append,
    show Ledger.run _ _ = some owners from owned]
  exact stepped

/-- An owned host stays claimed until it is given back. -/
theorem claimedAt_kept (known : actor.Standing task before)
    (allowed : (Provisioner.contract deployment).allows actor op) (spent : Spent id before)
    (held : ∀ old, before.state.hosts.get id = some old → old.claimedAt ≠ none)
    (kept : opTransfer task op answer ≠ .give task id)
    (present : after.state.hosts.get id = some row) : row.claimedAt ≠ none := by
  have step := answered.outcome.rowStep present
  cases step with
  | kept was => exact held row was
  | claim was => simp [Host.claimColumns]
  | stamp was =>
      have claimed := held _ was
      exact claimed
  | insert same =>
      obtain ⟨drew, unborn⟩ := known.drawn _ allowed.1
      exact absurd (spent.2 task (same ▸ drew)) (same ▸ unborn)
  | @update place columns old was =>
      have claimed := held old was
      rw [Host.set_claimedAt]
      suffices silent : columns.claimedAt = none by simpa [silent] using claimed
      cases place with
      | progress => exact allowed.2.2.2.1
      | failure => exact allowed.2.2.2.1
      | renewal => exact allowed.2.1
      | deviceRelease => exact allowed.2.1
      | disposal =>
          rcases allowed.2.2 with given | ⟨silent, -⟩
          · simp [opTransfer, given] at kept
          · exact silent

/-- What the pool chose is spent, and no caller made it. -/
theorem chosen (pool : Pool asked pools before) (registry : Registry before)
    (known : actor.Standing task before)
    (stands : Standing asked pools task (actor, claimant) before)
    (allowed : (Provisioner.contract deployment).allows actor op)
    (allowed_claim : Claimant.contract.allows claimant op)
    (chosen : (∃ task, Claimed task id after) ∨ Shed id after) :
    Spent id after ∧
      ∀ {maker host}, Made maker host after → host.id = id → host.poolMember = true := by
  -- Either it was chosen before, or its row is there now and is a pool member.
  have cases : (((∃ task, Claimed task id before) ∨ Shed id before) ∨
      ∃ row, before.state.hosts.get id = some row ∧ row.poolMember = true) := by
    rcases chosen with ⟨owner, claimed⟩ | shed
    · rcases claimed_cases answered claimed with old | takes
      · exact .inl (.inl ⟨owner, old⟩)
      · obtain ⟨-, serviceAccount, now, expiresAt, row, rfl, same⟩ := opTransfer_take takes
        obtain rfl := eq_of_heq same
        obtain ⟨-, old, was, -⟩ := answered.outcome
        obtain ⟨provider, found, -, selected, same⟩ :=
          claim_row known stands allowed_claim was
        exact .inr ⟨old, was, same.poolMember.trans selected.poolMember⟩
    · rcases shed_cases answered shed with old | present
      · exact .inl (.inr old)
      · exact .inr present
  have spent : Spent id before := by
    rcases cases with before | ⟨row, present, -⟩
    · exact (pool.chosen before).1
    · exact registry.spent present
  refine ⟨answered.spent spent, fun {maker host} made same => ?_⟩
  rcases made_cases answered made with old | ⟨rfl, lease, rfl, -⟩
  · rcases cases with before | ⟨row, present, member⟩
    · exact (pool.chosen before).2 old same
    · rw [← (pool.made old).2 row (same ▸ present), member]
  · obtain ⟨drew, unborn⟩ := known.drawn _ allowed.1
    exact absurd (spent.2 maker (same ▸ drew)) (same ▸ unborn)

theorem made_kept (pool : Pool asked pools before) (known : actor.Standing task before)
    (stands : Standing asked pools task (actor, claimant) before)
    (allowed : (Provisioner.contract deployment).allows actor op)
    (allowed_claim : Claimant.contract.allows claimant op) (made : Made other host after) :
    host.poolMember = pools other ∧
      ∀ row, after.state.hosts.get host.id = some row → row.poolMember = host.poolMember := by
  rcases made_cases answered made with old | ⟨rfl, lease, rfl, same⟩
  · refine ⟨(pool.made old).1, fun row present => ?_⟩
    rcases (answered.outcome.rowStep present).origin with
      ⟨was_row, was, origin⟩ | ⟨lease, rfl, -, same, -⟩
    · exact origin.poolMember.trans ((pool.made old).2 was_row was)
    · obtain ⟨-, unborn⟩ := known.drawn _ allowed.1
      obtain ⟨lease, logged⟩ := old
      exact absurd ⟨other, host, lease, same.symm, logged⟩ unborn
  · obtain rfl := eq_of_heq same
    refine ⟨allowed_claim.trans stands.pool, fun row present => ?_⟩
    rw [answered.hosts_get] at present
    obtain rfl : host = row := by simpa [Op.hostEffect, HostQuery.effect] using present
    rfl

theorem claims_kept (pool : Pool asked pools before) (registry : Registry before)
    (known : actor.Standing task before)
    (stands : Standing asked pools task (actor, claimant) before)
    (allowed_claim : Claimant.contract.allows claimant op) {serviceAccount : Option String}
    {now : ℤ} {expiresAt : Option ℤ}
    (logged : Entry.answered other (.hosts (.claim id serviceAccount now expiresAt)) (some row) ∈
      after.log) :
    ∃ provider found, asked other = some provider ∧ Selected other provider now found after ∧
      row.id = id ∧ row.SameOrigin found := by
  rcases answered.mem_log.mp logged with old | new
  · obtain ⟨provider, found, asks, selection, same, origin⟩ := pool.claims old
    exact ⟨provider, found, asks, selected answered selection, same, origin⟩
  · obtain ⟨rfl, rfl, same⟩ := Entry.answered.inj new
    obtain rfl := eq_of_heq same
    obtain ⟨-, old, was, -, rfl, -⟩ := answered.outcome
    obtain ⟨provider, found, asks, selection, origin⟩ := claim_row known stands allowed_claim was
    have same : old.id = id := registry.host_id was
    exact ⟨provider, found, asks, selected answered selection, same,
      (Host.SameOrigin.set _ _).trans origin⟩

theorem ledger_kept (pool : Pool asked pools before) (known : actor.Standing task before)
    (stands : Standing asked pools task (actor, claimant) before)
    (allowed : (Provisioner.contract deployment).allows actor op)
    (allowed_claim : Claimant.contract.allows claimant op) :
    ∃ owners final, Owners owners before ∧
      Ledger.step owners (opTransfer task op answer) = some final ∧
      ∀ {id owner}, final id = some owner → Claimed owner id after ∧
        ∀ row, after.state.hosts.get id = some row → row.claimedAt ≠ none := by
  obtain ⟨owners, owned, holds⟩ := pool.ledger
  have keeps {id : HostId} {owner : ι} (owns : owners id = some owner)
      (kept : opTransfer task op answer ≠ .give task id) : Claimed owner id after ∧
        ∀ row, after.state.hosts.get id = some row → row.claimedAt ≠ none := by
    obtain ⟨was_claimed, held⟩ := holds owns
    have spent := (pool.chosen (.inl ⟨owner, was_claimed⟩)).1
    exact ⟨claimed answered was_claimed, fun row present =>
      claimedAt_kept answered known allowed spent held kept present⟩
  cases moves : opTransfer task op answer with
  | pass =>
      refine ⟨owners, owners, owned, rfl, fun owns => ?_⟩
      exact keeps owns (by simp [moves])
  | take owner key =>
      obtain ⟨rfl, serviceAccount, now, expiresAt, row, rfl, same⟩ := opTransfer_take moves
      obtain rfl := eq_of_heq same
      obtain ⟨-, old, was, unclaimed, rfl, -⟩ := answered.outcome
      have free : owners key = none := by
        cases owns : owners key with
        | none => rfl
        | some holder => exact absurd unclaimed ((holds owns).2 old was)
      refine ⟨owners, Function.update owners key (some owner), owned,
        by rw [Ledger.step, if_pos free], ?_⟩
      intro id holder owns
      by_cases same : id = key
      · subst same
        obtain rfl : owner = holder := by simpa using owns
        refine ⟨⟨serviceAccount, now, expiresAt, _, answered.mem_log.mpr (.inr rfl)⟩, ?_⟩
        intro row present
        rw [answered.hosts_get] at present
        obtain rfl : _ = row := by simpa [Op.hostEffect, HostQuery.effect] using present
        simp [Host.claimColumns]
      · rw [Function.update_of_ne same] at owns
        exact keeps owns (by simp [moves])
  | give owner key =>
      obtain ⟨rfl, columns, rfl, same, given⟩ := opTransfer_give moves
      have legal : owners key = none ∨ owners key = some owner := by
        rcases stands.held allowed_claim with ⟨others, owned_too, owns⟩ | ⟨host, made, same, fresh⟩
        · obtain rfl : owners = others := Option.some.inj (owned.symm.trans owned_too)
          exact .inr owns
        · left
          cases owns : owners key with
          | none => rfl
          | some holder =>
              have member := (pool.chosen (.inl ⟨holder, (holds owns).1⟩)).2 made same
              rw [fresh] at member
              cases member
      refine ⟨owners, Function.update owners key none, owned,
        by rw [Ledger.step, if_pos legal], ?_⟩
      intro id holder owns
      by_cases same : id = key
      · subst same
        simp at owns
      · rw [Function.update_of_ne same] at owns
        refine keeps owns ?_
        rw [moves]
        rintro ⟨⟩
        exact same rfl

theorem pool_kept (pool : Pool asked pools before) (registry : Registry before)
    (known : actor.Standing task before)
    (stands : Standing asked pools task (actor, claimant) before)
    (allowed : (Provisioner.contract deployment).allows actor op)
    (allowed_claim : Claimant.contract.allows claimant op) : Pool asked pools after where
  ledger := by
    obtain ⟨owners, final, owned, stepped, holds⟩ :=
      ledger_kept answered pool known stands allowed allowed_claim
    exact ⟨final, owners_after answered owned stepped, holds⟩
  made := made_kept answered pool known stands allowed allowed_claim
  chosen := chosen answered pool registry known stands allowed allowed_claim
  claims := claims_kept answered pool registry known stands allowed_claim

theorem standing_self (pool : Pool asked pools before) (known : actor.Standing task before)
    (stands : Standing asked pools task (actor, claimant) before)
    (allowed : (Provisioner.contract deployment).allows actor op)
    (allowed_claim : Claimant.contract.allows claimant op) :
    Standing asked pools task ((Provisioner.contract deployment).next actor op answer,
      Claimant.contract.next claimant op answer) after where
  provider := next_asked.1.trans stands.provider
  pool := next_asked.2.trans stands.pool
  selected {now row} selection := by
    have cases : (claimant.selected = some (now, row) ∧
        ((Provisioner.contract deployment).next actor op answer).candidate = actor.candidate) ∨ _ :=
      next_selected deployment selection
    rcases cases with ⟨old, same⟩ | ⟨provider, createdFrom, rfl, same⟩
    · obtain ⟨candidate, provider, asks, selection⟩ := stands.selected old
      exact ⟨same.trans candidate, provider, asks, selected answered selection⟩
    · obtain rfl := eq_of_heq same
      obtain ⟨-, claimable, -⟩ := answered.outcome
      exact ⟨rfl, provider, stands.provider.symm.trans allowed_claim, createdFrom,
        answered.mem_log.mpr (.inr rfl), claimable⟩
  own {mine} owns := by
    rcases Provisioner.next_own deployment owns with ⟨old, owned, same⟩ | ⟨lease, rfl, same⟩
    · obtain ⟨host, made_host, origin⟩ := stands.own owned
      exact ⟨host, made answered made_host, same.trans origin⟩
    · obtain rfl := eq_of_heq same
      exact ⟨mine, ⟨lease, answered.mem_log.mpr (.inr rfl)⟩, .refl mine⟩
  held {id} holds := by
    obtain ⟨owners, final, owned, stepped, -⟩ :=
      ledger_kept answered pool known stands allowed allowed_claim
    have cases : (claimant.held = some id ∧ opTransfer task op answer ≠ .give task id) ∨ _ :=
      next_held holds
    rcases cases with ⟨old, kept⟩ | takes | ⟨initial, expiresAt, updatedAt, rfl, fresh⟩
    · rcases stands.held old with ⟨others, owned_too, owns⟩ | ⟨host, made_host, same, fresh⟩
      · obtain rfl : owners = others := Option.some.inj (owned.symm.trans owned_too)
        exact .inl ⟨final, owners_after answered owned stepped, Ledger.step_keeps stepped owns kept⟩
      · exact .inr ⟨host, made answered made_host, same, fresh⟩
    · refine .inl ⟨final, owners_after answered owned stepped, ?_⟩
      simp only [takes, Ledger.step, Option.ite_none_right_eq_some, Option.some.injEq] at stepped
      rw [← stepped.2, Function.update_self]
    · obtain ⟨mine, owns, same, -⟩ := allowed
      obtain ⟨host, made_host, origin⟩ := stands.own owns
      refine .inr ⟨host, made answered made_host, origin.id.symm.trans same, ?_⟩
      rw [(pool.made made_host).1, ← stands.pool, fresh]

theorem standing_other (pool : Pool asked pools before) (known : actor.Standing task before)
    (stands : Standing asked pools task (actor, claimant) before)
    (allowed : (Provisioner.contract deployment).allows actor op)
    (allowed_claim : Claimant.contract.allows claimant op) (different : other ≠ task)
    {phases : Provisioner × Claimant} (standing : Standing asked pools other phases before) :
    Standing asked pools other phases after where
  provider := standing.provider
  pool := standing.pool
  selected selection := by
    obtain ⟨candidate, provider, asks, selection⟩ := standing.selected selection
    exact ⟨candidate, provider, asks, selected answered selection⟩
  own owns := by
    obtain ⟨host, made_host, origin⟩ := standing.own owns
    exact ⟨host, made answered made_host, origin⟩
  held {id} holds := by
    rcases standing.held holds with ⟨others, owned_too, owns⟩ | ⟨host, made_host, same, fresh⟩
    · obtain ⟨owners, final, owned, stepped, -⟩ :=
        ledger_kept answered pool known stands allowed allowed_claim
      obtain rfl : owners = others := Option.some.inj (owned.symm.trans owned_too)
      refine .inl ⟨final, owners_after answered owned stepped, Ledger.step_keeps stepped owns ?_⟩
      intro gives
      exact different (opTransfer_give gives).1
    · exact .inr ⟨host, made answered made_host, same, fresh⟩

end Answered

theorem owners_abandoned (owned : Owners owners before) :
    Owners owners (deployment.system.abandoned task before) := by
  rw [Owners, System.abandoned, List.map_append, List.map_singleton, Ledger.run_append,
    show Ledger.run _ _ = some owners from owned]
  rfl

section Unanswered

variable (same : Deployment.Unanswered before after)
  (owned : ∀ {owners}, Owners owners before → Owners owners after)
include same owned

theorem pool_unanswered (pool : Pool asked pools before) : Pool asked pools after where
  ledger := by
    obtain ⟨owners, owns, holds⟩ := pool.ledger
    refine ⟨owners, owned owns, fun owns => ?_⟩
    simp only [Claimed, same.log, same.hosts]
    exact holds owns
  made made := by
    simp only [Made, same.log] at made
    rw [same.hosts]
    exact pool.made made
  chosen := by
    simp only [Claimed, Shed, Made, same.log, same.spent]
    exact pool.chosen
  claims := by
    simp only [Selected, same.log]
    exact pool.claims

theorem standing_unanswered {phases : Provisioner × Claimant}
    (stands : Standing asked pools task phases before) :
    Standing asked pools task phases after where
  provider := stands.provider
  pool := stands.pool
  selected := by
    simp only [Selected, same.log]
    exact stands.selected
  own := by
    simp only [Made, same.log]
    exact stands.own
  held holds := by
    simp only [Made, same.log]
    rcases stands.held holds with ⟨owners, owns, mine⟩ | made
    · exact .inl ⟨owners, owned owns, mine⟩
    · exact .inr made

end Unanswered

theorem expects_of_provisioner
    (expected : (Provisioner.contract deployment).expects actor op answer) :
    Claimant.contract.expects claimant op answer := by
  cases op with
  | hosts query =>
      cases query with
      | get | claim =>
          cases answer with
          | none => trivial
          | some row => exact expected.1
      | lock | expired | warm | excess | count | candidate | insert | update | stamp | delete =>
          trivial
  | clock | uuid7 | advisoryLock | rollback | keys | templates | outside | vm => trivial

/-- Every run keeps the pool and what each task knows, whatever happens to the tasks. -/
theorem upheld (deployment : Deployment) (asked : ι → Option String) (pools : ι → Bool) :
    Upheld (deployment.system : System ι _ _ _ _) {}
      ((Provisioner.contract deployment).prod Claimant.contract)
      (fun world => Registry world ∧ Pool asked pools world)
      fun task phases world =>
        phases.1.Standing task world ∧ Standing asked pools task phases world where
  perform {task phases op choice answer before after} allowed holds stands _ answered := by
    have answered := Deployment.answered answered
    have expected := answered.expected holds.1 stands.1 allowed.1
    exact ⟨⟨expected, expects_of_provisioner expected⟩,
      ⟨answered.registry holds.1 stands.1 allowed.1,
        pool_kept answered holds.2 holds.1 stands.1 stands.2 allowed.1 allowed.2⟩,
      answered.standing_self holds.1 stands.1 allowed.1,
      standing_self answered holds.2 stands.1 stands.2 allowed.1 allowed.2⟩
  others allowed holds stands _ answered different held := by
    have answered := Deployment.answered answered
    exact ⟨answered.standing_other holds.1 stands.1 allowed.1 different held.1,
      standing_other answered holds.2 stands.1 stands.2 allowed.1 allowed.2 different held.2⟩
  abandon {task before} _ holds := by
    have same : Deployment.Unanswered before (deployment.system.abandoned task before) :=
      .abandoned task before
    exact ⟨⟨same.registry holds.1, pool_unanswered same owners_abandoned holds.2⟩,
      fun _ held => ⟨same.stands held.1, standing_unanswered same owners_abandoned held.2⟩⟩
  world _ holds moved := by
    have same := Deployment.Unanswered.nature moved
    exact ⟨⟨same.registry holds.1, pool_unanswered same id holds.2⟩,
      fun held => ⟨same.stands held.1, standing_unanswered same id held.2⟩⟩

end PoolClaims

/-- A task that may touch the pool. -/
inductive PoolCall where
  /-- A claim of its own. -/
  | claim (request : HostRequest) (provider : String)
  | service (call : HostCall)

namespace PoolCall

/-- The program of a call, in a session of its own. -/
def program (deployment : Deployment) : PoolCall → Task Reply
  | claim request provider =>
      (fun found => found.elim .done .host) <$>
        inSession (tryClaimPoolHost deployment request provider)
  | service call => call.program deployment

/-- The provider that a call may claim from. -/
def asked (deployment : Deployment) : PoolCall → Option String
  | claim _ provider => some provider
  | service call => (Claimant.initial deployment call).provider

/-- The hosts that a call creates are pool members. -/
def pools (deployment : Deployment) : PoolCall → Bool
  | claim _ _ => false
  | service call => (Claimant.initial deployment call).pool

/-- What a task may know before its first step. -/
def initial (deployment : Deployment) (call : PoolCall) : Claimant where
  provider := call.asked deployment
  pool := call.pools deployment

theorem provisions (deployment : Deployment) (call : PoolCall) :
    Follows (Provisioner.contract deployment) (fun _ _ => True) {} (call.program deployment) := by
  cases call with
  | claim request provider =>
      have claims : Follows (Provisioner.contract deployment)
          (fun _ (_ : Except Failure (Option Host)) => True) {}
          (tryClaimPoolHost deployment request provider) :=
        (Provisioner.tryClaimPoolHost_follows (by rfl)).weaken fun _ _ _ => trivial
      refine .bind (.closing (claims.weaken fun _ outcome _ => ⟨trivial, fun _ _ => ?_⟩))
      cases outcome <;> trivial
  | service call => exact call.follows deployment

theorem follows (deployment : Deployment) (call : PoolCall) :
    Follows ((Provisioner.contract deployment).prod Claimant.contract) (fun _ _ => True)
      ({}, call.initial deployment) (call.program deployment) := by
  have claims : Follows Claimant.contract (fun _ (_ : Except Failure Reply) => True)
      (call.initial deployment) (call.program deployment) := by
    cases call with
    | claim request provider =>
        have claims : Follows Claimant.contract (fun _ (_ : Except Failure (Option Host)) => True)
            { provider := some provider } (tryClaimPoolHost deployment request provider) :=
          (Claimant.tryClaimPoolHost_follows (by rfl)).weaken fun _ _ _ => trivial
        refine .bind (.closing (claims.weaken fun _ outcome _ => ⟨trivial, fun _ _ => ?_⟩))
        cases outcome <;> trivial
    | service call =>
        have same : initial deployment (.service call) = Claimant.initial deployment call := by
          cases call <;> rfl
        rw [same]
        exact Claimant.program_follows call
  exact ((call.provisions deployment).prod claims).weaken fun _ _ _ => trivial

theorem selects (deployment : Deployment) (call : PoolCall) :
    Follows Selection.contract (fun _ _ => True) none (call.program deployment) := by
  cases call with
  | claim request provider =>
      have claims : Follows Selection.contract
          (Returns fun _ (_ : Option Host) => True) none
          (tryClaimPoolHost deployment request provider) :=
        Selection.tryClaimPoolHost_follows
      refine .bind (.closing (claims.weaken fun _ outcome _ => ⟨trivial, fun _ _ => ?_⟩))
      cases outcome <;> trivial
  | service call => exact Selection.program_follows call

/-- Any number of tasks that may touch the pool, over any committed rows. -/
def start {ι : Type} (deployment : Deployment) (state : State ι) (calls : ι → Option PoolCall) :
    Config ι Op.Answer (State ι) Failure Reply where
  world := { state, log := [] }
  tasks task := (calls task).map (program deployment)

end PoolCall

namespace PoolClaims

variable {ι : Type} [DecidableEq ι] {deployment : Deployment} {calls : ι → Option PoolCall}
  {state : State ι} {config : Config ι Op.Answer (State ι) Failure Reply}

/-- The hosts that an answer selects: the one that is found or claimed, those to shed, and those
that a count of the pool counts. -/
def Selects (state : State ι) : (op : Op) → op.Answer → HostId → Prop
  | .hosts (.candidate _ _ _), some row, id => row.id = id
  | .hosts (.claim target _ _ _), some _, id => target = id
  | .hosts (.excess _ _ _), ids, id => id ∈ ids
  | .hosts (.warm now), _, id => ∃ row, state.hosts.get id = some row ∧ row.warm now
  | _, _, _ => False

/-- The provider that a task was asked for. -/
def askedOf (deployment : Deployment) (calls : ι → Option PoolCall) (task : ι) : Option String :=
  (calls task).bind (PoolCall.asked deployment)

/-- The task creates pool members. -/
def poolsOf (deployment : Deployment) (calls : ι → Option PoolCall) (task : ι) : Bool :=
  (calls task).any (PoolCall.pools deployment)

theorem begins (rest : state.AtRest) :
    Registry (PoolCall.start deployment state calls).world ∧
      Pool (askedOf deployment calls) (poolsOf deployment calls)
        (PoolCall.start deployment state calls).world := by
  refine ⟨rest.registry, ⟨fun _ => none, rfl, by simp⟩, ?_, ?_, ?_⟩
  · rintro _ _ ⟨_, logged⟩
    cases logged
  · rintro _ (⟨_, _, _, _, _, logged⟩ | ⟨_, _, _, _, _, logged, -⟩) <;> cases logged
  · intro _ _ _ _ _ _ logged
    cases logged

theorem standing_initial {task : ι} {call : PoolCall} (called : calls task = some call)
    (world : Deployment.World ι) :
    Standing (askedOf deployment calls) (poolsOf deployment calls) task
      ({}, call.initial deployment) world := by
  refine ⟨?_, ?_, by simp [PoolCall.initial], by simp, by simp [PoolCall.initial]⟩
  · simp [PoolCall.initial, askedOf, called]
  · simp [PoolCall.initial, poolsOf, called]

theorem upholds (rest : state.AtRest)
    (reach : deployment.system.Reaches {} (PoolCall.start deployment state calls) config) :
    Upholds ((Provisioner.contract deployment).prod Claimant.contract)
      (fun world =>
        Registry world ∧ Pool (askedOf deployment calls) (poolsOf deployment calls) world)
      (fun task phases world => phases.1.Standing task world ∧
        Standing (askedOf deployment calls) (poolsOf deployment calls) task phases world)
      (fun _ _ _ => True) config := by
  refine Upholds.reaches (upheld deployment _ _) ⟨begins rest, ?_⟩ reach
  intro task program present
  obtain ⟨call, called, rfl⟩ := Option.map_eq_some_iff.mp present
  exact ⟨({}, call.initial deployment), ⟨.initial task _, standing_initial called _⟩,
    call.follows deployment⟩

/-- A task selects a warm host right after it read the clock, and by that reading. -/
theorem selects_now
    (reach : deployment.system.Reaches {} (PoolCall.start deployment state calls) config)
    {front back : List (Entry ι Op.Answer)} {task : ι} {provider : String} {now : ℤ}
    {createdFrom : Option ℤ} {found : Option Host}
    (split : config.world.log =
      front ++ .answered task (.hosts (.candidate provider now createdFrom)) found :: back) :
    lastCall task front = some ⟨.clock, now⟩ := by
  have trivially : Upheld (deployment.system : System ι _ _ _ _) {} Selection.contract
      (fun _ => True) fun _ _ _ => True :=
    { perform := fun _ _ _ _ _ => ⟨trivial, trivial, trivial⟩
      others := fun _ _ _ _ _ _ _ => trivial
      abandon := fun _ _ => ⟨trivial, fun _ _ => trivial⟩
      world := fun _ _ _ => ⟨trivial, fun _ => trivial⟩ }
  have upholds : Upholds Selection.contract
      (fun world => True ∧ Selection.contract.Obeyed (fun _ : ι => none) world.log)
      (fun task phase world => True ∧ phase = Selection.contract.replay task none world.log)
      (fun _ _ _ => True) config := by
    refine Upholds.reaches (trivially.history fun _ => none) ⟨⟨trivial, Contract.obeyed_nil⟩, ?_⟩
      reach
    intro task program present
    obtain ⟨call, called, rfl⟩ := Option.map_eq_some_iff.mp present
    exact ⟨none, ⟨trivial, rfl⟩, call.selects deployment⟩
  exact upholds.inv.2 front task (.hosts (.candidate provider now createdFrom)) found back split

/-- An answer selects pool members only. -/
theorem selects_poolMember (rest : state.AtRest)
    (reach : deployment.system.Reaches {} (PoolCall.start deployment state calls) config)
    {task : ι} {op : Op} {resume : op.Answer → Task Reply} {choice : Choice} {answer : op.Answer}
    {after : Deployment.World ι} {id : HostId}
    (waits : config.tasks task = some (.call op resume))
    (answered : deployment.system.answer task op choice config.world = some (answer, after))
    (selects : Selects config.world.state op answer id) :
    ∃ row, config.world.state.hosts.get id = some row ∧ row.poolMember = true := by
  have held := upholds rest reach
  obtain ⟨⟨actor, claimant⟩, ⟨known, stands⟩, allowed, -⟩ := held.follows waits
  have outcome := (Deployment.answered answered).outcome
  cases op with
  | hosts query =>
      cases query with
      | candidate provider now createdFrom =>
          cases answer with
          | none => exact selects.elim
          | some row =>
              obtain ⟨⟨key, present⟩, claimable, -⟩ := outcome
              obtain rfl : row.id = key := held.inv.1.host_id present
              simp only [Host.claimable, Bool.and_eq_true] at claimable
              exact ⟨row, selects ▸ present, claimable.1.1.1.1.2⟩
      | claim target serviceAccount now expiresAt =>
          cases answer with
          | none => exact selects.elim
          | some row =>
              obtain ⟨-, old, was, -⟩ := outcome
              obtain ⟨provider, found, -, selected, same⟩ := claim_row known stands allowed.2 was
              exact ⟨old, selects ▸ was, same.poolMember.trans selected.poolMember⟩
      | excess provider now limit =>
          obtain ⟨row, present, warm⟩ := oldest_good outcome.1 selects
          simp only [Host.warm, Bool.and_eq_true] at warm
          exact ⟨row, present, warm.2.1.1⟩
      | warm now =>
          obtain ⟨row, present, warm⟩ := selects
          simp only [Host.warm, Bool.and_eq_true] at warm
          exact ⟨row, present, warm.1.1⟩
      | get | lock | expired | count | insert | update | stamp | delete => exact selects.elim
  | clock | uuid7 | advisoryLock | rollback | keys | templates | outside | vm => exact selects.elim

/-- Two claims, over one warm host. -/
def claimRace : Config Bool Op.Answer (State Bool) Failure Reply :=
  PoolCall.start Deployment.sample (.resting 2 (Table.empty.insert 1 (Host.sample 1)) .empty .empty)
    fun _ => some (.claim {} "exe")

/-- The first claim gets it. -/
def firstClaim : List (Event Bool Choice (Nature Bool)) :=
  [.perform true .go, .perform true (.number 1)] ++ .replicate 3 (.perform true .go)

end PoolClaims

end Drukbox
