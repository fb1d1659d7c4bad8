import Drukbox.Hosts.Lessor
import Drukbox.Hosts.Returns

/-!
# Leases within the lifetime

No lease outlives the provider: whatever a create, a claim or a release writes ends by the time that
the provider stops the VM.  The stamp at the end of a create spares what a renewal or a claim wrote
before it.
-/

namespace Drukbox

open Await HostService Registry PoolClaims

namespace Leases

variable {ι : Type} [DecidableEq ι]

/-- The lease ends by the time that the provider stops the VM. -/
def Within (deployment : Deployment) (row : Host) : Prop :=
  ∀ vm lifetime, deployment.getVmProvider (some row.provider) = .ok vm →
    vm.lifetime = some lifetime →
      ∃ expiresAt, row.expiresAt = some expiresAt ∧ expiresAt ≤ row.createdAt + lifetime

/-- A release gives the host back to the pool. -/
def Releases (id : HostId) : (op : Op) → op.Answer → Prop
  | .hosts (.update .disposal target columns), true => target = id ∧ columns.claimedAt = some none
  | _, _ => False

/-- A lease of the host is written, or its stamp finds another one and spares it. -/
def Writes (id : HostId) : (op : Op) → op.Answer → Prop
  | .hosts (.claim target _ _ _), some _ => target = id
  | .hosts (.stamp target _ _ _), _ => target = id
  | .hosts (.update .renewal target _), true => target = id
  | .hosts (.update .disposal target columns), true => target = id ∧ columns.claimedAt = some none
  | _, _ => False

/-- The provision of the host fails. -/
def Fails (id : HostId) : (op : Op) → op.Answer → Prop
  | .hosts (.update .failure target _), true => target = id
  | _, _ => False

/-- The host lost an idempotency race and is left to the janitor. -/
def Drops (id : HostId) : (op : Op) → op.Answer → Prop
  | .hosts (.update .disposal target columns), true => target = id ∧ columns.claimedAt ≠ some none
  | _, _ => False

/-- A step of the kind is in the history. -/
def Logged (kind : (op : Op) → op.Answer → Prop) (world : Deployment.World ι) : Prop :=
  ∃ task op answer, Entry.answered task op answer ∈ world.log ∧ kind op answer

/-- The provision of the host failed, or its caller left it to the janitor. -/
def Retired (id : HostId) (world : Deployment.World ι) : Prop :=
  Logged (Fails id) world ∨ Logged (Drops id) world

/-- The entry retires the host. -/
def Retires (id : HostId) : Entry ι Op.Answer → Prop
  | .answered _ op answer => Fails id op answer ∨ Drops id op answer
  | .abandoned _ => False

/-- A renewal of the host has committed, and nothing retired it since. -/
def Renewed (id : HostId) (log : List (Entry ι Op.Answer)) : Prop :=
  ∃ front task columns back,
    log = front ++ .answered task (.hosts (.update .renewal id columns)) true :: back ∧
      ∀ entry ∈ back, ¬ Retires id entry

/-- A task's renewal of the host was followed by its retirement. -/
def Overtaken (task : ι) (id : HostId) (log : List (Entry ι Op.Answer)) : Prop :=
  ∃ front columns back,
    log = front ++ .answered task (.hosts (.update .renewal id columns)) true :: back ∧
      callsOf task back = [] ∧ ∃ entry ∈ back, Retires id entry

/-- What an answer that returns a host promises of it.  `create_host` reads its row again after the
stamp, and `renew_host` after its commit. -/
def Right (deployment : Deployment) (explicits : ι → Option ℤ) (world : Deployment.World ι)
    (earlier : List (Entry ι Op.Answer)) : Entry ι Op.Answer → Prop
  | .answered task (.hosts (.get id)) (some row) =>
      row.id = id ∧
        (∀ initial expiresAt updatedAt,
          lastCall task earlier =
              some ⟨.hosts (.stamp id initial expiresAt updatedAt), ()⟩ → Within deployment row) ∧
          ∀ columns, lastCall task earlier = some ⟨.hosts (.update .renewal id columns), true⟩ →
            Within deployment row ∨ Overtaken task id earlier ∧ row.leaseOver world.state.now
  | .answered task (.hosts (.claim _ _ _ _)) (some row) =>
      Within deployment row ∧ ∀ instant, explicits task = some instant →
        row.expiresAt = some instant
  | _ => True

/-- What holds of the leases between any two steps. -/
structure Bound (deployment : Deployment) (explicits : ι → Option ℤ) (world : Deployment.World ι) :
    Prop where
  spent : ∀ {id}, Logged (Writes id) world ∨ Retired id world → Spent id world
  drew : ∀ {task host}, Made task host world → Drew task host.id world
  origin : ∀ {task host row}, Made task host world → world.state.hosts.get host.id = some row →
    row.SameOrigin host ∧ (host.poolMember = false → row.claimedAt = none)
  initial : ∀ {task host row}, Made task host world → world.state.hosts.get host.id = some row →
    ¬ Logged (Writes host.id) world → ¬ Retired host.id world → row.expiresAt = host.expiresAt
  bounded : ∀ {id row}, world.state.hosts.get id = some row → Logged (Writes id) world →
    ¬ Retired id world → Within deployment row
  renewed : ∀ {id row}, world.state.hosts.get id = some row → Renewed id world.log →
    Within deployment row
  retired : ∀ {id row}, world.state.hosts.get id = some row → Retired id world →
    Within deployment row ∨ row.leaseOver world.state.now
  failed : ∀ {id row}, world.state.hosts.get id = some row → Logged (Fails id) world →
    row.status = .error
  dropped : ∀ {id}, Logged (Drops id) world →
    ∃ task host, Made task host world ∧ host.id = id ∧ host.poolMember = false
  released : ∀ {id}, Logged (Releases id) world → ∃ task, Claimed task id world
  claimed : ∀ {task id row}, Claimed task id world → world.state.hosts.get id = some row →
    row.status = .active
  right : Each (Right deployment explicits world) world.log

structure Standing (deployment : Deployment) (explicits : ι → Option ℤ) (task : ι)
    (phases : (Provisioner × Claimant) × Lessor) (world : Deployment.World ι) : Prop where
  explicit : phases.2.explicit = explicits task
  own : ∀ {host}, phases.2.own = some host → Made task host world ∧ ¬ Logged (Drops host.id) world
  seen : ∀ {row}, phases.2.seen = some row → Spent row.id world ∧
    (∀ now, world.state.hosts.get row.id = some now → now.SameOrigin row) ∧
      (phases.1.2.held = some row.id →
        (row.claimedAt ≠ none ∧ ∃ owner, Claimed owner row.id world) ∨
          (row.claimedAt = none ∧
            ∃ host, Made task host world ∧ host.id = row.id ∧ host.poolMember = false))
  stamped : ∀ {id initial expiresAt updatedAt},
    lastCall task world.log = some ⟨.hosts (.stamp id initial expiresAt updatedAt), ()⟩ →
      ∃ host, Made task host world ∧ host.id = id ∧ ¬ Logged (Drops id) world ∧
        ∃ mine, phases.1.1.own = some mine ∧ mine.id = id ∧ mine.status = .active

variable {deployment : Deployment} {explicits : ι → Option ℤ} {task other : ι} {op : Op}
  {answer : op.Answer} {before after : Deployment.World ι} {actor : Provisioner}
  {claimant : Claimant} {lessor : Lessor} {id : HostId} {host row old : Host}
  {kind : (op : Op) → op.Answer → Prop} {asked : ι → Option String} {pools : ι → Bool}

omit [DecidableEq ι] in
theorem within_of_lease {expiresAt : Option ℤ} (lease : deployment.Lease old expiresAt)
    (origin : row.SameOrigin old) (same : row.expiresAt = expiresAt) : Within deployment row := by
  intro vm lifetime found limited
  obtain ⟨provider, requested, named, rfl⟩ := lease
  rw [origin.provider] at found
  obtain rfl : provider = vm := Except.ok.inj (named.symm.trans found)
  rw [same, origin.createdAt]
  unfold VMProvider.leaseEnd
  rw [limited]
  cases requested with
  | none => exact ⟨_, rfl, le_rfl⟩
  | some requested => exact ⟨_, rfl, min_le_right _ _⟩

omit [DecidableEq ι] in
theorem Within.congr (within : Within deployment old) (origin : row.SameOrigin old)
    (same : row.expiresAt = old.expiresAt) : Within deployment row := by
  intro vm lifetime found limited
  rw [same, origin.createdAt]
  exact within vm lifetime (origin.provider ▸ found) limited

omit [DecidableEq ι] in
theorem not_within {vm : VMProvider} {lifetime expiresAt : ℤ}
    (found : deployment.getVmProvider (some row.provider) = .ok vm)
    (limited : vm.lifetime = some lifetime) (lease : row.expiresAt = some expiresAt)
    (late : row.createdAt + lifetime < expiresAt) : ¬ Within deployment row := by
  intro within
  obtain ⟨ends, same, early⟩ := within vm lifetime found limited
  rw [lease] at same
  obtain rfl := Option.some.inj same
  omega

/-- What one step does to the lease of a row that is there before and after it. -/
inductive LeaseStep (deployment : Deployment) (id : HostId) (now : ℤ) (op : Op)
    (answer : op.Answer) (old row : Host) : Prop
  | kept (same : row.expiresAt = old.expiresAt) (unwritten : ¬ Writes id op answer)
      (unfailed : ¬ Fails id op answer) (undropped : ¬ Drops id op answer)
  | missed {initial : ℤ} {expiresAt : Option ℤ} {updatedAt : ℤ}
      (same : row.expiresAt = old.expiresAt)
      (stamps : op = .hosts (.stamp id initial expiresAt updatedAt))
      (missed : old.expiresAt ≠ some initial)
  | written (within : Within deployment row) (writes : Writes id op answer)
  | retired (past : row.leaseOver now) (unwritten : ¬ Writes id op answer)
      (retires : Fails id op answer ∨ Drops id op answer)

section Answered

variable (answered : deployment.Answered task op answer before after)
include answered

theorem logged : Logged kind after ↔ Logged kind before ∨ kind op answer := by
  constructor
  · rintro ⟨owner, call, value, entry, is⟩
    rcases answered.mem_log.mp entry with old | new
    · exact .inl ⟨owner, call, value, old, is⟩
    · obtain ⟨rfl, rfl, same⟩ := Entry.answered.inj new
      obtain rfl := eq_of_heq same
      exact .inr is
  · rintro (⟨owner, call, value, entry, is⟩ | is)
    · exact ⟨owner, call, value, answered.mem_log.mpr (.inl entry), is⟩
    · exact ⟨task, op, answer, answered.mem_log.mpr (.inr rfl), is⟩

theorem retired : Retired id after ↔
    Retired id before ∨ Fails id op answer ∨ Drops id op answer := by
  rw [Retired, logged answered, logged answered, Retired]
  tauto

/-- A row that was spent was there before. -/
theorem row_before (known : actor.Standing task before)
    (allowed : (Provisioner.contract deployment).allows actor op) (spent : Spent id before)
    (present : after.state.hosts.get id = some row) :
    ∃ old, before.state.hosts.get id = some old ∧ row.SameOrigin old := by
  rcases (answered.outcome.rowStep present).origin with found | ⟨lease, rfl, -, same, -⟩
  · exact found
  · obtain ⟨drew, unborn⟩ := known.drawn _ allowed.1
    exact absurd (spent.2 task (same ▸ drew)) (same ▸ unborn)

theorem lease_step (known : actor.Standing task before)
    (stands : Standing deployment explicits task ((actor, claimant), lessor) before)
    (allowed : (Provisioner.contract deployment).allows actor op)
    (leases : (Lessor.contract deployment).allows lessor op) (spent : Spent id before)
    (was : before.state.hosts.get id = some old) (present : after.state.hosts.get id = some row) :
    LeaseStep deployment id before.state.now op answer old row := by
  rw [answered.hosts_get, was] at present
  cases op with
  | clock | uuid7 | advisoryLock | rollback | keys | templates | outside | vm =>
      obtain rfl := Option.some.inj present
      exact .kept rfl not_false not_false not_false
  | hosts query =>
  cases query with
  | get | lock | expired | warm | excess | count | candidate =>
      obtain rfl := Option.some.inj present
      exact .kept rfl not_false not_false not_false
  | insert newborn lease =>
      cases answer with
      | error failure =>
          obtain rfl := Option.some.inj present
          exact .kept rfl not_false not_false not_false
      | ok =>
          simp only [Op.hostEffect, HostQuery.effect] at present
          split at present
          · next same =>
              obtain ⟨drew, unborn⟩ := known.drawn _ allowed.1
              exact absurd (spent.2 task (same ▸ drew)) (same ▸ unborn)
          · obtain rfl := Option.some.inj present
            exact .kept rfl not_false not_false not_false
  | claim target serviceAccount now expiresAt =>
      cases answer with
      | none =>
          obtain rfl := Option.some.inj present
          exact .kept rfl not_false not_false not_false
      | some claimed =>
          simp only [Op.hostEffect, HostQuery.effect] at present
          split at present
          · next same =>
              subst same
              obtain ⟨⟨seen, saw, same, lease⟩, -⟩ := leases
              obtain ⟨-, found, found_was, -, rfl, -⟩ := answered.outcome
              obtain rfl : old = found := Option.some.inj (was.symm.trans found_was)
              obtain rfl := Option.some.inj present
              obtain ⟨-, origin, -⟩ := stands.seen saw
              exact .written (within_of_lease lease ((Host.SameOrigin.set _ _).trans
                (origin _ (same ▸ was))) rfl) rfl
          · next different =>
              have other : target ≠ id := fun same => different same.symm
              obtain rfl := Option.some.inj present
              exact .kept rfl other not_false not_false
  | stamp target initial expiresAt updatedAt =>
      simp only [Op.hostEffect, HostQuery.effect, Option.map_some] at present
      split at present
      · next same =>
          subst same
          split at present
          · next matched =>
              obtain ⟨⟨seen, saw, same, lease⟩, -⟩ := leases
              obtain rfl := Option.some.inj present
              obtain ⟨-, origin, -⟩ := stands.seen saw
              exact .written (within_of_lease lease ((Host.SameOrigin.set _ _).trans
                (origin _ (same ▸ was))) rfl) rfl
          · next missed =>
              obtain rfl := Option.some.inj present
              exact .missed rfl rfl missed
      · next different =>
          have other : target ≠ id := fun same => different same.symm
          obtain rfl := Option.some.inj present
          exact .kept rfl other not_false not_false
  | delete target =>
      simp only [Op.hostEffect, HostQuery.effect] at present
      split at present
      · contradiction
      · obtain rfl := Option.some.inj present
        exact .kept rfl not_false not_false not_false
  | update place target columns =>
      cases answer with
      | false =>
          obtain rfl := Option.some.inj present
          cases place <;> exact .kept rfl not_false not_false not_false
      | true =>
      simp only [Op.hostEffect, HostQuery.effect, Option.map_some] at present
      split at present
      · next same =>
          subst same
          obtain rfl := Option.some.inj present
          cases place with
          | progress =>
              have silent := allowed.2.2.1
              exact .kept (by simp [silent]) not_false not_false not_false
          | failure =>
              obtain ⟨-, -, -, -, -, now, read, past⟩ := allowed
              refine .retired ?_ not_false (.inl rfl)
              simpa [Host.leaseOver, past] using known.readings now read
          | renewal =>
              obtain ⟨seen, expiresAt, saw, same, past, lease⟩ := leases
              obtain ⟨-, origin, -⟩ := stands.seen saw
              exact .written (within_of_lease lease ((Host.SameOrigin.set _ _).trans
                (origin _ (same ▸ was))) (by simp [past])) rfl
          | disposal =>
              obtain ⟨-, seen, saw, same, free, taken⟩ := leases
              by_cases claimed : seen.claimedAt = none
              · have silent := free claimed
                rcases allowed.2.2 with given | ⟨-, now, read, past⟩
                · rw [silent] at given
                  contradiction
                · refine .retired ?_ (fun given => ?_) (.inr ⟨rfl, by simp [silent]⟩)
                  · simpa [Host.leaseOver, past] using known.readings now read
                  · have given := given.2
                    rw [silent] at given
                    contradiction
              · obtain ⟨given, expiresAt, past, lease⟩ := taken claimed
                obtain ⟨-, origin, -⟩ := stands.seen saw
                exact .written (within_of_lease lease ((Host.SameOrigin.set _ _).trans
                  (origin _ (same ▸ was))) (by simp [past])) ⟨rfl, given⟩
          | deviceRelease =>
              have silent := allowed.2.2.2
              exact .kept (by simp [silent]) not_false not_false not_false
      · next different =>
          obtain rfl := Option.some.inj present
          have other : target ≠ id := fun same => different same.symm
          cases place with
          | progress | deviceRelease => exact .kept rfl not_false not_false not_false
          | failure => exact .kept rfl not_false other not_false
          | renewal => exact .kept rfl other not_false not_false
          | disposal =>
              exact .kept rfl (fun given => other given.1) not_false fun given => other given.1

theorem touched (registry : Registry before) (known : actor.Standing task before)
    (stands : Standing deployment explicits task ((actor, claimant), lessor) before)
    (allowed : (Provisioner.contract deployment).allows actor op)
    (leases : (Lessor.contract deployment).allows lessor op)
    (touches : Writes id op answer ∨ Fails id op answer ∨ Drops id op answer) :
    Spent id before := by
  have read {seen : Host} (saw : lessor.seen = some seen) (same : seen.id = id) : Spent id before :=
    same ▸ (stands.seen saw).1
  cases op with
  | clock | uuid7 | advisoryLock | rollback | keys | templates | outside | vm =>
      simp [Writes, Fails, Drops] at touches
  | hosts query =>
  cases query with
  | get | lock | expired | warm | excess | count | candidate | insert | delete =>
      simp [Writes, Fails, Drops] at touches
  | claim target =>
      cases answer with
      | none => simp [Writes, Fails, Drops] at touches
      | some claimed =>
          obtain rfl : target = id := by simpa [Writes, Fails, Drops] using touches
          obtain ⟨⟨seen, saw, same, -⟩, -⟩ := leases
          exact read saw same
  | stamp target =>
      obtain rfl : target = id := by simpa [Writes, Fails, Drops] using touches
      obtain ⟨⟨seen, saw, same, -⟩, -⟩ := leases
      exact read saw same
  | update place target columns =>
      cases answer with
      | false => cases place <;> simp [Writes, Fails, Drops] at touches
      | true =>
      cases place with
      | progress | deviceRelease => simp [Writes, Fails, Drops] at touches
      | failure =>
          obtain rfl : target = id := by simpa [Writes, Fails, Drops] using touches
          obtain ⟨-, ⟨mine, owns, same, -⟩, -⟩ := allowed
          obtain ⟨-, born, -⟩ := known.own mine owns
          exact same ▸ ⟨registry.born_issued born, fun _ _ => born⟩
      | renewal =>
          obtain rfl : target = id := by simpa [Writes, Fails, Drops] using touches
          obtain ⟨seen, -, saw, same, -⟩ := leases
          exact read saw same
      | disposal =>
          obtain rfl : target = id := by
            rcases touches with writes | fails | drops
            · exact writes.1
            · cases fails
            · exact drops.1
          obtain ⟨-, seen, saw, same, -⟩ := leases
          exact read saw same

theorem spent_kept (bound : Bound deployment explicits before) (registry : Registry before)
    (known : actor.Standing task before)
    (stands : Standing deployment explicits task ((actor, claimant), lessor) before)
    (allowed : (Provisioner.contract deployment).allows actor op)
    (leases : (Lessor.contract deployment).allows lessor op)
    (marked : Logged (Writes id) after ∨ Retired id after) : Spent id before := by
  have touch : Writes id op answer ∨ Fails id op answer ∨ Drops id op answer → Spent id before :=
    touched answered registry known stands allowed leases
  rw [logged answered, retired answered] at marked
  rcases marked with (old | writes) | old | retires
  · exact bound.spent (.inl old)
  · exact touch (.inl writes)
  · exact bound.spent (.inr old)
  · exact touch (.inr retires)

theorem settled_kept (registry : Registry before) (known : actor.Standing task before)
    (allowed : (Provisioner.contract deployment).allows actor op)
    (was : before.state.hosts.get id = some old) (settled : old.status.settled)
    (present : after.state.hosts.get id = some row) : row.status = old.status := by
  have same : old.id = id := registry.host_id was
  have agreed : Agrees old before := by
    intro now now_present
    obtain rfl : old = now := Option.some.inj (was.symm.trans (same ▸ now_present))
    exact ⟨.refl old, rfl⟩
  have agrees := answered.agrees known allowed (same.symm ▸ registry.spent was) agreed
    (.inl settled)
  exact (agrees row (same.symm ▸ present)).2

theorem initial_kept (bound : Bound deployment explicits before) (registry : Registry before)
    (known : actor.Standing task before)
    (stands : Standing deployment explicits task ((actor, claimant), lessor) before)
    (allowed : (Provisioner.contract deployment).allows actor op)
    (leases : (Lessor.contract deployment).allows lessor op)
    (made : Made other host after) (present : after.state.hosts.get host.id = some row)
    (unwritten : ¬ Logged (Writes host.id) after) (active : ¬ Retired host.id after) :
    row.expiresAt = host.expiresAt := by
  rcases made_cases answered made with old_made | ⟨rfl, lease, rfl, accepted⟩
  · obtain ⟨lease, logged_made⟩ := old_made
    have born : Inserted host.id before := ⟨other, host, lease, rfl, logged_made⟩
    have spent : Spent host.id before := ⟨registry.born_issued born, fun _ _ => born⟩
    obtain ⟨old, was, -⟩ := row_before answered known allowed spent present
    rw [logged answered, not_or] at unwritten
    rw [retired answered, not_or] at active
    have initial := bound.initial ⟨lease, logged_made⟩ was unwritten.1 active.1
    cases lease_step answered known stands allowed leases spent was present with
    | kept same => exact same.trans initial
    | missed same => exact same.trans initial
    | written within writes => exact absurd writes unwritten.2
    | retired past _ retires => exact absurd retires active.2
  · obtain rfl := eq_of_heq accepted
    rw [answered.hosts_get] at present
    obtain rfl : host = row := by simpa [Op.hostEffect, HostQuery.effect] using present
    rfl

theorem bounded_kept (bound : Bound deployment explicits before) (registry : Registry before)
    (known : actor.Standing task before)
    (stands : Standing deployment explicits task ((actor, claimant), lessor) before)
    (allowed : (Provisioner.contract deployment).allows actor op)
    (leases : (Lessor.contract deployment).allows lessor op)
    (present : after.state.hosts.get id = some row) (written : Logged (Writes id) after)
    (active : ¬ Retired id after) : Within deployment row := by
  have spent := spent_kept answered bound registry known stands allowed leases (.inl written)
  obtain ⟨old, was, origin⟩ := row_before answered known allowed spent present
  rw [retired answered, not_or] at active
  have before_bounded (earlier : Logged (Writes id) before) : Within deployment old :=
    bound.bounded was earlier active.1
  rw [logged answered] at written
  cases lease_step answered known stands allowed leases spent was present with
  | kept same unwritten =>
      rcases written with earlier | writes
      · exact (before_bounded earlier).congr origin same
      · exact absurd writes unwritten
  | missed same stamps missed =>
      -- The in-flight expiry is no longer there, so a lease was written before.
      suffices earlier : Logged (Writes id) before from (before_bounded earlier).congr origin same
      by_contra unwritten
      subst stamps
      obtain ⟨-, mine, owns, rfl, initial⟩ := leases
      obtain ⟨made, -⟩ := stands.own owns
      exact missed ((bound.initial made was unwritten active.1).trans initial)
  | written within => exact within
  | retired past _ retires => exact absurd retires active.2

omit [DecidableEq ι] answered in
theorem Renewed.written (renewed : Renewed id before.log) : Logged (Writes id) before := by
  obtain ⟨front, task, columns, back, split, -⟩ := renewed
  exact ⟨task, .hosts (.update .renewal id columns), true, by simp [split], rfl⟩

omit [DecidableEq ι] answered in
theorem renewed_append {log : List (Entry ι Op.Answer)} {entry : Entry ι Op.Answer}
    (renewed : Renewed id (log ++ [entry])) :
    (∃ task columns, entry = .answered task (.hosts (.update .renewal id columns)) true) ∨
      Renewed id log ∧ ¬ Retires id entry := by
  obtain ⟨front, task, columns, back, split, unretired⟩ := renewed
  rcases List.eq_nil_or_concat back with rfl | ⟨rest, last, rfl⟩
  · obtain ⟨-, same⟩ := List.append_inj' split rfl
    exact .inl ⟨task, columns, List.singleton_inj.mp same⟩
  · rw [List.concat_eq_append, ← List.cons_append, ← List.append_assoc] at split
    obtain ⟨rfl, same⟩ := List.append_inj' split rfl
    obtain rfl := List.singleton_inj.mp same
    exact .inr ⟨⟨front, task, columns, rest, rfl, fun other member =>
      unretired other (by simp [member])⟩, unretired entry (by simp)⟩

theorem renewed_kept (bound : Bound deployment explicits before) (registry : Registry before)
    (known : actor.Standing task before)
    (stands : Standing deployment explicits task ((actor, claimant), lessor) before)
    (allowed : (Provisioner.contract deployment).allows actor op)
    (leases : (Lessor.contract deployment).allows lessor op)
    (present : after.state.hosts.get id = some row) (renewed : Renewed id after.log) :
    Within deployment row := by
  have spent := spent_kept answered bound registry known stands allowed leases
    (.inl renewed.written)
  obtain ⟨old, was, origin⟩ := row_before answered known allowed spent present
  rw [answered.log] at renewed
  cases lease_step answered known stands allowed leases spent was present with
  | written within => exact within
  | kept same unwritten =>
      rcases renewed_append renewed with ⟨owner, columns, last⟩ | ⟨earlier, -⟩
      · obtain ⟨-, rfl, accepted⟩ := Entry.answered.inj last
        obtain rfl := eq_of_heq accepted
        exact absurd rfl unwritten
      · exact (bound.renewed was earlier).congr origin same
  | missed same stamps =>
      rcases renewed_append renewed with ⟨owner, columns, last⟩ | ⟨earlier, -⟩
      · obtain ⟨-, rfl, -⟩ := Entry.answered.inj last
        simp at stamps
      · exact (bound.renewed was earlier).congr origin same
  | retired past unwritten retires =>
      rcases renewed_append renewed with ⟨owner, columns, last⟩ | ⟨-, unretired⟩
      · obtain ⟨-, rfl, accepted⟩ := Entry.answered.inj last
        obtain rfl := eq_of_heq accepted
        exact absurd rfl unwritten
      · exact absurd retires unretired

theorem retired_kept (bound : Bound deployment explicits before) (registry : Registry before)
    (known : actor.Standing task before)
    (stands : Standing deployment explicits task ((actor, claimant), lessor) before)
    (allowed : (Provisioner.contract deployment).allows actor op)
    (leases : (Lessor.contract deployment).allows lessor op)
    (present : after.state.hosts.get id = some row) (gone : Retired id after) :
    Within deployment row ∨ row.leaseOver after.state.now := by
  have spent := spent_kept answered bound registry known stands allowed leases (.inr gone)
  obtain ⟨old, was, origin⟩ := row_before answered known allowed spent present
  rw [answered.now]
  have moved (same : row.expiresAt = old.expiresAt) (earlier : Retired id before) :
      Within deployment row ∨ row.leaseOver before.state.now := by
    rcases bound.retired was earlier with within | past
    · exact .inl (within.congr origin same)
    · exact .inr (by simpa [Host.leaseOver, same] using past)
  rw [retired answered] at gone
  cases lease_step answered known stands allowed leases spent was present with
  | kept same _ unfailed undropped =>
      rcases gone with earlier | fails | drops
      · exact moved same earlier
      · exact absurd fails unfailed
      · exact absurd drops undropped
  | missed same stamps =>
      subst stamps
      rcases gone with earlier | fails | drops
      · exact moved same earlier
      · cases fails
      · cases drops
  | written within => exact .inl within
  | retired past => exact .inr past

theorem origin_kept (bound : Bound deployment explicits before) (registry : Registry before)
    (known : actor.Standing task before)
    (pooled : PoolClaims.Standing asked pools task (actor, claimant) before)
    (allowed : (Provisioner.contract deployment).allows actor op)
    (claims : Claimant.contract.allows claimant op)
    (made : Made other host after) (present : after.state.hosts.get host.id = some row) :
    row.SameOrigin host ∧ (host.poolMember = false → row.claimedAt = none) := by
  rcases made_cases answered made with old_made | ⟨rfl, lease, rfl, accepted⟩
  · obtain ⟨lease, logged_made⟩ := old_made
    have born : Inserted host.id before := ⟨other, host, lease, rfl, logged_made⟩
    have spent : Spent host.id before := ⟨registry.born_issued born, fun _ _ => born⟩
    obtain ⟨old, was, origin⟩ := row_before answered known allowed spent present
    obtain ⟨old_origin, unclaimed⟩ := bound.origin ⟨lease, logged_made⟩ was
    refine ⟨origin.trans old_origin, fun fresh => ?_⟩
    have free := unclaimed fresh
    have step := answered.outcome.rowStep present
    cases step with
    | kept now =>
        obtain rfl : old = row := Option.some.inj (was.symm.trans now)
        exact free
    | insert same =>
        obtain ⟨drew, unborn⟩ := known.drawn _ allowed.1
        exact absurd (spent.2 task (same ▸ drew)) (same ▸ unborn)
    | claim now =>
        obtain ⟨provider, found, -, selected, found_origin⟩ := claim_row known pooled claims now
        obtain rfl := Option.some.inj (was.symm.trans now)
        have member := found_origin.poolMember.trans selected.poolMember
        rw [old_origin.poolMember, fresh] at member
        contradiction
    | stamp now =>
        obtain rfl := Option.some.inj (was.symm.trans now)
        simpa using free
    | @update place columns _ now =>
        obtain rfl := Option.some.inj (was.symm.trans now)
        rw [Host.set_claimedAt, free]
        cases place with
        | progress | failure => simp [allowed.2.2.2.1]
        | renewal | deviceRelease => simp [allowed.2.1]
        | disposal => rcases allowed.2.2 with given | ⟨silent, -⟩ <;> simp [*]
  · obtain rfl := eq_of_heq accepted
    rw [answered.hosts_get] at present
    obtain rfl : host = row := by simpa [Op.hostEffect, HostQuery.effect] using present
    exact ⟨.refl host, fun _ => allowed.2.2.1⟩

omit [DecidableEq ι] answered in
theorem fails_cases (fails : Fails id op answer) :
    ∃ columns, op = .hosts (.update .failure id columns) ∧ HEq answer true := by
  cases op with
  | hosts query =>
      cases query with
      | update place target columns =>
          cases place <;> cases answer <;> cases fails
          exact ⟨columns, rfl, .rfl⟩
      | get | lock | expired | warm | excess | count | candidate | claim | insert
      | stamp | delete =>
          cases fails
  | clock | uuid7 | advisoryLock | rollback | keys | templates | outside | vm => cases fails

omit [DecidableEq ι] answered in
theorem disposes_cases (disposes : Drops id op answer ∨ Releases id op answer) :
    ∃ columns, op = .hosts (.update .disposal id columns) ∧ HEq answer true := by
  cases op with
  | hosts query =>
      cases query with
      | update place target columns =>
          cases place <;> cases answer <;> simp only [Drops, Releases, or_self] at disposes
          rcases disposes with ⟨rfl, -⟩ | ⟨rfl, -⟩ <;> exact ⟨columns, rfl, .rfl⟩
      | get | lock | expired | warm | excess | count | candidate | claim | insert
      | stamp | delete =>
          simp [Drops, Releases] at disposes
  | clock | uuid7 | advisoryLock | rollback | keys | templates | outside | vm =>
      simp [Drops, Releases] at disposes

theorem failed_kept (bound : Bound deployment explicits before) (registry : Registry before)
    (known : actor.Standing task before)
    (stands : Standing deployment explicits task ((actor, claimant), lessor) before)
    (allowed : (Provisioner.contract deployment).allows actor op)
    (leases : (Lessor.contract deployment).allows lessor op)
    (present : after.state.hosts.get id = some row) (failed : Logged (Fails id) after) :
    row.status = .error := by
  have spent := spent_kept answered bound registry known stands allowed leases (.inr (.inl failed))
  obtain ⟨old, was, -⟩ := row_before answered known allowed spent present
  rcases (logged answered).mp failed with earlier | fails
  · have error := bound.failed was earlier
    rw [settled_kept answered registry known allowed was (by rw [error]; rfl) present, error]
  · obtain ⟨columns, rfl, same⟩ := fails_cases fails
    obtain rfl := eq_of_heq same
    rw [answered.hosts_get, was] at present
    obtain rfl : old.set columns = row := by simpa [Op.hostEffect, HostQuery.effect] using present
    simp [allowed.2.2.1]

/-- Who disposes of a host made it, or somebody claimed it. -/
theorem disposed_cases
    (stands : Standing deployment explicits task ((actor, claimant), lessor) before)
    (claims : Claimant.contract.allows claimant op)
    (leases : (Lessor.contract deployment).allows lessor op) :
    (Drops id op answer →
        ∃ host, Made task host before ∧ host.id = id ∧ host.poolMember = false) ∧
      (Releases id op answer → ∃ owner, Claimed owner id before) := by
  have held {columns : HostColumns} (disposes : op = .hosts (.update .disposal id columns)) :
      (columns.claimedAt = some none ∧ ∃ owner, Claimed owner id before) ∨
        (columns.claimedAt = none ∧
          ∃ host, Made task host before ∧ host.id = id ∧ host.poolMember = false) := by
    subst disposes
    obtain ⟨-, seen, saw, rfl, free, taken⟩ := leases
    obtain ⟨-, -, held⟩ := stands.seen saw
    rcases held claims with ⟨claimed, owner⟩ | ⟨unclaimed, made⟩
    · exact .inl ⟨(taken claimed).1, owner⟩
    · exact .inr ⟨free unclaimed, made⟩
  constructor
  · intro drops
    obtain ⟨columns, rfl, same⟩ := disposes_cases (.inl drops)
    obtain rfl := eq_of_heq same
    rcases held rfl with ⟨given, -⟩ | ⟨-, made⟩
    · exact absurd given drops.2
    · exact made
  · intro releases
    obtain ⟨columns, rfl, same⟩ := disposes_cases (.inr releases)
    obtain rfl := eq_of_heq same
    rcases held rfl with ⟨-, owner⟩ | ⟨silent, -⟩
    · exact owner
    · have given := releases.2
      rw [silent] at given
      contradiction

theorem claimed_kept (bound : Bound deployment explicits before)
    (pool : Pool asked pools before) (registry : Registry before)
    (known : actor.Standing task before)
    (allowed : (Provisioner.contract deployment).allows actor op)
    (claimed : Claimed other id after) (present : after.state.hosts.get id = some row) :
    row.status = .active := by
  rcases claimed_cases answered claimed with earlier | takes
  · have spent := (pool.chosen (.inl ⟨other, earlier⟩)).1
    obtain ⟨old, was, -⟩ := row_before answered known allowed spent present
    have active := bound.claimed earlier was
    rw [settled_kept answered registry known allowed was (by rw [active]; rfl) present, active]
  · obtain ⟨-, serviceAccount, now, expiresAt, claimed, rfl, accepted⟩ := opTransfer_take takes
    obtain rfl := eq_of_heq accepted
    obtain ⟨-, warm, found, same⟩ := allowed
    obtain ⟨active, -, agrees⟩ := known.candidate warm found
    obtain ⟨-, old, was, -, rfl, -⟩ := answered.outcome
    rw [answered.hosts_get] at present
    obtain rfl : _ = row := by simpa [Op.hostEffect, HostQuery.effect] using present
    simp [Host.claimColumns, (agrees old (same ▸ was)).2, active]

omit answered in
theorem Right.mono {later : Deployment.World ι} {earlier : List (Entry ι Op.Answer)}
    {entry : Entry ι Op.Answer} (passes : before.state.now ≤ later.state.now)
    (right : Right deployment explicits before earlier entry) :
    Right deployment explicits later earlier entry := by
  unfold Right at right ⊢
  split
  · refine ⟨right.1, right.2.1, fun columns last => ?_⟩
    rcases right.2.2 columns last with within | ⟨gone, past⟩
    · exact .inl within
    · exact .inr ⟨gone, Host.leaseOver_mono past passes⟩
  · exact right
  · trivial

theorem right_last (bound : Bound deployment explicits before) (registry : Registry before)
    (known : actor.Standing task before)
    (stands : Standing deployment explicits task ((actor, claimant), lessor) before)
    (leases : (Lessor.contract deployment).allows lessor op) :
    Right deployment explicits after before.log (.answered task op answer) := by
  unfold Right
  split
  · next owner id row same =>
      obtain ⟨rfl, rfl, found⟩ := Entry.answered.inj same
      obtain rfl := eq_of_heq found
      obtain ⟨present, -⟩ := answered.outcome
      have present := present.symm
      refine ⟨registry.host_id present, ?_, ?_⟩
      · intro initial expiresAt updatedAt last
        obtain ⟨host, made, -, undropped, mine, owns, mine_id, active⟩ := stands.stamped last
        have status := ((known.own mine owns).2.2 row (mine_id ▸ present)).2
        apply bound.bounded present ⟨task, _, _, lastCall_mem last, rfl⟩
        rintro (failed | dropped)
        · have error := bound.failed present failed
          rw [status, active] at error
          contradiction
        · exact undropped dropped
      · intro columns last
        obtain ⟨front, back, split, behind⟩ := lastCall_split last
        by_cases gone : ∃ entry ∈ back, Retires id entry
        · have retired : Retired id before := by
            obtain ⟨entry, member, retires⟩ := gone
            cases entry with
            | abandoned owner => contradiction
            | answered owner op answer =>
                have logged : Entry.answered owner op answer ∈ before.log := by simp [split, member]
                rcases retires with fails | drops
                · exact .inl ⟨owner, op, answer, logged, fails⟩
                · exact .inr ⟨owner, op, answer, logged, drops⟩
          rcases bound.retired present retired with within | past
          · exact .inl within
          · exact .inr ⟨⟨front, columns, back, split, behind, gone⟩, answered.now ▸ past⟩
        · refine .inl (bound.renewed present ⟨front, task, columns, back, split, ?_⟩)
          exact fun entry member retires => gone ⟨entry, member, retires⟩
  · next owner id serviceAccount now expiresAt row logged =>
      obtain ⟨rfl, rfl, found⟩ := Entry.answered.inj logged
      obtain rfl := eq_of_heq found
      obtain ⟨⟨seen, saw, same, lease⟩, explicit⟩ := leases
      obtain ⟨-, old, was, -, rfl, -⟩ := answered.outcome
      obtain ⟨-, origin, -⟩ := stands.seen saw
      refine ⟨within_of_lease lease ((Host.SameOrigin.set _ _).trans (origin _ (same ▸ was))) rfl,
        fun instant asked => ?_⟩
      exact explicit instant (stands.explicit.trans asked)
  · trivial

theorem bound_kept (bound : Bound deployment explicits before)
    (pool : Pool asked pools before) (registry : Registry before)
    (known : actor.Standing task before)
    (pooled : PoolClaims.Standing asked pools task (actor, claimant) before)
    (stands : Standing deployment explicits task ((actor, claimant), lessor) before)
    (allowed : (Provisioner.contract deployment).allows actor op)
    (claims : Claimant.contract.allows claimant op)
    (leases : (Lessor.contract deployment).allows lessor op) :
    Bound deployment explicits after where
  spent marked :=
    answered.spent (spent_kept answered bound registry known stands allowed leases marked)
  drew {owner host} made := by
    rcases made_cases answered made with old | ⟨rfl, lease, rfl, -⟩
    · exact answered.drew (bound.drew old)
    · exact answered.drew (known.drawn _ allowed.1).1
  origin := origin_kept answered bound registry known pooled allowed claims
  initial := initial_kept answered bound registry known stands allowed leases
  bounded := bounded_kept answered bound registry known stands allowed leases
  renewed := renewed_kept answered bound registry known stands allowed leases
  retired := retired_kept answered bound registry known stands allowed leases
  failed := failed_kept answered bound registry known stands allowed leases
  dropped {id} dropped := by
    rcases (logged answered).mp dropped with earlier | drops
    · obtain ⟨owner, host, old, same, fresh⟩ := bound.dropped earlier
      exact ⟨owner, host, made answered old, same, fresh⟩
    · obtain ⟨host, old, same, fresh⟩ := (disposed_cases answered stands claims leases).1 drops
      exact ⟨task, host, made answered old, same, fresh⟩
  released {id} released := by
    rcases (logged answered).mp released with earlier | releases
    · obtain ⟨owner, old⟩ := bound.released earlier
      exact ⟨owner, PoolClaims.claimed answered old⟩
    · obtain ⟨owner, old⟩ := (disposed_cases answered stands claims leases).2 releases
      exact ⟨owner, PoolClaims.claimed answered old⟩
  claimed := claimed_kept answered bound pool registry known allowed
  right := by
    rw [answered.log]
    refine Each.append (bound.right.mono fun earlier entry right => ?_)
      (right_last answered bound registry known stands leases)
    exact right.mono answered.now.ge

/-- Only its maker drops a host. -/
theorem undropped_kept (bound : Bound deployment explicits before) (registry : Registry before)
    (stands : Standing deployment explicits task ((actor, claimant), lessor) before)
    (claims : Claimant.contract.allows claimant op)
    (leases : (Lessor.contract deployment).allows lessor op) (different : other ≠ task)
    (made : Made other host before) (undropped : ¬ Logged (Drops host.id) before) :
    ¬ Logged (Drops host.id) after := by
  intro dropped
  rcases (logged answered).mp dropped with earlier | drops
  · exact undropped earlier
  · obtain ⟨rival, made_too, same, -⟩ := (disposed_cases answered stands claims leases).1 drops
    exact different (registry.drew_unique (bound.drew made) (same ▸ bound.drew made_too))

theorem standing_other (bound : Bound deployment explicits before) (registry : Registry before)
    (known : actor.Standing task before)
    (stands : Standing deployment explicits task ((actor, claimant), lessor) before)
    (allowed : (Provisioner.contract deployment).allows actor op)
    (claims : Claimant.contract.allows claimant op)
    (leases : (Lessor.contract deployment).allows lessor op) (different : other ≠ task)
    {phases : (Provisioner × Claimant) × Lessor}
    (standing : Standing deployment explicits other phases before) :
    Standing deployment explicits other phases after where
  explicit := standing.explicit
  own owns := by
    obtain ⟨old, undropped⟩ := standing.own owns
    exact ⟨made answered old,
      undropped_kept answered bound registry stands claims leases different old undropped⟩
  seen {row} saw := by
    obtain ⟨spent, origin, held⟩ := standing.seen saw
    refine ⟨answered.spent spent, fun now present => ?_, fun holds => ?_⟩
    · obtain ⟨old, was, same⟩ := row_before answered known allowed spent present
      exact same.trans (origin old was)
    · rcases held holds with ⟨taken, owner, old⟩ | ⟨free, host, old, same⟩
      · exact .inl ⟨taken, owner, PoolClaims.claimed answered old⟩
      · exact .inr ⟨free, host, made answered old, same⟩
  stamped {id initial expiresAt updatedAt} last := by
    rw [answered.log, lastCall_other different.symm] at last
    obtain ⟨host, old, rfl, undropped, mine⟩ := standing.stamped last
    exact ⟨host, made answered old, rfl,
      undropped_kept answered bound registry stands claims leases different old undropped, mine⟩

omit [DecidableEq ι] answered in
theorem next_own (deployment : Deployment)
    (owns : ((Lessor.contract deployment).next lessor op answer).own = some host) :
    lessor.own = some host ∨
      ∃ lease, op = .hosts (.insert host lease) ∧ HEq answer (.ok () : Except Failure Unit) := by
  cases op with
  | hosts query =>
      cases query with
      | insert newborn lease =>
          cases answer with
          | error failure => exact .inl owns
          | ok =>
              obtain rfl : newborn = host := Option.some.inj owns
              exact .inr ⟨lease, rfl, .rfl⟩
      | stamp => cases owns
      | get | lock | expired | warm | excess | count | candidate | claim | update | delete =>
          exact .inl owns
  | clock | uuid7 | advisoryLock | rollback | keys | templates | outside | vm => exact .inl owns

omit [DecidableEq ι] answered in
/-- What a task saw last it saw before a reading of the clock, or it reads it now. -/
theorem next_seen (deployment : Deployment)
    (saw : ((Lessor.contract deployment).next lessor op answer).seen = some row) :
    (lessor.seen = some row ∧ op = .clock) ∨
      ((∃ id, op = .hosts (.get id)) ∨ (∃ id, op = .hosts (.lock id)) ∨
        ∃ provider now createdFrom, op = .hosts (.candidate provider now createdFrom)) ∧
          HEq answer (some row : Option Host) := by
  cases op with
  | hosts query =>
      cases query with
      | get id => exact .inr ⟨.inl ⟨id, rfl⟩, heq_of_eq saw⟩
      | lock id => exact .inr ⟨.inr (.inl ⟨id, rfl⟩), heq_of_eq saw⟩
      | candidate provider now createdFrom =>
          exact .inr ⟨.inr (.inr ⟨provider, now, createdFrom, rfl⟩), heq_of_eq saw⟩
      | insert => cases answer <;> cases saw
      | expired | warm | excess | count | claim | update | stamp | delete => cases saw
  | clock => exact .inl ⟨saw, rfl⟩
  | uuid7 | advisoryLock | rollback | keys | templates | outside | vm => cases saw

theorem seen_now (bound : Bound deployment explicits before)
    (pool : Pool asked pools before) (registry : Registry before)
    (pooled : PoolClaims.Standing asked pools task (actor, claimant) before)
    (hosts : after.state.hosts = before.state.hosts)
    (present : before.state.hosts.get row.id = some row) :
    Spent row.id after ∧ (∀ now, after.state.hosts.get row.id = some now → now.SameOrigin row) ∧
      (claimant.held = some row.id →
        (row.claimedAt ≠ none ∧ ∃ owner, Claimed owner row.id after) ∨
          (row.claimedAt = none ∧
            ∃ host, Made task host after ∧ host.id = row.id ∧ host.poolMember = false)) := by
  refine ⟨answered.spent (registry.spent present), fun now now_present => ?_, fun holds => ?_⟩
  · rw [hosts, present] at now_present
    obtain rfl := Option.some.inj now_present
    exact .refl row
  · rcases pooled.held holds with ⟨owners, owned, owns⟩ | ⟨host, old, same, fresh⟩
    · obtain ⟨others, owned_too, holders⟩ := pool.ledger
      obtain rfl : owners = others := Option.some.inj (owned.symm.trans owned_too)
      obtain ⟨claimed, taken⟩ := holders owns
      exact .inl ⟨taken row present, task, PoolClaims.claimed answered claimed⟩
    · have unclaimed := (bound.origin old (same ▸ present)).2 fresh
      exact .inr ⟨unclaimed, host, made answered old, same, fresh⟩

theorem expected (bound : Bound deployment explicits before)
    (stands : Standing deployment explicits task ((actor, claimant), lessor) before)
    (expected : (Provisioner.contract deployment).expects actor op answer) :
    (Lessor.contract deployment).expects lessor op answer := by
  cases op with
  | hosts query =>
      cases query with
      | get id =>
          cases answer with
          | none => trivial
          | some row =>
              obtain ⟨present, -⟩ := answered.outcome
              refine ⟨expected.1, fun host owns same => ?_⟩
              obtain ⟨old, -⟩ := stands.own owns
              exact (bound.origin old (same ▸ present.symm)).1
      | lock | candidate =>
          cases answer with
          | none => trivial
          | some row => exact expected
      | expired | warm | excess | count | claim | insert | update | stamp | delete => trivial
  | clock | uuid7 | advisoryLock | rollback | keys | templates | outside | vm => trivial

theorem standing_self (bound : Bound deployment explicits before)
    (pool : Pool asked pools before) (registry : Registry before)
    (known : actor.Standing task before)
    (pooled : PoolClaims.Standing asked pools task (actor, claimant) before)
    (stands : Standing deployment explicits task ((actor, claimant), lessor) before)
    (allowed : (Provisioner.contract deployment).allows actor op)
    (leases : (Lessor.contract deployment).allows lessor op) :
    Standing deployment explicits task
      (((Provisioner.contract deployment).next actor op answer,
        Claimant.contract.next claimant op answer),
        (Lessor.contract deployment).next lessor op answer) after where
  explicit := by
    refine Eq.trans ?_ stands.explicit
    cases op with
    | hosts query =>
        cases query with
        | insert => cases answer <;> rfl
        | get | lock | expired | warm | excess | count | candidate | claim | update
        | stamp | delete =>
            rfl
    | clock | uuid7 | advisoryLock | rollback | keys | templates | outside | vm => rfl
  own {host} owns := by
    rcases next_own deployment owns with kept | ⟨lease, rfl, accepted⟩
    · obtain ⟨old, undropped⟩ := stands.own kept
      refine ⟨made answered old, fun dropped => ?_⟩
      rcases (logged answered).mp dropped with earlier | drops
      · exact undropped earlier
      · obtain ⟨columns, rfl, -⟩ := disposes_cases (.inl drops)
        obtain ⟨none_own, -⟩ := leases
        rw [kept] at none_own
        contradiction
    · obtain rfl := eq_of_heq accepted
      refine ⟨⟨lease, answered.mem_log.mpr (.inr rfl)⟩, fun dropped => ?_⟩
      obtain ⟨drew, unborn⟩ := known.drawn _ allowed.1
      rcases (logged answered).mp dropped with earlier | drops
      · exact unborn ((bound.spent (.inr (.inr earlier))).2 task drew)
      · cases drops
  seen {row} saw := by
    rcases next_seen deployment saw with ⟨kept, rfl⟩ | ⟨reads, found⟩
    · obtain ⟨spent, origin, held⟩ := stands.seen kept
      have same : after.state = before.state := answered.outcome.2
      refine ⟨answered.spent spent, fun now present => origin now (same ▸ present), fun holds => ?_⟩
      rcases held holds with ⟨taken, owner, old⟩ | ⟨free, host, old, same⟩
      · exact .inl ⟨taken, owner, PoolClaims.claimed answered old⟩
      · exact .inr ⟨free, host, made answered old, same⟩
    · rcases reads with ⟨id, rfl⟩ | ⟨id, rfl⟩ | ⟨provider, now, createdFrom, rfl⟩ <;>
        obtain rfl := eq_of_heq found
      · obtain ⟨present, same⟩ := answered.outcome
        have row_id := registry.host_id present.symm
        exact seen_now answered bound pool registry pooled (by rw [same]) (row_id ▸ present.symm)
      · obtain ⟨-, present, same⟩ := answered.outcome
        have row_id := registry.host_id present
        exact seen_now answered bound pool registry pooled (by rw [same]) (row_id ▸ present)
      · obtain ⟨⟨id, present⟩, -, same⟩ := answered.outcome
        have row_id := registry.host_id present
        have read := seen_now answered bound pool registry pooled (by rw [same]) (row_id ▸ present)
        exact read
  stamped {id initial expiresAt updatedAt} last := by
    rw [answered.log, lastCall_self] at last
    obtain ⟨rfl, -⟩ := Sigma.mk.inj (Option.some.inj last)
    obtain ⟨-, host, owns, same, -⟩ := leases
    obtain ⟨mine, provisions, mine_id, active, -⟩ := allowed
    obtain ⟨old, undropped⟩ := stands.own owns
    refine ⟨host, made answered old, same, fun dropped => ?_, mine, provisions, mine_id, active⟩
    rcases (logged answered).mp dropped with earlier | drops
    · exact undropped (same ▸ earlier)
    · cases drops

end Answered

section Unanswered

variable (same : Deployment.Unanswered before after)
include same

omit [DecidableEq ι] in
theorem logged_unanswered : Logged kind after ↔ Logged kind before := by
  simp only [Logged, same.log]

omit [DecidableEq ι] in
theorem retired_unanswered : Retired id after ↔ Retired id before := by
  simp only [Retired, logged_unanswered same]

theorem bound_unanswered (renewals : ∀ {id}, Renewed id after.log → Renewed id before.log)
    (right : Each (Right deployment explicits after) after.log)
    (bound : Bound deployment explicits before) : Bound deployment explicits after where
  spent {id} := by
    rw [logged_unanswered same, retired_unanswered same, same.spent]
    exact bound.spent
  drew {owner host} := by
    simp only [Made, same.log, same.drew]
    exact bound.drew
  origin {owner host row} := by
    simp only [Made, same.log, same.hosts]
    exact bound.origin
  initial {owner host row} := by
    simp only [Made, same.log, same.hosts, logged_unanswered same, retired_unanswered same]
    exact bound.initial
  bounded {id row} := by
    simp only [same.hosts, logged_unanswered same, retired_unanswered same]
    exact bound.bounded
  renewed present renewed := bound.renewed (same.hosts ▸ present) (renewals renewed)
  retired {id row} := by
    simp only [same.hosts, retired_unanswered same]
    intro present gone
    rcases bound.retired present gone with within | past
    · exact .inl within
    · exact .inr (Host.leaseOver_mono past same.now)
  failed {id row} := by
    simp only [same.hosts, logged_unanswered same]
    exact bound.failed
  dropped {id} := by
    simp only [Made, same.log, logged_unanswered same]
    exact bound.dropped
  released {id} := by
    simp only [Claimed, same.log, logged_unanswered same]
    exact bound.released
  claimed {owner id row} := by
    simp only [Claimed, same.log, same.hosts]
    exact bound.claimed
  right := right

theorem standing_unanswered (last : lastCall task after.log = lastCall task before.log)
    {phases : (Provisioner × Claimant) × Lessor}
    (stands : Standing deployment explicits task phases before) :
    Standing deployment explicits task phases after where
  explicit := stands.explicit
  own := by
    simp only [Made, same.log, logged_unanswered same]
    exact stands.own
  seen := by
    simp only [Made, Claimed, same.log, same.hosts, same.spent]
    exact stands.seen
  stamped := by
    simp only [Made, same.log, last, logged_unanswered same]
    exact stands.stamped

end Unanswered

/-- Every run keeps the leases and what each task knows, whatever happens to the tasks. -/
theorem upheld (deployment : Deployment) (explicits : ι → Option ℤ) (asked : ι → Option String)
    (pools : ι → Bool) :
    Upheld (deployment.system : System ι _ _ _ _) {}
      (((Provisioner.contract deployment).prod Claimant.contract).prod (Lessor.contract deployment))
      (fun world => (Registry world ∧ Pool asked pools world) ∧ Bound deployment explicits world)
      fun task phases world =>
        (phases.1.1.Standing task world ∧ PoolClaims.Standing asked pools task phases.1 world) ∧
          Standing deployment explicits task phases world := by
  apply (PoolClaims.upheld deployment asked pools).extend
  case perform =>
    intro task phases op choice answer before after allowed holds stands _ answered expects
    have answered := Deployment.answered answered
    exact ⟨expected answered holds.2 stands.2 expects.1,
      bound_kept answered holds.2 holds.1.2 holds.1.1 stands.1.1 stands.1.2 stands.2
        allowed.1.1 allowed.1.2 allowed.2,
      standing_self answered holds.2 holds.1.2 holds.1.1 stands.1.1 stands.1.2 stands.2 allowed.1.1
        allowed.2⟩
  case others =>
    intro task phases op choice answer before after other standing allowed holds stands answered
      different held
    have answered := Deployment.answered answered
    exact standing_other answered holds.2 holds.1.1 stands.1.1 stands.2 allowed.1.1 allowed.1.2
      allowed.2 different held.2
  case abandon =>
    intro task before bound
    have same : Deployment.Unanswered before (deployment.system.abandoned task before) :=
      .abandoned task before
    have right : Each (Right deployment explicits (deployment.system.abandoned task before))
        (deployment.system.abandoned task before).log := by
      refine Each.append (bound.right.mono fun earlier entry right => ?_) trivial
      exact right.mono same.now
    refine ⟨bound_unanswered same (fun renewed => ?_) right bound,
      fun _ stands => standing_unanswered same lastCall_abandoned stands⟩
    rcases renewed_append renewed with ⟨owner, columns, last⟩ | ⟨earlier, -⟩
    · contradiction
    · exact earlier
  case world =>
    intro move before state bound moved
    have same : Deployment.Unanswered before { before with state } := .nature moved
    have right : Each (Right deployment explicits { before with state }) before.log :=
      bound.right.mono fun earlier entry right => right.mono same.now
    exact ⟨bound_unanswered same id right bound, fun stands => standing_unanswered same rfl stands⟩

/-- The expiry that a task's claims are asked for. -/
def explicitOf (calls : ι → Option PoolCall) (task : ι) : Option ℤ :=
  (calls task).bind fun call => (Lessor.initial call).explicit

/-- What a run keeps of the leases of its hosts. -/
structure Lasting (deployment : Deployment) (calls : ι → Option PoolCall)
    (config : Config ι Op.Answer (State ι) Failure Reply) : Prop where
  /-- What a `create_host` returned, wherever a task called it. -/
  created : ∀ task request poolMember host front answers back,
    callsOf task config.world.log = front ++ answers ++ back →
      (createHost deployment request poolMember).Replays answers (.done host) →
        Within deployment host
  /-- What a `renew_host` returned, unless the host was retired between its commit and its read. -/
  renewed : ∀ task id expiresAt host front answers back,
    callsOf task config.world.log = front ++ answers ++ back →
      (renewHost deployment id expiresAt).Replays answers (.done host) →
        Within deployment host ∨
          (∃ earlier later,
            config.world.log = earlier ++ .answered task (.hosts (.get id)) (some host) :: later ∧
              Overtaken task id earlier) ∧ host.leaseOver config.world.state.now
  /-- What a claim returned: an explicit expiry is granted as it is. -/
  claimed : ∀ task request provider host front answers back,
    callsOf task config.world.log = front ++ answers ++ back →
      (tryClaimPoolHost deployment request provider).Replays answers (.done (some host)) →
        Within deployment host ∧
          ∀ instant, explicitOf calls task = some instant → host.expiresAt = some instant
  /-- What a release gave back to the pool. -/
  released : ∀ id row, Logged (Releases id) config.world →
    config.world.state.hosts.get id = some row → Within deployment row
  /-- A stamp overwrites nothing but the expiry that its task inserted. -/
  spared : ∀ task id initial expiresAt updatedAt resume,
    config.tasks task = some (.call (.hosts (.stamp id initial expiresAt updatedAt)) resume) →
      (∃ host, Made task host config.world ∧ host.id = id ∧ host.expiresAt = some initial) ∧
        ∀ choice after row,
          deployment.system.answer task (.hosts (.stamp id initial expiresAt updatedAt)) choice
              config.world = some ((), after) →
            config.world.state.hosts.get id = some row → row.expiresAt ≠ some initial →
              after.state.hosts.get id = some row

section Runs

variable {calls : ι → Option PoolCall} {state : State ι}
  {config : Config ι Op.Answer (State ι) Failure Reply}

theorem upholds (rest : state.AtRest)
    (reach : deployment.system.Reaches {} (PoolCall.start deployment state calls) config) :
    Upholds
      (((Provisioner.contract deployment).prod Claimant.contract).prod (Lessor.contract deployment))
      (fun world => (Registry world ∧
        Pool (askedOf deployment calls) (poolsOf deployment calls) world) ∧
          Bound deployment (explicitOf calls) world)
      (fun task phases world => (phases.1.1.Standing task world ∧
        PoolClaims.Standing (askedOf deployment calls) (poolsOf deployment calls) task phases.1
          world) ∧ Standing deployment (explicitOf calls) task phases world)
      (fun _ _ _ => True) config := by
  have unlogged {kind : (op : Op) → op.Answer → Prop} :
      ¬ Logged kind (PoolCall.start deployment state calls).world := by
    rintro ⟨_, _, _, logged, -⟩
    cases logged
  have unmade {owner : ι} {host : Host} :
      ¬ Made owner host (PoolCall.start deployment state calls).world := by
    rintro ⟨_, logged⟩
    cases logged
  have first : Bound deployment (explicitOf calls) (PoolCall.start deployment state calls).world :=
    { spent := fun marked => by
        rcases marked with written | failed | dropped
        · exact absurd written unlogged
        · exact absurd failed unlogged
        · exact absurd dropped unlogged
      drew := fun made => absurd made unmade
      origin := fun made => absurd made unmade
      initial := fun made => absurd made unmade
      bounded := fun _ written => absurd written unlogged
      renewed := fun _ renewed => absurd renewed.written unlogged
      retired := fun _ gone => by
        rcases gone with failed | dropped
        · exact absurd failed unlogged
        · exact absurd dropped unlogged
      failed := fun _ failed => absurd failed unlogged
      dropped := fun dropped => absurd dropped unlogged
      released := fun released => absurd released unlogged
      claimed := by
        rintro _ _ _ ⟨_, _, _, _, logged⟩
        cases logged
      right := each_nil }
  refine Upholds.reaches (upheld deployment _ _ _) ⟨⟨begins rest, first⟩, ?_⟩ reach
  intro task program present
  obtain ⟨call, called, rfl⟩ := Option.map_eq_some_iff.mp present
  refine ⟨(({}, call.initial deployment), Lessor.initial call),
    ⟨⟨.initial task _, standing_initial called _⟩, ?_⟩, ?_⟩
  · have bare : (Lessor.initial call).own = none ∧ (Lessor.initial call).seen = none := by
      cases call with
      | claim => exact ⟨rfl, rfl⟩
      | service call => cases call <;> exact ⟨rfl, rfl⟩
    refine ⟨by simp [explicitOf, called], by simp [bare.1], by simp [bare.2], fun last => ?_⟩
    cases last
  · exact ((call.follows deployment).prod (Lessor.program_follows deployment call)).weaken
      fun _ _ _ => trivial

/-- **Leases within the lifetime.**  In every run of tasks that may touch the pool, with crashes at
any await: what a create or a claim returns and what a release gives back ends within the provider's
lifetime, and so does what a renewal returns, unless the host was retired meanwhile and is expired.
A claim grants an explicit expiry as it is, and a stamp spares what was written before it. -/
theorem lease_within_lifetime (rest : state.AtRest)
    (reach : deployment.system.Reaches {} (PoolCall.start deployment state calls) config) :
    Lasting deployment calls config := by
  have held := upholds rest reach
  obtain ⟨⟨registry, pool⟩, bound⟩ := held.inv
  -- What a task read right after another call of its own.
  have read_after {task : ι} {front answers back : List (Σ op : Op, op.Answer)} {id : HostId}
      {host : Host} {op : Op} {answer : op.Answer}
      (called : callsOf task config.world.log = front ++ answers ++ back)
      (read : ReadAfter answers id host op answer) :
      ∃ earlier later,
        config.world.log = earlier ++ .answered task (.hosts (.get id)) (some host) :: later ∧
          lastCall task earlier = some ⟨op, answer⟩ := by
    obtain ⟨before, rfl⟩ := read
    have split : callsOf task config.world.log =
        (front ++ before ++ [⟨op, answer⟩]) ++ ⟨.hosts (.get id), some host⟩ :: back := by
      simpa using called
    obtain ⟨earlier, later, split, calls, -⟩ := callsOf_split split
    exact ⟨earlier, later, split, by rw [lastCall_eq, calls, List.getLast?_concat]⟩
  refine ⟨?_, ?_, ?_, ?_, ?_⟩
  · intro task request poolMember host front answers back called replays
    obtain ⟨id, provisioned, initial, expiresAt, updatedAt, found, read⟩ :=
      createHost_readAfter.replays replays
    obtain ⟨earlier, later, split, last⟩ := read_after called read
    have same : provisioned.id = id := by
      have found : ⟨.hosts (.get id), some provisioned⟩ ∈ callsOf task config.world.log := by
        simp [called, found]
      obtain ⟨before, after, split⟩ := List.append_of_mem (mem_of_callsOf found)
      exact (bound.right before _ after split).1
    exact (bound.right earlier _ later split).2.1 initial expiresAt updatedAt (same ▸ last)
  · intro task id expiresAt host front answers back called replays
    obtain ⟨columns, read⟩ := renewHost_readAfter.replays replays
    obtain ⟨earlier, later, split, last⟩ := read_after called read
    rcases (bound.right earlier _ later split).2.2 columns last with within | ⟨gone, past⟩
    · exact .inl within
    · exact .inr ⟨⟨earlier, later, split, gone⟩, past⟩
  · intro task request provider host front answers back called replays
    obtain ⟨before, id, serviceAccount, now, expiresAt, rfl⟩ :=
      tryClaimPoolHost_claims.replays replays host rfl
    have claimed : callsOf task config.world.log = (front ++ before) ++
        ⟨.hosts (.claim id serviceAccount now expiresAt), some host⟩ :: back := by
      simpa using called
    obtain ⟨earlier, later, split, -⟩ := callsOf_split claimed
    exact bound.right earlier _ later split
  · intro id row released present
    obtain ⟨owner, claimed⟩ := bound.released released
    have active := bound.claimed claimed present
    refine bound.bounded present ?_ ?_
    · obtain ⟨task, op, answer, logged, releases⟩ := released
      obtain ⟨columns, rfl, same⟩ := disposes_cases (.inr releases)
      obtain rfl := eq_of_heq same
      exact ⟨task, _, _, logged, releases⟩
    · rintro (failed | dropped)
      · rw [bound.failed present failed] at active
        contradiction
      · obtain ⟨maker, host, made, same, fresh⟩ := bound.dropped dropped
        rw [(pool.chosen (.inl ⟨owner, claimed⟩)).2 made same] at fresh
        contradiction
  · intro task id initial expiresAt updatedAt resume waits
    obtain ⟨phases, ⟨-, stands⟩, ⟨-, -, host, owns, same, initial_lease⟩, -⟩ := held.follows waits
    refine ⟨⟨host, (stands.own owns).1, same, initial_lease⟩, fun choice after row answered present
      written => ?_⟩
    have answered := Deployment.answered answered
    rw [answered.hosts_get, present]
    simp [Op.hostEffect, HostQuery.effect, written]

end Runs

/-- A provider that stops its VMs after a minute. -/
def mayfly : Deployment :=
  { Deployment.sample with
    providers := Deployment.sample.providers.map fun vm =>
      { vm with maxLifetime := some 60000000 } }

/-- A create, and a renewal of its host. -/
def slowBoot : Config Bool Op.Answer (State Bool) Failure Reply :=
  PoolCall.start mayfly (.resting 0 .empty .empty .empty) fun renews =>
    some (.service (if renews then .renew 1 (some 5000000000) else .create {} false))

/-- The create comes to `BOOTSTRAPPING`. -/
def bootSchedule : List (Event Bool Choice (Nature Bool)) :=
  [.perform false (.number 1)] ++ .replicate 5 (.perform false .go) ++
    [.perform false (.environment [])] ++ .replicate 3 (.perform false .go) ++
    [.perform false (.vm ⟨Host.buildName 1, "root", "", 22, none, none⟩)] ++
    .replicate 2 (.perform false .go)

/-- Its host is renewed, comes to `ACTIVE`, and is returned. -/
def createSchedule : List (Event Bool Choice (Nature Bool)) :=
  bootSchedule ++ .replicate 5 (.perform true .go) ++ [.perform false (.text "device")] ++
    .replicate 2 (.perform false .go) ++ [.perform false (.text "ssh-ed25519 AAAA")] ++
    .replicate 9 (.perform false .go)

/-- The host that a call has returned. -/
def returnedHost : Option (Task Reply) → Option Host
  | some (.done (.host row)) => some row
  | _ => none

theorem done_of_returnedHost {program : Option (Task Reply)}
    (returned : (returnedHost program).isSome) : ∃ row, program = some (.done (.host row)) := by
  unfold returnedHost at returned
  split at returned
  · exact ⟨_, rfl⟩
  · contradiction

theorem createSchedule_executed : (mayfly.system.run slowBoot createSchedule).isSome := by
  decide +kernel

theorem lease_within_lifetime_create :
    ∃ config row renewed, mayfly.system.Reaches {} slowBoot config ∧
      config.tasks false = some (.done (.host row)) ∧ Within mayfly row ∧
        config.tasks true = some (.done (.host renewed)) ∧
          (Within mayfly renewed ∨ renewed.leaseOver config.world.state.now) := by
  obtain ⟨config, reach, createReturns, renewReturns⟩ :
      ∃ config, mayfly.system.Reaches {} slowBoot config ∧
        (returnedHost (config.tasks false)).isSome ∧ (returnedHost (config.tasks true)).isSome :=
    ⟨_, System.reaches_run createSchedule createSchedule_executed, by decide +kernel,
      by decide +kernel⟩
  obtain ⟨row, created⟩ := done_of_returnedHost createReturns
  obtain ⟨renewed, returned⟩ := done_of_returnedHost renewReturns
  have rest : (State.resting 0 .empty .empty .empty : State Bool).AtRest :=
    State.resting_atRest (by simp) (by simp)
  have creates : slowBoot.tasks false =
    some (.host <$> inSession (createHost mayfly {} false)) := rfl
  have renews : slowBoot.tasks true =
      some (.host <$> inSession (renewHost mayfly 1 (some 5000000000))) := rfl
  refine ⟨config, row, renewed, reach, created, ?_, returned, ?_⟩
  · obtain ⟨answers, back, called, replays⟩ := session_replays reach rfl creates created
    exact (lease_within_lifetime rest reach).created false {} false _ [] answers back called replays
  · obtain ⟨answers, back, called, replays⟩ := session_replays reach rfl renews returned
    exact ((lease_within_lifetime rest reach).renewed true 1 (some 5000000000) _ [] answers back
      called replays).imp_right And.right

/-- The boot takes longer than a minute.  A renewal commits, and before it reads its row again the
boot fails. -/
def lateFailure : List (Event Bool Choice (Nature Bool)) :=
  bootSchedule ++ [.world (.tick 100000000)] ++ .replicate 3 (.perform true .go) ++
    [.perform false (.failed { kind := .network, detail := "no device" })] ++
    .replicate 2 (.perform false .go) ++ .replicate 2 (.perform true .go)

/-- The renewal returns the host with the time of its failure, after the end of its lifetime. -/
theorem renewal_returns_failed_host :
    ∃ config row, mayfly.system.Reaches {} slowBoot config ∧
      config.tasks true = some (.done (.host row)) ∧ row.expiresAt = some 100000000 ∧
        ¬ Within mayfly row := by
  have executed : (mayfly.system.run slowBoot lateFailure).isSome := rfl
  have reach := System.reaches_run lateFailure executed
  have late : (0 : ℤ) + 60000000 < 100000000 := by decide
  exact ⟨_, _, reach, rfl, rfl, not_within rfl rfl rfl late⟩

end Leases

end Drukbox
