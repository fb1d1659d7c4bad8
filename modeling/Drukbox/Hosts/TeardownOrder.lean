import Drukbox.Await.History
import Drukbox.Hosts.Teardown

/-!
# The order of a teardown

An attempt to delete a host releases its device and commits that, then removes its secrets, then its
VM, then its row.  Whatever fails, the row stays as it was, but for the device and the time of the
commit that cleared it, and a later attempt goes on from there.
-/

namespace Drukbox

open Await Program HostService

/-- The calls of a delete since it locked its row, with their answers.  Readings of the clock are
left out. -/
abbrev Attempt := List (Σ op : Op, op.Answer)

namespace Attempt

def locked (id : HostId) (host : Host) : Σ op : Op, op.Answer :=
  ⟨.hosts (.lock id), some host⟩

/-- `release_device` succeeded. -/
def released (device : String) : Σ op : Op, op.Answer :=
  ⟨.outside (.releaseDevice device), .ok ()⟩

/-- The cleared `tailscale_device_id` is committed. -/
def cleared (id : HostId) (updatedAt : ℤ) : Σ op : Op, op.Answer :=
  ⟨.hosts (.update .deviceRelease id { tailscaleDeviceId := some none, updatedAt }), true⟩

/-- `delete_secrets` succeeded. -/
def forgotten (name : String) : Σ op : Op, op.Answer :=
  ⟨.outside (.deleteSecrets name), .ok ()⟩

/-- `delete_vm` returned or raised. -/
def removed (host : Host) (answer : Except Failure Unit) : Σ op : Op, op.Answer :=
  ⟨.vm (.delete host), answer⟩

variable (deployment : Deployment) (id : HostId) (host : Host) (attempt : Attempt)

/-- The device that a teardown has to release: a host may have none, or no tailnet manages it. -/
def device : Option String :=
  if deployment.tailnet.isSome then given host.tailscaleDeviceId else none

/-- The device is absent, unmanaged, or released, and then the cleared id is committed. -/
def Unbound : Prop :=
  (device deployment host = none ∧ attempt = [locked id host]) ∨
    ∃ name updatedAt, device deployment host = some name ∧
      attempt = [locked id host, released name, cleared id updatedAt]

/-- After that the secrets were deleted. -/
def Forgotten : Prop :=
  ∃ before, Unbound deployment id host before ∧ attempt = before ++ [forgotten host.name]

/-- After that the VM was deleted, or the provider had none. -/
def Vacated : Prop :=
  ∃ before answer, Forgotten deployment id host before ∧ attempt = before ++ [removed host answer] ∧
    ∀ failure, answer = .error failure → failure.kind = .providerNotFound

/-- The contract of the tasks that delete hosts: each call comes after the ones before it. -/
def contract : Contract Op.Answer Attempt where
  allows attempt
    | .outside (.releaseDevice name) => ∃ id host,
        device deployment host = some name ∧ attempt = [locked id host]
    | .hosts (.update .deviceRelease id columns) => ∃ host name updatedAt,
        device deployment host = some name ∧ attempt = [locked id host, released name] ∧
          columns = { tailscaleDeviceId := some none, updatedAt }
    | .outside (.deleteSecrets name) => ∃ id host,
        Unbound deployment id host attempt ∧ name = host.name
    | .vm (.delete host) => ∃ id, Forgotten deployment id host attempt
    | .hosts (.delete id) => ∃ host, Vacated deployment id host attempt
    | .clock | .rollback | .hosts (.lock _) | .hosts (.expired _) => True
    | .uuid7 | .advisoryLock _ | .keys _ | .templates _ | .outside _ | .vm _ | .hosts _ => False
  expects _
    | .hosts (.lock id) => fun row => ∀ host, row = some host → host.id = id
    | .clock | .uuid7 | .advisoryLock _ | .rollback | .keys _ | .templates _ | .outside _ | .vm _
    | .hosts _ => fun _ => True
  next attempt
    | .hosts (.lock id) => fun row => [⟨.hosts (.lock id), row⟩]
    | .clock | .hosts (.expired _) => fun _ => attempt
    | .rollback => fun _ => []
    | op => fun answer => attempt ++ [⟨op, answer⟩]

variable {deployment id host attempt} {phase : Attempt}

theorem spared_follows {flags : DeleteFlags} :
    Follows (contract deployment) (Returns fun later _ => later = phase) phase
      (spared flags host) := by
  unfold spared
  split
  · exact rfl
  split
  · unfold renewed
    split
    · exact rfl
    · exact .step trivial fun _ _ => rfl
  · exact rfl

theorem releaseDevice_follows (begins : phase = [locked host.id host]) :
    Follows (contract deployment)
      (Returns fun later _ => Unbound deployment host.id host later) phase
      (releaseDevice deployment host) := by
  unfold releaseDevice
  split
  · next name tailnet bound manages =>
      have managed : device deployment host = some name := by simp [device, manages, bound]
      refine .step ⟨host.id, host, managed, begins⟩ fun released _ => ?_
      cases released with
      | error failure => trivial
      | ok _ =>
      refine .step trivial fun updatedAt _ => .step ⟨host, name, updatedAt, managed, ?_, rfl⟩ ?_
      · simp [contract, begins, Attempt.released]
      · intro matched _
        cases matched with
        | false => trivial
        | true =>
            refine .inr ⟨name, updatedAt, managed, ?_⟩
            simp [contract, begins, Attempt.released, cleared]
  · next unbound =>
      refine .inl ⟨?_, begins⟩
      simp only [device]
      split
      · next manages =>
          obtain ⟨tailnet, manages⟩ := Option.isSome_iff_exists.mp manages
          cases bound : given host.tailscaleDeviceId with
          | none => rfl
          | some name => exact absurd manages (unbound name tailnet bound)
      · rfl

theorem removeVm_follows (unbound : Unbound deployment host.id host phase) :
    Follows (contract deployment)
      (Returns fun later _ => Vacated deployment host.id host later) phase
      (removeVm deployment host) := by
  unfold removeVm
  cases deployment.getVmProvider (some host.provider) with
  | error failure => trivial
  | ok vm =>
  simp only [ofExcept_ok, bind_eq_bind, done_bind]
  refine .step ⟨host.id, host, unbound, rfl⟩ fun forgotten _ => ?_
  cases forgotten with
  | error failure => trivial
  | ok _ =>
  have forgotten : Forgotten deployment host.id host (phase ++ [Attempt.forgotten host.name]) :=
    ⟨phase, unbound, rfl⟩
  refine .step ⟨host.id, forgotten⟩ fun deleted _ => ?_
  cases deleted with
  | ok _ => exact ⟨_, .ok (), forgotten, rfl, by simp⟩
  | error failure =>
      dsimp only
      split
      · next absent => exact ⟨_, .error failure, forgotten, rfl, by simpa using absent⟩
      · trivial

theorem tearDown_follows {flags : DeleteFlags} (begins : phase = [locked host.id host])
    (passes : flags.force ∨ host.status.deleteBlocked = false) :
    Follows (contract deployment)
      (Returns fun later _ => Vacated deployment host.id host later) phase
      (tearDown deployment flags host) := by
  unfold tearDown
  split
  · exact .seq (releaseDevice_follows begins) fun _ _ unbound => removeVm_follows unbound
  · next kept =>
      rw [HostStatus.vmBacked_eq_not_deleteBlocked] at kept
      rcases passes with force | unblocked
      · exact absurd (.inl force) kept
      · exact absurd (.inr (by simp [unblocked])) kept

theorem deleteHost_follows {flags : DeleteFlags} :
    Follows (contract deployment) (Returns fun _ _ => True) phase
      (deleteHost deployment id flags) := by
  refine .step trivial fun row expected => ?_
  cases row with
  | none => trivial
  | some host =>
  obtain rfl : host.id = id := expected host rfl
  refine .seq spared_follows fun later spares begins => ?_
  split
  · trivial
  split
  · trivial
  next blocked =>
  have passes : flags.force ∨ host.status.deleteBlocked = false := by
    by_cases force : flags.force
    · exact .inl force
    · exact .inr (by simpa [force] using blocked)
  exact .seq (tearDown_follows begins passes) fun later _ vacated =>
    .step ⟨host, vacated⟩ fun _ _ => trivial

theorem inSession_follows {α : Type} {program : Task α}
    (follows : Follows (contract deployment) (Returns fun _ _ => True) phase program) :
    Follows (contract deployment) (Returns fun _ _ => True) phase (inSession program) := by
  refine .closing (follows.weaken fun _ outcome ended => ⟨trivial, fun _ _ => ?_⟩)
  cases outcome <;> trivial

theorem reapEach_follows (ids : List HostId) :
    Follows (contract deployment) (Returns fun _ _ => True) phase (reapEach deployment ids) := by
  induction ids generalizing phase with
  | nil => trivial
  | cons id rest ih =>
      refine .seq (.attempt ((inSession_follows deleteHost_follows).weaken fun _ _ _ => trivial))
        fun later deleted _ => .seq ih fun _ _ _ => ?_
      split <;> trivial

end Attempt

/-- A task that deletes hosts: a delete, or a run of the janitor. -/
def HostCall.tearsDown : HostCall → Bool
  | delete _ _ | reap => true
  | getOrCreate _ | create _ _ | renew _ _ | maintain => false

theorem HostCall.attempts (deployment : Deployment) {call : HostCall} (tearsDown : call.tearsDown)
    (phase : Attempt) :
    Follows (Attempt.contract deployment) (fun _ _ => True) phase (call.program deployment) := by
  have mapped {α : Type} {program : Task α} (reply : α → Reply)
      (follows : Follows (Attempt.contract deployment) (Returns fun _ _ => True) phase program) :
      Follows (Attempt.contract deployment) (fun _ _ => True) phase (reply <$> program) :=
    .bind (follows.weaken fun _ outcome _ => by cases outcome <;> trivial)
  cases call with
  | delete id flags =>
      exact mapped _ (Attempt.inSession_follows Attempt.deleteHost_follows)
  | reap =>
      exact mapped _ (.step trivial fun _ _ => .step trivial fun _ _ =>
        Attempt.reapEach_follows _)
  | getOrCreate | create | renew | maintain => cases tearsDown

namespace Attempt

variable {ι : Type} [DecidableEq ι]

/-- A cleared device id of the host was committed. -/
def Cleared (id : HostId) (log : List (Entry ι Op.Answer)) : Prop :=
  ∃ task columns, Entry.answered task (.hosts (.update .deviceRelease id columns)) true ∈ log

/-- The row under teardown: it is as it was until the cleared device id is committed, and then only
the device and the time of that commit differ. -/
structure Retains (id : HostId) (log : List (Entry ι Op.Answer)) (first row : Host) : Prop where
  columns : row =
    { first with tailscaleDeviceId := row.tailscaleDeviceId, updatedAt := row.updatedAt }
  bound : ¬ Cleared id log → row = first
  cleared : Cleared id log → row.tailscaleDeviceId = none

/-- The rows are those of the beginning, without what was deleted. -/
structure Kept (rows : Table HostId Host) (world : Deployment.World ι) : Prop where
  retains : ∀ {id row}, world.state.hosts.get id = some row →
    ∃ first, rows.get id = some first ∧ Retains id world.log first row
  deleted : ∀ {id first}, rows.get id = some first → world.state.hosts.get id = none →
    ∃ task, Entry.answered task (.hosts (.delete id)) () ∈ world.log

/-- An attempt that has locked its row and not yet committed holds it. -/
def Holds (task : ι) (attempt : Attempt) (world : Deployment.World ι) : Prop :=
  ∀ id host, (attempt = [locked id host] ∨ ∃ name, attempt = [locked id host, released name]) →
    world.state.hostLock id = some task ∧ world.state.hosts.get id = some host

variable {deployment : Deployment} {rows : Table HostId Host} {task other : ι} {op : Op}
  {answer : op.Answer} {before after : Deployment.World ι} {phase standing : Attempt}

omit [DecidableEq ι] in
theorem cleared_append {id : HostId} {log : List (Entry ι Op.Answer)} {entry : Entry ι Op.Answer} :
    Cleared id (log ++ [entry]) ↔ Cleared id log ∨
      ∃ task columns, entry = .answered task (.hosts (.update .deviceRelease id columns)) true := by
  simp only [Cleared, List.mem_append, List.mem_singleton, eq_comm (b := entry)]
  constructor
  · rintro ⟨task, columns, old | new⟩
    · exact .inl ⟨task, columns, old⟩
    · exact .inr ⟨task, columns, new⟩
  · rintro (⟨task, columns, old⟩ | ⟨task, columns, new⟩)
    · exact ⟨task, columns, .inl old⟩
    · exact ⟨task, columns, .inr new⟩

omit [DecidableEq ι] in
theorem Retains.congr {id : HostId} {log later : List (Entry ι Op.Answer)} {first row : Host}
    (retains : Retains id log first row) (same : Cleared id later ↔ Cleared id log) :
    Retains id later first row :=
  ⟨retains.columns, fun bound => retains.bound (same.not.mp bound),
    fun cleared => retains.cleared (same.mp cleared)⟩

omit [DecidableEq ι] in
theorem Kept.quiet (kept : Kept rows before) (hosts : after.state.hosts = before.state.hosts)
    {entry : Entry ι Op.Answer} (log : after.log = before.log ++ [entry])
    (uncleared : ∀ task id columns,
      entry ≠ .answered task (.hosts (.update .deviceRelease id columns)) true) :
    Kept rows after where
  retains {id row} present := by
    obtain ⟨first, began, retains⟩ := kept.retains (hosts ▸ present)
    have same : Cleared id after.log ↔ Cleared id before.log := by
      rw [log, cleared_append, or_iff_left]
      rintro ⟨task, columns, same⟩
      exact uncleared task id columns same
    exact ⟨first, began, retains.congr same⟩
  deleted began gone := by
    obtain ⟨task, logged⟩ := kept.deleted began (hosts ▸ gone)
    exact ⟨task, by simp [log, logged]⟩

theorem Kept.answered (kept : Kept rows before)
    (answered : deployment.Answered task op answer before after)
    (allowed : (contract deployment).allows phase op) : Kept rows after := by
  have quiet (hosts : after.state.hosts = before.state.hosts)
      (uncleared : ∀ other id columns, (Entry.answered task op answer : Entry ι Op.Answer) ≠
        .answered other (.hosts (.update .deviceRelease id columns)) true) : Kept rows after :=
    kept.quiet hosts answered.log uncleared
  cases op with
  | clock => exact quiet (by rw [answered.outcome.2]) (by simp)
  | rollback =>
      have same := answered.outcome
      exact quiet (by rw [same]; rfl) (by simp)
  | outside call => exact quiet (by rw [answered.outcome]) (by simp)
  | vm call =>
      cases call with
      | delete host =>
          cases answer with
          | ok =>
              have same := answered.outcome
              exact quiet (by rw [same]) (by simp)
          | error failure => exact quiet (by rw [answered.outcome.2]) (by simp)
      | start | finish => cases allowed
  | hosts query =>
      cases query with
      | lock id =>
          cases answer with
          | none => exact quiet (by rw [answered.outcome.2]) (by simp)
          | some host => exact quiet (by rw [answered.outcome.2.2]) (by simp)
      | expired now => exact quiet (by rw [answered.outcome.2]) (by simp)
      | update place id columns =>
          cases place with
          | deviceRelease =>
              cases answer with
              | false => exact quiet (by rw [answered.outcome.2]) (by simp)
              | true =>
              obtain ⟨-, -, updatedAt, -, -, rfl⟩ := allowed
              have get := answered.hosts_get
              simp only [Op.hostEffect, HostQuery.effect] at get
              refine ⟨fun {other row} present => ?_, fun {other first} began gone => ?_⟩
              · rw [get] at present
                split at present
                · next same =>
                    subst same
                    obtain ⟨old, was, rfl⟩ := Option.map_eq_some_iff.mp present
                    obtain ⟨first, began, retains⟩ := kept.retains was
                    have cleared : Cleared other after.log := by
                      rw [answered.log, cleared_append]
                      exact .inr ⟨task, _, rfl⟩
                    refine ⟨first, began, ?_, fun bound => absurd cleared bound, fun _ => rfl⟩
                    rw [retains.columns]
                    rfl
                · next different =>
                    obtain ⟨first, began, retains⟩ := kept.retains present
                    have same : Cleared other after.log ↔ Cleared other before.log := by
                      rw [answered.log, cleared_append, or_iff_left]
                      rintro ⟨owner, columns, same⟩
                      simp only [Entry.answered.injEq, Op.hosts.injEq,
                        HostQuery.update.injEq] at same
                      exact different same.2.1.2.1.symm
                    exact ⟨first, began, retains.congr same⟩
              · rw [get] at gone
                have absent : before.state.hosts.get other = none := by
                  split at gone
                  · exact Option.map_eq_none_iff.mp gone
                  · exact gone
                obtain ⟨owner, logged⟩ := kept.deleted began absent
                exact ⟨owner, answered.mem_log.mpr (.inl logged)⟩
          | progress | failure | renewal | disposal => cases allowed
      | delete id =>
          have get := answered.hosts_get
          simp only [Op.hostEffect, HostQuery.effect] at get
          refine ⟨fun {other row} present => ?_, fun {other first} began gone => ?_⟩
          · rw [get] at present
            split at present
            · contradiction
            · obtain ⟨first, began, retains⟩ := kept.retains present
              have same : Cleared other after.log ↔ Cleared other before.log := by
                rw [answered.log, cleared_append, or_iff_left]
                simp
              exact ⟨first, began, retains.congr same⟩
          · rw [get] at gone
            split at gone
            · next same =>
                subst same
                exact ⟨task, answered.mem_log.mpr (.inr rfl)⟩
            · obtain ⟨owner, logged⟩ := kept.deleted began gone
              exact ⟨owner, answered.mem_log.mpr (.inl logged)⟩
      | get | warm | excess | count | candidate | claim | insert | stamp => cases allowed
  | uuid7 | advisoryLock | keys | templates => cases allowed

omit [DecidableEq ι] in
/-- Only an attempt that has done no more than release its device counts on its row. -/
theorem holds_of_length {world : Deployment.World ι} (long : 3 ≤ phase.length) :
    Holds task phase world := by
  rintro id host (begins | ⟨name, begins⟩) <;> simp [begins] at long

theorem holds_self (answered : deployment.Answered task op answer before after)
    (holds : Holds task phase before) (allowed : (contract deployment).allows phase op) :
    Holds task ((contract deployment).next phase op answer) after := by
  have read (same : after.state = before.state) : Holds task phase after := by
    rw [Holds, same]
    exact holds
  cases op with
  | clock => exact read answered.outcome.2
  | rollback => exact fun id host begins => by simp [contract] at begins
  | outside call =>
      cases call with
      | releaseDevice name =>
          obtain ⟨id, host, -, begins⟩ := allowed
          rintro other row (ends | ⟨device, ends⟩)
          · simp [contract, begins] at ends
          · have same : [locked id host] = [locked other row] := by
              simp only [contract, begins, List.singleton_append, List.cons.injEq] at ends
              rw [ends.1]
            rw [show after.state = before.state from answered.outcome]
            exact holds other row (.inl (begins.trans same))
      | deleteSecrets name =>
          obtain ⟨id, host, unbound, -⟩ := allowed
          rcases unbound with ⟨-, begins⟩ | ⟨device, updatedAt, -, begins⟩
          · rintro other row (ends | ⟨device, ends⟩)
            · simp [contract, begins] at ends
            · simp [contract, begins, released] at ends
          · exact holds_of_length (by simp [contract, begins])
      | issueJoinCredentials | mintSecret | fetchSecret | putSecret | waitForDevice
      | scanKnownHosts | refreshBaseImage | buildTemplateImage | deleteTemplateImage | shuffle =>
          cases allowed
  | vm call =>
      cases call with
      | delete host =>
          obtain ⟨id, begun, unbound, rfl⟩ := allowed
          refine holds_of_length ?_
          rcases unbound with ⟨-, rfl⟩ | ⟨device, updatedAt, -, rfl⟩ <;> simp [contract]
      | start | finish => cases allowed
  | hosts query =>
      cases query with
      | lock id =>
          rintro other row (ends | ⟨device, ends⟩)
          · cases answer with
            | none => simp [contract, locked] at ends
            | some host =>
                simp only [contract, locked, List.cons.injEq, Sigma.mk.injEq, Op.hosts.injEq,
                  HostQuery.lock.injEq, and_true] at ends
                obtain ⟨rfl, same⟩ := ends
                obtain rfl : host = row := by simpa using same
                obtain ⟨-, present, same⟩ := answered.outcome
                rw [same]
                exact ⟨by simp, present⟩
          · simp [contract] at ends
      | expired now => exact read answered.outcome.2
      | update place id columns =>
          cases place with
          | deviceRelease =>
              obtain ⟨host, name, updatedAt, -, begins, -⟩ := allowed
              exact holds_of_length (by simp [contract, begins])
          | progress | failure | renewal | disposal => cases allowed
      | delete id =>
          obtain ⟨host, begun, answer, ⟨start, unbound, rfl⟩, rfl, -⟩ := allowed
          exact holds_of_length (by simp [contract])
      | get | warm | excess | count | candidate | claim | insert | stamp => cases allowed
  | uuid7 | advisoryLock | keys | templates => cases allowed

theorem expected (answered : deployment.Answered task op answer before after)
    (registered : ∀ {id host}, before.state.hosts.get id = some host → host.id = id) :
    (contract deployment).expects phase op answer := by
  cases op with
  | hosts query =>
      cases query with
      | lock id =>
          rintro host rfl
          exact registered answered.outcome.2.1
      | get | expired | warm | excess | count | candidate | claim | insert | update | stamp
      | delete => trivial
  | clock | uuid7 | advisoryLock | rollback | keys | templates | outside | vm => trivial

omit [DecidableEq ι] in
/-- The rows keep their ids. -/
theorem Kept.registered {world : Deployment.World ι} (kept : Kept rows world)
    (registered : ∀ {id host}, rows.get id = some host → host.id = id) {id : HostId} {host : Host}
    (present : world.state.hosts.get id = some host) : host.id = id := by
  obtain ⟨first, began, retains⟩ := kept.retains present
  have same := congrArg Host.id retains.columns
  have first_id : first.id = id := registered began
  exact same.trans first_id

/-- Every run of deletes keeps the rows and what the attempts know of them. -/
theorem upheld (deployment : Deployment) (rows : Table HostId Host)
    (registered : ∀ {id host}, rows.get id = some host → host.id = id) :
    Upheld (deployment.system : System ι _ _ _ _) {} (contract deployment) (Kept rows) Holds where
  perform {task phase op choice answer before after} allowed kept holds _ answered := by
    have answered := Deployment.answered answered
    have ids {id : HostId} {host : Host} (present : before.state.hosts.get id = some host) :=
      kept.registered registered present
    exact ⟨expected answered ids, kept.answered answered allowed,
      holds_self answered holds allowed⟩
  others {task phase op choice answer before after other standing} _ _ _ _ answered different
      holds := by
    have answered := Deployment.answered answered
    intro id host begins
    obtain ⟨lock, present⟩ := holds id host begins
    exact ⟨(answered.outcome.change.lockOf different id).mpr lock,
      Teardown.locked_row answered different lock present⟩
  abandon {task before} _ kept := by
    refine ⟨kept.quiet rfl rfl (by simp), fun {other standing} different holds id host begins => ?_⟩
    obtain ⟨lock, present⟩ := holds id host begins
    exact ⟨(State.drop_eq_some task).mpr ⟨lock, different⟩, present⟩
  world {move before state} _ kept moved := by
    obtain ⟨now, vms, -, rfl⟩ := Deployment.nature_frame moved
    exact ⟨⟨kept.retains, kept.deleted⟩, fun holds => holds⟩

section Finishes

variable {world : Deployment.World ι} {id : HostId} {host : Host} {flags : DeleteFlags}

theorem finishes_call {α : Type} {resume : op.Answer → Task α} {outcome : Except Failure α}
    {state : State ι} (choice : Choice)
    (performed : deployment.perform task op choice world.state = some (answer, state))
    (rest : deployment.system.Finishes task (resume answer)
      { state, log := world.log ++ [.answered task op answer] } outcome after) :
    deployment.system.Finishes task (.call op resume) world outcome after := by
  have answered : deployment.system.answer task op choice world =
      some (answer, { state, log := world.log ++ [.answered task op answer] }) :=
    System.answer_eq_some.mpr ⟨performed, rfl⟩
  exact .call choice answered rest

/-- A host that meets the guards is not spared. -/
theorem spared_finishes (meets : flags.Meets world.state.now host) :
    ∃ after, deployment.system.Finishes task (spared flags host) world (.ok false) after ∧
      after.state = world.state := by
  unfold spared
  split
  · next shed => simp [meets.1 shed.1] at shed
  · split
    · next expired =>
        have lapsed := meets.2 expired
        unfold renewed
        cases lease : host.expiresAt with
        | none => simp [Host.leaseOver, lease] at lapsed
        | some expiresAt =>
            have ended : ¬ world.state.now < expiresAt := by
              simpa [Host.leaseOver, lease] using lapsed
            refine ⟨{ state := world.state,
                      log := world.log ++ [.answered task .clock world.state.now] },
              finishes_call .go rfl ?_, rfl⟩
            simp only [pure_eq_done, done_bind, ended, decide_false]
            exact .done
    · exact ⟨world, .done, rfl⟩

/-- The device goes, where `release_device` succeeds. -/
theorem releaseDevice_finishes (free : State.Free task (world.state.hostLock host.id))
    (present : (world.state.hosts.get host.id).isSome) :
    ∃ after, deployment.system.Finishes task (releaseDevice deployment host) world (.ok ()) after ∧
      State.Free task (after.state.hostLock host.id) := by
  unfold releaseDevice
  split
  · obtain ⟨row, present⟩ := Option.isSome_iff_exists.mp present
    have commits (columns : HostColumns) :
        deployment.perform task (.hosts (.update .deviceRelease host.id columns)) .go world.state =
          some (true, State.release task
            { world.state with hosts := world.state.hosts.insert host.id (row.set columns) }) := by
      simp [Deployment.perform, HostQuery.perform, free, present]
    refine ⟨_, finishes_call .go rfl <| finishes_call .go rfl <|
      finishes_call .go (commits _) .done, ?_⟩
    rcases free with free | free <;> simp [State.Free, State.drop, free]
  · exact ⟨world, .done, free⟩

/-- The secrets and the VM go, where both deletes succeed. -/
theorem removeVm_finishes {vm : VMProvider}
    (known : deployment.getVmProvider (some host.provider) = .ok vm) :
    ∃ after, deployment.system.Finishes task (removeVm deployment host) world (.ok ()) after ∧
      after.state.hostLock = world.state.hostLock := by
  unfold removeVm
  simp only [known, ofExcept_ok, bind_eq_bind, done_bind]
  exact ⟨_, finishes_call .go rfl <| finishes_call .go rfl .done, rfl⟩

theorem tearDown_finishes {vm : VMProvider}
    (free : State.Free task (world.state.hostLock host.id))
    (present : (world.state.hosts.get host.id).isSome)
    (passes : flags.force ∨ host.status.vmBacked)
    (known : deployment.getVmProvider (some host.provider) = .ok vm) :
    ∃ after, deployment.system.Finishes task (tearDown deployment flags host) world (.ok ()) after ∧
      State.Free task (after.state.hostLock host.id) := by
  obtain ⟨unbound, releases, still⟩ :
      ∃ unbound, deployment.system.Finishes task (releaseDevice deployment host) world (.ok ())
        unbound ∧ State.Free task (unbound.state.hostLock host.id) :=
    releaseDevice_finishes free present
  obtain ⟨after, removes, same⟩ :
      ∃ after, deployment.system.Finishes task (removeVm deployment host) unbound (.ok ()) after ∧
        after.state.hostLock = unbound.state.hostLock := removeVm_finishes known
  rw [tearDown, if_pos passes]
  exact ⟨after, releases.bind removes, same ▸ still⟩

/-- A delete of a host that passes removes the row, where every call succeeds. -/
theorem deleteHost_finishes {vm : VMProvider} (free : State.Free task (world.state.hostLock id))
    (present : world.state.hosts.get id = some host) (host_id : host.id = id)
    (meets : flags.Meets world.state.now host) (passes : flags.force ∨ host.status.vmBacked)
    (known : deployment.getVmProvider (some host.provider) = .ok vm) :
    ∃ after, deployment.system.Finishes task (deleteHost deployment id flags) world (.ok true)
      after ∧ after.state.hosts.get id = none := by
  subst host_id
  let held : Deployment.World ι :=
    { state := { world.state with
        hostLock := Function.update world.state.hostLock host.id (some task) }
      log := world.log ++ [.answered task (.hosts (.lock host.id)) (some host)] }
  have locks : deployment.perform task (.hosts (.lock host.id)) .go world.state =
      some (some host, held.state) := by
    simp [Deployment.perform, HostQuery.perform, free, present, held]
  obtain ⟨checked, spares, same⟩ :
      ∃ checked, deployment.system.Finishes task (spared flags host) held (.ok false) checked ∧
        checked.state = held.state := spared_finishes meets
  have own : State.Free task (checked.state.hostLock host.id) := by
    rw [same]
    exact .inr (Function.update_self ..)
  have stays : (checked.state.hosts.get host.id).isSome := by
    rw [same]
    exact Option.isSome_of_eq_some present
  obtain ⟨vacated, tears, unlocked⟩ := tearDown_finishes own stays passes known
  let gone : State ι := State.release task
    { vacated.state with
      hosts := vacated.state.hosts.erase host.id
      keys := HostQuery.cascade vacated.state.keys host.id }
  have deletes : deployment.perform task (.hosts (.delete host.id)) .go vacated.state =
      some ((), gone) := by
    simp [Deployment.perform, HostQuery.perform, unlocked, gone]
  have unblocked : ¬ (¬ flags.force ∧ host.status.deleteBlocked) := by
    rintro ⟨unforced, blocked⟩
    rw [HostStatus.vmBacked_eq_not_deleteBlocked, blocked] at passes
    rcases passes with force | backed
    · exact unforced force
    · contradiction
  refine ⟨{ state := gone, log := vacated.log ++ [.answered task (.hosts (.delete host.id)) ()] },
    finishes_call .go locks (spares.bind ?_), ?_⟩
  · simp only [Bool.false_eq_true, if_false, unblocked]
    exact tears.bind (finishes_call .go deletes .done)
  · simp [gone]

theorem inSession_finishes {vm : VMProvider} (free : State.Free task (world.state.hostLock id))
    (present : world.state.hosts.get id = some host) (host_id : host.id = id)
    (meets : flags.Meets world.state.now host) (passes : flags.force ∨ host.status.vmBacked)
    (known : deployment.getVmProvider (some host.provider) = .ok vm) :
    ∃ after, deployment.system.Finishes task (inSession (deleteHost deployment id flags)) world
      (.ok true) after ∧ after.state.hosts.get id = none := by
  obtain ⟨middle, deletes, gone⟩ :
      ∃ middle, deployment.system.Finishes task (deleteHost deployment id flags) world (.ok true)
        middle ∧ middle.state.hosts.get id = none :=
    deleteHost_finishes free present host_id meets passes known
  have closes : deployment.system.Finishes task (inSession (deleteHost deployment id flags)) world
      (.ok true)
      { state := middle.state.release task, log := middle.log ++ [.answered task .rollback ()] } :=
    deletes.attempt.bind (finishes_call .go rfl .done)
  exact ⟨_, closes, gone⟩

theorem program_finishes {vm : VMProvider} (free : State.Free task (world.state.hostLock id))
    (present : world.state.hosts.get id = some host) (host_id : host.id = id)
    (meets : flags.Meets world.state.now host) (passes : flags.force ∨ host.status.vmBacked)
    (known : deployment.getVmProvider (some host.provider) = .ok vm) :
    ∃ after, deployment.system.Finishes task ((HostCall.delete id flags).program deployment) world
      (.ok (.deleted true)) after ∧ after.state.hosts.get id = none := by
  obtain ⟨after, closes, gone⟩ :
      ∃ after, deployment.system.Finishes task (inSession (deleteHost deployment id flags)) world
        (.ok true) after ∧ after.state.hosts.get id = none :=
    inSession_finishes free present host_id meets passes known
  exact ⟨after, closes.bind .done, gone⟩

end Finishes

/-- The calls of a task's present attempt. -/
def ofLog (deployment : Deployment) (task : ι) (log : List (Entry ι Op.Answer)) : Attempt :=
  (contract deployment).replay task [] log

end Attempt

open Attempt

/-- What a run of deletes keeps, whatever fails in it. -/
structure OrderlyTeardown {ι : Type} [DecidableEq ι] (deployment : Deployment)
    (rows : Table HostId Host) (config : Config ι Op.Answer (State ι) Failure Reply) : Prop where
  /-- A row goes by a delete. -/
  removed : ∀ id first, rows.get id = some first → config.world.state.hosts.get id = none →
    ∃ task, Entry.answered task (.hosts (.delete id)) () ∈ config.world.log
  /-- The row goes last: after the device, the secrets and the VM. -/
  rowLast : ∀ earlier task id later,
    config.world.log = earlier ++ .answered task (.hosts (.delete id)) () :: later →
      ∃ host, Vacated deployment id host (ofLog deployment task earlier)
  /-- `delete_vm` is called after the secrets went. -/
  vmAfterSecrets : ∀ task host resume,
    config.tasks task = some (.call (.vm (.delete host)) resume) →
      ∃ id, Forgotten deployment id host (ofLog deployment task config.world.log)
  /-- `release_device` is called only while no cleared device id of the host is committed. -/
  releasedOnce : ∀ task name resume,
    config.tasks task = some (.call (.outside (.releaseDevice name)) resume) →
      ∃ id host, ofLog deployment task config.world.log = [locked id host] ∧
        ¬ Cleared id config.world.log
  /-- Rows that are left are as they were, but for a cleared device and the time of its commit. -/
  retains : ∀ id row, config.world.state.hosts.get id = some row →
    ∃ first, rows.get id = some first ∧ Retains id config.world.log first row
  /-- The next attempt can finish. -/
  finishes : ∀ task id flags row vm,
    config.tasks task = some ((HostCall.delete id flags).program deployment) →
      config.world.state.hosts.get id = some row → config.world.state.hostLock id = none →
        flags.Meets config.world.state.now row → (flags.force ∨ row.status.vmBacked) →
          deployment.getVmProvider (some row.provider) = .ok vm →
            ∃ final, deployment.system.Reaches {} config final ∧
              final.tasks task = some (.done (.deleted true)) ∧
              final.world.state.hosts.get id = none

/-- Any number of deletes, in any order and with any failures, keep the order of a teardown and lose
nothing. -/
theorem deleteHost_orderly {ι : Type} [DecidableEq ι] (deployment : Deployment) (state : State ι)
    (rest : state.AtRest) (calls : ι → Option HostCall)
    (deletes : ∀ task call, calls task = some call → call.tearsDown) (config : Config ι _ _ _ _)
    (reach : deployment.system.Reaches {} (deployment.start state calls) config) :
    OrderlyTeardown deployment state.hosts config := by
  have upholds : Upholds (contract deployment)
      (fun world => Kept state.hosts world ∧ (contract deployment).Obeyed (fun _ => []) world.log)
      (fun task phase world => Holds task phase world ∧ phase = ofLog deployment task world.log)
      (fun _ _ _ => True) config := by
    refine Upholds.reaches
      ((Attempt.upheld deployment state.hosts rest.host_id).history fun _ => []) ?_ reach
    refine ⟨⟨⟨fun {id row} present => ?_, fun began gone => ?_⟩, Contract.obeyed_nil⟩,
      fun {task program} started => ?_⟩
    · exact ⟨row, present, rfl, fun _ => rfl, fun ⟨_, _, logged⟩ => by cases logged⟩
    · rw [show state.hosts.get _ = none from gone] at began
      cases began
    · obtain ⟨call, called, rfl⟩ := Option.map_eq_some_iff.mp started
      exact ⟨[], ⟨fun id host begins => by simp at begins, rfl⟩,
        call.attempts deployment (deletes task call called) []⟩
  have obeyed := upholds.inv.2
  have kept := upholds.inv.1
  exact
    { removed := fun id first began gone => kept.deleted began gone
      rowLast := fun earlier task id later split => obeyed earlier task _ _ later split
      vmAfterSecrets := fun task host resume waits => by
        obtain ⟨phase, ⟨-, rfl⟩, allowed, -⟩ := upholds.follows waits
        exact allowed
      releasedOnce := fun task name resume waits => by
        obtain ⟨phase, ⟨holds, same⟩, ⟨id, host, managed, begins⟩, -⟩ := upholds.follows waits
        refine ⟨id, host, same ▸ begins, fun cleared => ?_⟩
        obtain ⟨-, present⟩ := holds id host (.inl begins)
        obtain ⟨first, -, retains⟩ := kept.retains present
        simp [device, given, retains.cleared cleared] at managed
      retains := fun id row present => kept.retains present
      finishes := fun task id flags row vm waits present unlocked meets passes known => by
        have host_id := kept.registered rest.host_id present
        obtain ⟨after, finishes, gone⟩ :
            ∃ after, deployment.system.Finishes task ((HostCall.delete id flags).program deployment)
              config.world (.ok (.deleted true)) after ∧ after.state.hosts.get id = none :=
          program_finishes (.inl unlocked) present host_id meets passes known
        exact ⟨_, finishes.reaches waits, Function.update_self .., gone⟩ }

/-- One active host with a device. -/
def teardownState : State Bool :=
  .resting 2 (Table.empty.insert 1 (Host.sample 1)) .empty .empty

def teardownCalls (_ : Bool) : Option HostCall :=
  some (.delete 1 {})

/-- The first delete comes to `delete_vm`, which fails. -/
def failedTeardown : List (Event Bool Choice (Nature Bool)) :=
  .replicate 5 (.perform true .go) ++
    [.perform true (.failed { kind := .provider, detail := "unreachable" }),
      .perform true .go]

/-- The second delete goes on from there. -/
def retriedTeardown : List (Event Bool Choice (Nature Bool)) :=
  failedTeardown ++ .replicate 5 (.perform false .go)

theorem deleteHost_orderly_retry :
    ∃ config, Deployment.sample.system.Reaches {}
        (Deployment.sample.start teardownState teardownCalls) config ∧
      config.tasks false = some (.done (.deleted true)) ∧
      config.world.state.hosts.get 1 = none ∧
      OrderlyTeardown Deployment.sample teardownState.hosts config := by
  have reach : Deployment.sample.system.Reaches {}
      (Deployment.sample.start teardownState teardownCalls) _ :=
    System.reaches_run retriedTeardown rfl
  have rest : teardownState.AtRest :=
    State.resting_atRest (by simp [Table.get_insert, Host.sample]) (by simp)
  refine ⟨_, reach, rfl, rfl, deleteHost_orderly _ _ rest teardownCalls ?_ _ reach⟩
  rintro task call ⟨⟩
  rfl

/-- A failed attempt changes `updated_at`. -/
theorem deleteHost_stamps_failed_attempt :
    ∃ config failure first row,
      Deployment.sample.system.Reaches {}
        (Deployment.sample.start teardownState teardownCalls) config ∧
      config.tasks true = some (.raise failure) ∧
      teardownState.hosts.get 1 = some first ∧ first.status.vmBacked ∧
      config.world.state.hosts.get 1 = some row ∧
      row ≠ { first with tailscaleDeviceId := row.tailscaleDeviceId } :=
  ⟨_, _, _, _, System.reaches_run failedTeardown rfl, rfl, rfl, rfl, rfl, by decide⟩

end Drukbox
