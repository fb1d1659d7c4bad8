import Drukbox.Hosts.Ownership

/-!
# The contract of a delete

A delete and a renewal work on the row that they locked.  A delete removes a VM only after its
guards passed on that row, and the row only after the VM.
-/

namespace Drukbox

open Await Program HostService

/-- How far a delete or a renewal has come with its host. -/
inductive Target
  | none
  /-- The row is locked. -/
  | locked (host : Host)
  /-- The commit of the released device gave up the lock. -/
  | released (host : Host)
  /-- The provider has no VM of the host. -/
  | vacated (host : Host)

/-- What a task that deletes or renews hosts knows from its own steps. -/
structure Deleter where
  /-- The flags of its deletes. -/
  flags : DeleteFlags
  /-- Its clock readings. -/
  readings : List ℤ := []
  target : Target := .none

namespace Deleter

/-- The host met the maintenance guards. -/
def Guarded (phase : Deleter) (host : Host) : Prop :=
  (phase.flags.poolShed → host.claimedAt = none) ∧
    (phase.flags.expiredOnly → ∃ now ∈ phase.readings, host.leaseOver now)

def Passes (phase : Deleter) (host : Host) : Prop :=
  (phase.flags.force ∨ host.status.deleteBlocked = false) ∧ phase.Guarded host

/-- The contract of every task that deletes or renews hosts. -/
def contract : Contract Op.Answer Deleter where
  allows phase
    | .hosts (.update .deviceRelease id _) =>
        ∃ host, phase.target = .locked host ∧ host.id = id ∧ phase.Passes host
    | .hosts (.update .renewal id _) =>
        ∃ host, phase.target = .locked host ∧ host.id = id ∧ host.status.renewable
    | .hosts (.delete id) => ∃ host, phase.target = .vacated host ∧ host.id = id
    | .vm (.delete host) =>
        (phase.target = .locked host ∨ phase.target = .released host) ∧ phase.Passes host
    | .clock | .uuid7 | .advisoryLock _ | .rollback | .keys _ | .templates (.get _)
    | .templates (.touch _) | .outside _ | .vm _ | .hosts _ => True
    | .templates _ => False
  expects _
    | .hosts (.lock id) => fun row => ∀ host, row = some host → host.id = id
    | .clock | .uuid7 | .advisoryLock _ | .rollback | .keys _ | .templates _ | .outside _ | .vm _
    | .hosts _ => fun _ => True
  next phase
    | .clock => fun now => { phase with readings := now :: phase.readings }
    | .hosts (.lock _) => fun row =>
        match row with
        | some host => { phase with target := .locked host }
        | none => { phase with target := .none }
    | .hosts (.update .deviceRelease _ _) => fun matched =>
        match matched, phase.target with
        | true, .locked host => { phase with target := .released host }
        | _, _ => { phase with target := .none }
    | .vm (.delete host) => fun answer =>
        match answer with
        | .ok () => { phase with target := .vacated host }
        | .error failure =>
            if failure.kind = .providerNotFound then { phase with target := .vacated host }
            else { phase with target := .none }
    | .outside _ | .uuid7 | .advisoryLock _ | .keys _ | .vm _ | .templates _
    | .hosts (.get _) | .hosts (.count _ _) | .hosts (.expired _) | .hosts (.candidate _ _ _) =>
        fun _ => phase
    | .rollback | .hosts _ => fun _ => { phase with target := .none }

theorem next_flags (phase : Deleter) (op : Op) (answer : op.Answer) :
    (contract.next phase op answer).flags = phase.flags := by
  cases op with
  | hosts query =>
      cases query with
      | lock id => cases answer <;> rfl
      | update place id columns =>
          cases place with
          | deviceRelease =>
              simp only [contract]
              split <;> rfl
          | progress | failure | renewal | disposal => rfl
      | get | expired | warm | excess | count | candidate | claim | insert | stamp | delete => rfl
  | vm call =>
      cases call with
      | delete host =>
          simp only [contract]
          split
          · rfl
          · split <;> rfl
      | start | finish => rfl
  | clock | uuid7 | advisoryLock | rollback | keys | templates | outside => rfl

variable {deployment : Deployment} {phase : Deleter} {host : Host}

theorem reads_follows {α : Type} {program : Task α} (all : program.All Op.reads) :
    Follows contract (Returns fun later _ => ∃ readings, phase.readings ⊆ readings ∧
      later = { phase with readings }) phase program := by
  refine (Follows.of_all all
    (fun later => ∃ readings, phase.readings ⊆ readings ∧ later = { phase with readings })
    ⟨phase.readings, List.Subset.refl _, rfl⟩ ?_).weaken fun later outcome same => ?_
  · rintro op _ reads ⟨readings, kept, rfl⟩
    have same : ∃ more, phase.readings ⊆ more ∧
        { phase with readings } = { phase with readings := more } := ⟨readings, kept, rfl⟩
    cases op with
    | clock =>
        exact ⟨trivial, fun now _ =>
          ⟨now :: readings, fun _ member => List.mem_cons_of_mem _ (kept member), rfl⟩⟩
    | hosts query => cases query <;> first | exact ⟨trivial, fun _ _ => same⟩ | cases reads
    | templates query => cases query <;> first | exact ⟨trivial, fun _ _ => same⟩ | cases reads
    | advisoryLock | outside => exact ⟨trivial, fun _ _ => same⟩
    | uuid7 | rollback | keys | vm => cases reads
  · cases outcome with
    | ok value => exact same
    | error error => trivial

theorem Passes.read (passes : phase.Passes host) {readings : List ℤ}
    (kept : phase.readings ⊆ readings) : Passes { phase with readings } host :=
  ⟨passes.1, passes.2.1, fun guarded =>
    have ⟨now, member, lapsed⟩ := passes.2.2 guarded
    ⟨now, kept member, lapsed⟩⟩

theorem spared_follows :
    Follows contract (Returns fun later spares => ∃ readings, phase.readings ⊆ readings ∧
      later = { phase with readings } ∧ (spares = false → later.Guarded host)) phase
      (spared phase.flags host) := by
  unfold spared
  split
  · exact ⟨phase.readings, List.Subset.refl _, rfl, by simp⟩
  next unclaimed =>
  have shed : phase.flags.poolShed → host.claimedAt = none := by simpa using unclaimed
  split
  · unfold renewed
    split
    · exact ⟨phase.readings, List.Subset.refl _, rfl, by simp⟩
    · next expiresAt lease =>
        refine .step trivial fun now _ => ⟨now :: phase.readings, by simp, rfl, fun lapsed => ?_⟩
        refine ⟨shed, fun _ => ⟨now, List.mem_cons_self, ?_⟩⟩
        simpa [Host.leaseOver, lease] using lapsed
  · next unguarded =>
      exact ⟨phase.readings, List.Subset.refl _, rfl,
        fun _ => ⟨shed, fun guarded => absurd guarded unguarded⟩⟩

theorem releaseDevice_follows (locked : phase.target = .locked host) (passes : phase.Passes host) :
    Follows contract (Returns fun later _ =>
      (later.target = .locked host ∨ later.target = .released host) ∧ later.Passes host) phase
      (releaseDevice deployment host) := by
  unfold releaseDevice
  split
  · refine .step trivial fun released _ => ?_
    cases released with
    | error failure => trivial
    | ok _ =>
    refine .step trivial fun now _ => .step ⟨host, locked, rfl, ?_⟩ fun matched _ => ?_
    · exact passes.read (List.subset_cons_self _ _)
    cases matched with
    | false => trivial
    | true =>
        refine ⟨.inr (by simp [contract, locked]), ?_⟩
        have kept := passes.read (List.subset_cons_self now phase.readings)
        simpa [contract, locked, Passes, Guarded] using kept
  · exact ⟨.inl locked, passes⟩

theorem removeVm_follows
    (held : phase.target = .locked host ∨ phase.target = .released host)
    (passes : phase.Passes host) :
    Follows contract (Returns fun later _ => later.target = .vacated host) phase
      (removeVm deployment host) := by
  unfold removeVm
  cases deployment.getVmProvider (some host.provider) with
  | error failure => trivial
  | ok vm =>
  simp only [ofExcept_ok, bind_eq_bind, done_bind]
  refine .step trivial fun forgotten _ => ?_
  cases forgotten with
  | error failure => trivial
  | ok _ =>
  refine .step ⟨held, passes⟩ fun removed _ => ?_
  cases removed with
  | ok _ => exact rfl
  | error failure =>
      dsimp only
      split
      · next absent => simp [contract, absent, Returns]
      · trivial

theorem tearDown_follows (locked : phase.target = .locked host) (passes : phase.Passes host) :
    Follows contract (Returns fun later _ => later.target = .vacated host) phase
      (tearDown deployment phase.flags host) := by
  unfold tearDown
  split
  · exact .seq (releaseDevice_follows locked passes) fun _ _ ready =>
      removeVm_follows ready.1 ready.2
  · next kept =>
      rw [HostStatus.vmBacked_eq_not_deleteBlocked] at kept
      rcases passes.1 with force | unblocked
      · exact absurd (.inl force) kept
      · exact absurd (.inr (by simp [unblocked])) kept

theorem deleteHost_follows {id : HostId} :
    Follows contract (Returns fun _ _ => True) phase
      (deleteHost deployment id phase.flags) := by
  refine .step trivial fun locked expected => ?_
  cases locked with
  | none => trivial
  | some host =>
  have host_id : host.id = id := expected host rfl
  refine .seq spared_follows fun _ spares checked => ?_
  obtain ⟨readings, -, rfl, guarded⟩ := checked
  split
  · trivial
  next spares =>
  split
  · trivial
  next blocked =>
  have passes : Passes { phase with readings, target := .locked host } host := by
    refine ⟨?_, guarded (by simpa using spares)⟩
    by_cases force : phase.flags.force
    · exact .inl force
    · exact .inr (by simpa [force] using blocked)
  exact .seq (tearDown_follows rfl passes) fun _ _ vacated =>
    .step ⟨host, vacated, host_id⟩ fun _ _ => trivial

theorem renewHost_follows {id : HostId} {expiresAt : Option ℤ} :
    Follows contract (Returns fun _ _ => True) phase (renewHost deployment id expiresAt) := by
  refine .step trivial fun locked expected => ?_
  cases locked with
  | none => trivial
  | some host =>
  have host_id : host.id = id := expected host rfl
  dsimp only
  split
  · trivial
  split
  · trivial
  next renewable =>
  cases deployment.getVmProvider (some host.provider) with
  | error failure => trivial
  | ok vm =>
  simp only [ofExcept_ok, bind_eq_bind, done_bind]
  refine .seq (reads_follows (requestedLease_reads _ _)) fun _ _ read => ?_
  obtain ⟨readings, -, rfl⟩ := read
  refine .step trivial fun _ _ => .step ⟨host, rfl, host_id, by simpa using renewable⟩
    fun matched _ => ?_
  cases matched with
  | false => trivial
  | true => exact .any (reads_follows (refresh_reads id))

theorem inSession_follows {α : Type} {program : Task α}
    (follows : Follows contract (Returns fun _ _ => True) phase program) :
    Follows contract (Returns fun _ _ => True) phase (inSession program) := by
  refine .closing (follows.weaken fun _ outcome ended => ⟨trivial, fun _ _ => ?_⟩)
  cases outcome <;> trivial

theorem reapEach_follows (ids : List HostId)
    (flags : phase.flags = { force := true, expiredOnly := true }) :
    Follows contract (Returns fun _ _ => True) phase (reapEach deployment ids) := by
  induction ids generalizing phase with
  | nil => trivial
  | cons id rest ih =>
      have deletes : Follows contract (Returns fun _ _ => True) phase
          (inSession (deleteHost deployment id { force := true, expiredOnly := true })) :=
        inSession_follows (flags ▸ deleteHost_follows)
      have keeps := deletes.keeping (·.flags = phase.flags) rfl
        fun _ op answer same => (next_flags _ op answer).trans same
      refine .seq (.attempt (keeps.weaken fun _ _ ended => ended.2)) fun later deleted same => ?_
      refine .seq (ih (same.trans flags)) fun _ _ _ => ?_
      split <;> trivial

theorem free_follows {α : Type} {program : Task α}
    (all : program.All fun op => ∀ phase, contract.allows phase op) :
    Follows contract (Returns fun later _ => later.flags = phase.flags) phase program := by
  refine (Follows.of_all all (·.flags = phase.flags) rfl fun op later free same =>
    ⟨free later, fun answer _ => (next_flags later op answer).trans same⟩).weaken
      fun _ outcome same => ?_
  cases outcome with
  | ok value => exact same
  | error error => trivial

theorem allows_of_creates {op : Op} (creates : op.creates) (phase : Deleter) :
    contract.allows phase op := by
  cases op with
  | hosts query =>
      cases query with
      | update place id columns => cases place <;> trivial
      | delete id => cases creates
      | get | lock | expired | warm | excess | count | candidate | claim | insert | stamp => trivial
  | templates query => cases query <;> trivial
  | vm call =>
      cases call with
      | delete host => cases creates
      | start | finish => trivial
  | clock | uuid7 | advisoryLock | rollback | keys | outside => trivial

theorem allows_of_fills {op : Op} (fills : op.fills) (phase : Deleter) :
    contract.allows phase op := by
  cases op with
  | hosts query =>
      cases query with
      | update place id columns => exact allows_of_creates (by exact fills) phase
      | delete id => cases fills
      | get | lock | expired | warm | excess | count | candidate | claim | insert | stamp => trivial
  | clock | uuid7 | advisoryLock | rollback | keys | outside => trivial
  | templates | vm => exact allows_of_creates (by exact fills) phase

theorem allows_of_idempotent {op : Op} (idempotent : op.idempotent) (phase : Deleter) :
    contract.allows phase op := by
  cases op with
  | hosts query =>
      cases query with
      | update place id columns => cases place <;> trivial
      | delete id => cases idempotent
      | get | lock | expired | warm | excess | count | candidate | claim | insert | stamp => trivial
  | clock | uuid7 | advisoryLock | rollback | outside | keys => trivial
  | templates | vm => exact allows_of_creates (by exact idempotent) phase

theorem shedEach_follows (ids : List HostId) (removed : ℕ)
    (flags : phase.flags = { poolShed := true }) :
    Follows contract (Returns fun _ _ => True) phase (Pool.shedEach deployment ids removed) := by
  induction ids generalizing phase removed with
  | nil => trivial
  | cons id rest ih =>
      have deletes : Follows contract (Returns fun _ _ => True) phase
          (inSession (deleteHost deployment id { poolShed := true })) :=
        inSession_follows (flags ▸ deleteHost_follows)
      have keeps := deletes.keeping (·.flags = phase.flags) rfl
        fun _ op answer same => (next_flags _ op answer).trans same
      refine .seq (.attempt (keeps.weaken fun _ _ ended => ended.2)) fun later outcome same => ?_
      split <;> exact ih _ (same.trans flags)

theorem maintainPool_follows (flags : phase.flags = { poolShed := true }) :
    Follows contract (Returns fun _ _ => True) phase (Pool.maintainPool deployment) := by
  unfold Pool.maintainPool
  dsimp only
  split
  · trivial
  · have surveys (targets : Dict ℕ) (now : ℤ) :
        (Pool.survey targets now).All fun op => ∀ phase, contract.allows phase op :=
      (survey_fills targets now).mono fun _ => allows_of_fills
    have tops (batch : List String) :
        (Pool.topUp deployment batch 0 0).All fun op => ∀ phase, contract.allows phase op :=
      (topUp_fills batch 0 0).mono fun _ => allows_of_fills
    refine .step trivial fun now _ => .seq (free_follows (surveys _ _)) fun _ surveyed same => ?_
    refine .step trivial fun shuffled _ => .seq (free_follows (tops _)) fun _ created kept => ?_
    exact .seq (shedEach_follows _ _ (kept.trans (same.trans flags))) fun _ removed _ => trivial

end Deleter

/-- The flags of a task's deletes. -/
def HostCall.deleteFlags : HostCall → DeleteFlags
  | delete _ flags => flags
  | reap => { force := true, expiredOnly := true }
  | maintain => { poolShed := true }
  | getOrCreate _ | create _ _ | renew _ _ => {}

/-- Every task of the host service follows the contract. -/
theorem HostCall.deletes (deployment : Deployment) (call : HostCall) :
    Follows Deleter.contract (fun _ _ => True) { flags := call.deleteFlags }
      (call.program deployment) := by
  have mapped {α : Type} {program : Task α} {phase : Deleter} (reply : α → Reply)
      (follows : Follows Deleter.contract (Returns fun _ _ => True) phase program) :
      Follows Deleter.contract (fun _ _ => True) phase (reply <$> program) :=
    .bind (follows.weaken fun _ outcome _ => by cases outcome <;> trivial)
  cases call with
  | getOrCreate request =>
      have free : (getOrCreateHost deployment request).All
          fun op => ∀ phase, Deleter.contract.allows phase op :=
        getOrCreateHost_idempotent.mono fun _ => Deleter.allows_of_idempotent
      exact mapped _ (Deleter.inSession_follows (Deleter.free_follows free).any)
  | create request poolMember =>
      have free : (createHost deployment request poolMember).All
          fun op => ∀ phase, Deleter.contract.allows phase op :=
        createHost_creates.mono fun _ => Deleter.allows_of_creates
      exact mapped _ (Deleter.inSession_follows (Deleter.free_follows free).any)
  | renew id expiresAt => exact mapped _ (Deleter.inSession_follows Deleter.renewHost_follows)
  | delete id flags => exact mapped _ (Deleter.inSession_follows Deleter.deleteHost_follows)
  | reap =>
      exact mapped _ (.step trivial fun _ _ => .step trivial fun _ _ =>
        Deleter.reapEach_follows _ rfl)
  | maintain => exact mapped _ (Deleter.maintainPool_follows rfl)

end Drukbox
