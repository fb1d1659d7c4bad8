import Drukbox.Hosts.Ownership

/-!
# Calls with one idempotency key

A call returns the host of the record that it read or wrote.  A record that was written during the
run stays as long as no garbage collection meets it, so all calls agree.
-/

namespace Drukbox

open Await Program HostService Registry

/-- What a call knows of the record of its key. -/
structure Agreement where
  /-- Its clock readings. -/
  readings : List ℤ := []
  /-- The record that it found last. -/
  looked : Option IdempotencyKey := none
  /-- That record had expired, or its host was gone. -/
  stale : Bool := false
  /-- The host of a record that it found live, or wrote. -/
  agreed : Option HostId := none

namespace Agreement

/-- The record has not expired at a reading. -/
def Unexpired (phase : Agreement) (id : HostId) : Prop :=
  ∃ record, phase.looked = some record ∧ record.hostId = id ∧
    ∃ now ∈ phase.readings, now < record.expiresAt

instance (phase : Agreement) (id : HostId) : Decidable (phase.Unexpired id) :=
  match looked : phase.looked with
  | none => isFalse fun ⟨_, found, _⟩ => by simp [looked] at found
  | some record =>
      decidable_of_iff (record.hostId = id ∧ ∃ now ∈ phase.readings, now < record.expiresAt)
        (by simp [Unexpired, looked])

/-- The contract of a call with an idempotency key. -/
def contract (deployment : Deployment) (key : String) : Contract Op.Answer Agreement where
  allows phase
    | .keys (.get name) => name = key
    | .keys (.delete name) => name = key ∧ phase.stale
    | .keys (.insert record) =>
        record.key = key ∧ ∃ now ∈ phase.readings,
          record.expiresAt = now + hours deployment.settings.idempotencyKeyTtlHours
    | .hosts (.delete _) => False
    | .clock | .uuid7 | .advisoryLock _ | .rollback | .templates _ | .outside _ | .vm _
    | .hosts _ => True
  expects _
    | .hosts (.get id) => fun row => ∀ host, row = some host → host.id = id
    | .clock | .uuid7 | .advisoryLock _ | .rollback | .keys _ | .templates _ | .outside _ | .vm _
    | .hosts _ => fun _ => True
  next phase
    | .clock => fun now =>
        { phase with
          readings := now :: phase.readings
          stale := phase.stale || phase.looked.any fun record => record.expiresAt ≤ now }
    | .keys (.get _) => fun record => { phase with looked := record, stale := false }
    | .keys (.insert record) => fun recorded =>
        if recorded then { phase with agreed := some record.hostId } else phase
    | .hosts (.get id) => fun row =>
        match row with
        | some _ => if phase.Unexpired id then { phase with agreed := some id } else phase
        | none =>
            { phase with
              stale := phase.stale || phase.looked.any fun record => record.hostId = id }
    | .uuid7 | .advisoryLock _ | .rollback | .keys _ | .templates _ | .outside _ | .vm _
    | .hosts _ => fun _ => phase

section Walk

variable {deployment : Deployment} {phase : Agreement} {key : String}

theorem obtains_follows {α : Type} {program : Task α} (all : program.All Op.obtains) :
    Follows (contract deployment key) (Returns fun _ _ => True) phase program := by
  refine .any (Follows.of_all all (fun _ => True) trivial fun op phase obtains _ =>
    ⟨?_, fun _ _ => trivial⟩)
  cases op with
  | keys query => cases obtains
  | hosts query => cases query <;> trivial
  | clock | uuid7 | advisoryLock | rollback | templates | outside | vm => trivial

theorem lookupIdempotencyKey_follows (serviceAccount : Option String) :
    Follows (contract deployment key)
      (Returns fun later existing =>
        ∀ host, existing = some host → later.agreed = some host.id) phase
      (lookupIdempotencyKey key serviceAccount) := by
  refine .step rfl fun found _ => ?_
  cases found with
  | none => rintro host ⟨⟩
  | some record =>
  refine .step trivial fun now _ => ?_
  let Found (later : Agreement) (existing : Option Host) : Prop :=
    (existing = none → later.stale) ∧ ∀ host, existing = some host → later.agreed = some host.id
  refine .seq (?_ : Follows _ (Returns Found) _ _) fun later existing found => ?_
  · split
    · next unexpired =>
        refine ⟨trivial, fun row expected => ?_⟩
        cases row with
        | none => simp [contract, Found]
        | some host =>
            have same : host.id = record.hostId := expected host rfl
            refine ⟨by simp, ?_⟩
            rintro _ ⟨rfl⟩
            rw [same]
            exact congrArg agreed (if_pos ⟨record, rfl, rfl, now, List.mem_cons_self, unexpired⟩)
    · next expired =>
        simp [contract, Found, not_lt.mp expired]
  · cases existing with
    | none => exact .step ⟨rfl, found.1 rfl⟩ fun _ _ => by simp
    | some host =>
        dsimp only
        split
        · trivial
        · rintro winner ⟨rfl⟩
          exact found.2 host rfl

theorem recordIdempotencyKey_follows (host : Host) :
    Follows (contract deployment key)
      (Returns fun later recorded => recorded = true → later.agreed = some host.id) phase
      (recordIdempotencyKey deployment key host) := by
  refine .step trivial fun now _ => ⟨⟨rfl, now, List.mem_cons_self, rfl⟩, fun recorded _ => ?_⟩
  rintro rfl
  simp [contract]

theorem releaseIdempotencyLoser_follows (host : Host) :
    Follows (contract deployment key) (Returns fun _ _ => True) phase
      (releaseIdempotencyLoser deployment host) := by
  have commits (later : Agreement) (id : HostId) (columns : HostColumns) :
      Follows (contract deployment key) (Returns fun _ _ => True) later
        (commit .disposal id columns) := by
    refine .step trivial fun matched _ => ?_
    cases matched <;> trivial
  refine .step trivial fun row _ => ?_
  cases row with
  | none => trivial
  | some fresh =>
  refine .step trivial fun now _ => ?_
  split
  · cases deployment.getVmProvider (some fresh.provider) with
    | error failure => trivial
    | ok vm => exact commits _ _ _
  · exact commits _ _ _

theorem getOrCreateHost_follows {request : HostRequest}
    (keyed : given request.idempotencyKey = some key) :
    Follows (contract deployment key)
      (Returns fun later host => later.agreed = some host.id) phase
      (getOrCreateHost deployment request) := by
  have reads {α : Type} {program : Task α} (all : program.All Op.reads) :=
    all.mono fun _ reads => Op.obtains_of_creates (Op.creates_of_reads reads)
  unfold getOrCreateHost
  cases checkProvider deployment request.provider with
  | error failure => trivial
  | ok _ =>
  simp only [ofExcept_ok, bind_eq_bind, done_bind, keyed]
  refine .seq (lookupIdempotencyKey_follows _) fun _ existing found => ?_
  cases existing with
  | some existing => exact found existing rfl
  | none =>
  refine .seq (obtains_follows (reads (checkAccountLimit_reads _))) fun _ _ _ => ?_
  refine .seq (obtains_follows obtainHost_obtains) fun _ host _ => ?_
  refine .seq (recordIdempotencyKey_follows host) fun _ recorded agreed => ?_
  split
  · next written => exact agreed written
  · refine .seq (releaseIdempotencyLoser_follows host) fun _ _ _ => ?_
    refine .seq (lookupIdempotencyKey_follows _) fun _ winner found => ?_
    cases winner with
    | some winner => exact found winner rfl
    | none => trivial

theorem program_follows {request : HostRequest} (keyed : given request.idempotencyKey = some key) :
    Follows (contract deployment key)
      (fun later outcome => ∀ host, outcome = .ok (.host host) → later.agreed = some host.id) phase
      ((HostCall.getOrCreate request).program deployment) := by
  refine .bind (.closing ((getOrCreateHost_follows keyed).weaken fun later outcome ended =>
    ⟨trivial, fun _ _ => ?_⟩))
  cases outcome with
  | ok host =>
      rintro _ ⟨rfl⟩
      exact ended
  | error failure => rintro _ ⟨⟩

end Walk

variable {ι : Type} [DecidableEq ι]

/-- A record that outlives a run which began at `start` and is shorter than the time to live. -/
def Fresh (deployment : Deployment) (start : ℤ) (world : Deployment.World ι)
    (record : IdempotencyKey) : Prop :=
  start + hours deployment.settings.idempotencyKeyTtlHours ≤ record.expiresAt ∧
    (world.state.hosts.get record.hostId).isSome

/-- A record that had expired when the run began, or whose host is gone. -/
def Dead (start : ℤ) (world : Deployment.World ι) (record : IdempotencyKey) : Prop :=
  record.expiresAt ≤ start ∨
    world.state.hosts.get record.hostId = none ∧ Spent record.hostId world

/-- What holds of the record of a key between any two steps. -/
structure Recorded (deployment : Deployment) (key : String) (start : ℤ)
    (world : Deployment.World ι) : Prop where
  began : start ≤ world.state.now
  record : ∀ record, world.state.keys.get key = some record →
    Fresh deployment start world record ∨ Dead start world record

/-- The key has a fresh record of a host. -/
def Settled (deployment : Deployment) (key : String) (start : ℤ) (world : Deployment.World ι)
    (id : HostId) : Prop :=
  ∃ record, world.state.keys.get key = some record ∧ Fresh deployment start world record ∧
    record.hostId = id

structure Standing (deployment : Deployment) (key : String) (start : ℤ) (phase : Agreement)
    (world : Deployment.World ι) : Prop where
  readings : ∀ now ∈ phase.readings, start ≤ now
  looked : ∀ record, phase.looked = some record →
    Settled deployment key start world record.hostId ∨ Dead start world record
  agreed : ∀ id, phase.agreed = some id → Settled deployment key start world id

/-- The run is shorter than the time to live, and every garbage collection meets a record that is
stale still. -/
def collectsStale (deployment : Deployment) (key : String) (start : ℤ) :
    Condition ι Op.Answer (State ι) (Nature ι) where
  perform _ op world :=
    world.state.now < start + hours deployment.settings.idempotencyKeyTtlHours ∧
      ∀ record, op = .keys (.delete key) → world.state.keys.get key = some record →
        record.expiresAt ≤ world.state.now ∨ world.state.hosts.get record.hostId = none

variable {deployment : Deployment} {key : String} {start : ℤ} {task other : ι} {op : Op}
  {answer : op.Answer} {before after : Deployment.World ι} {actor : Provisioner}
  {phase standing : Agreement}

section Answered

variable (answered : deployment.Answered task op answer before after)
include answered

theorem fresh (keeps : (contract deployment key).allows phase op) {record : IdempotencyKey}
    (fresh : Fresh deployment start before record) : Fresh deployment start after record := by
  refine ⟨fresh.1, answered.present ?_ fresh.2⟩
  rintro rfl
  exact keeps

theorem dead (known : actor.Standing task before)
    (allowed : (Provisioner.contract deployment).allows actor op) {record : IdempotencyKey}
    (dead : Dead start before record) : Dead start after record := by
  rcases dead with expired | ⟨absent, spent⟩
  · exact .inl expired
  · exact .inr ⟨answered.absent known allowed spent absent, answered.spent spent⟩

/-- What one step makes of the record of the key. -/
theorem record_cases (keeps : (contract deployment key).allows phase op) :
    after.state.keys.get key = before.state.keys.get key ∨
      (op = .keys (.delete key) ∧ after.state.keys.get key = none) ∨
      ∃ record, op = .keys (.insert record) ∧ HEq answer true ∧
        before.state.keys.get key = none ∧ after.state.keys.get key = some record := by
  cases op with
  | keys query =>
      cases query with
      | get name => exact .inl (by rw [answered.outcome.2])
      | delete name =>
          obtain ⟨rfl, -⟩ := keeps
          exact .inr (.inl ⟨rfl, by rw [show after.state = _ from answered.outcome]; simp⟩)
      | insert record =>
          cases answer with
          | false => exact .inl (by rw [answered.outcome.2])
          | true =>
              obtain ⟨-, absent, -, same⟩ := answered.outcome
              obtain ⟨rfl, -⟩ := keeps
              exact .inr (.inr ⟨record, rfl, .rfl, absent, by simp [same]⟩)
  | hosts query =>
      refine .inl (congrArg (Table.get · key) (answered.outcome.keys ?_ (by simp)))
      rintro id ⟨rfl⟩
      exact keeps
  | clock | uuid7 | advisoryLock | rollback | templates | outside | vm =>
      exact .inl (by rw [answered.outcome.keys (by simp) (by simp)])

/-- A fresh record stays. -/
theorem settled (keeps : (contract deployment key).allows phase op)
    (spared : (collectsStale deployment key start).perform task op before) {id : HostId}
    (settled : Settled deployment key start before id) :
    Settled deployment key start after id := by
  obtain ⟨record, recorded, lives, same⟩ := settled
  refine ⟨record, ?_, fresh answered keeps lives, same⟩
  rcases record_cases answered keeps with kept | ⟨collected, -⟩ | ⟨-, -, -, absent, -⟩
  · exact kept.trans recorded
  · obtain ⟨short, stale⟩ := spared
    rcases stale record collected recorded with expired | gone
    · exact absurd (lives.1.trans expired) (not_le.mpr short)
    · exact absurd lives.2 (by simp [gone])
  · simp [absent] at recorded

/-- A record that a call wrote is fresh. -/
theorem written (keeps : (contract deployment key).allows phase op)
    (readings : ∀ now ∈ phase.readings, start ≤ now) {record : IdempotencyKey}
    (inserts : op = .keys (.insert record)) (accepted : HEq answer true) :
    Settled deployment key start after record.hostId := by
  subst inserts
  obtain rfl := eq_of_heq accepted
  obtain ⟨-, -, present, same⟩ := answered.outcome
  obtain ⟨rfl, now, read, expires⟩ := keeps
  refine ⟨record, by simp [same], ⟨?_, by rw [same]; exact present⟩, rfl⟩
  rw [expires]
  exact Int.add_le_add_right (readings now read) _

theorem recorded (keeps : (contract deployment key).allows phase op)
    (known : actor.Standing task before)
    (allowed : (Provisioner.contract deployment).allows actor op)
    (inv : Recorded deployment key start before)
    (stands : Standing deployment key start phase before) :
    Recorded deployment key start after := by
  refine ⟨answered.now ▸ inv.began, fun record recorded => ?_⟩
  rcases record_cases answered keeps with kept | ⟨-, absent⟩ | ⟨_, inserts, accepted, -, new⟩
  · rcases inv.record record (kept ▸ recorded) with lives | gone
    · exact .inl (fresh answered keeps lives)
    · exact .inr (dead answered known allowed gone)
  · simp [absent] at recorded
  · obtain ⟨_, settled, lives, -⟩ := written answered keeps stands.readings inserts accepted
    obtain rfl := Option.some.inj (settled.symm.trans recorded)
    exact .inl lives

theorem standing_other (keeps : (contract deployment key).allows phase op)
    (known : actor.Standing task before)
    (allowed : (Provisioner.contract deployment).allows actor op)
    (spared : (collectsStale deployment key start).perform task op before)
    (stands : Standing deployment key start standing before) :
    Standing deployment key start standing after where
  readings := stands.readings
  looked record found := by
    rcases stands.looked record found with lives | gone
    · exact .inl (settled answered keeps spared lives)
    · exact .inr (dead answered known allowed gone)
  agreed id agreed := settled answered keeps spared (stands.agreed id agreed)

theorem standing_self (keeps : (contract deployment key).allows phase op)
    (known : actor.Standing task before)
    (allowed : (Provisioner.contract deployment).allows actor op)
    (spared : (collectsStale deployment key start).perform task op before)
    (inv : Recorded deployment key start before)
    (stands : Standing deployment key start phase before) :
    Standing deployment key start ((contract deployment key).next phase op answer) after := by
  have still := standing_other answered keeps known allowed spared stands
  have inv_after := recorded answered keeps known allowed inv stands
  cases op with
  | clock =>
      refine ⟨fun now member => ?_, still.looked, still.agreed⟩
      rcases List.mem_cons.mp member with rfl | member
      · exact inv.began.trans_eq answered.outcome.1.symm
      · exact still.readings now member
  | keys query =>
      cases query with
      | get name =>
          refine ⟨still.readings, fun record found => ?_, still.agreed⟩
          obtain rfl := keeps
          obtain ⟨found_now, same⟩ := answered.outcome
          have recorded : after.state.keys.get name = some record :=
            same ▸ found_now.symm.trans found
          exact (inv_after.record record recorded).imp_left fun lives =>
            ⟨record, recorded, lives, rfl⟩
      | delete name => exact still
      | insert record =>
          cases answer with
          | false => exact still
          | true =>
              refine ⟨still.readings, still.looked, fun id agreed => ?_⟩
              obtain rfl : record.hostId = id := by simpa [contract] using agreed
              exact written answered keeps stands.readings rfl .rfl
  | hosts query =>
      cases query with
      | get id =>
          cases answer with
          | none => exact ⟨still.readings, still.looked, still.agreed⟩
          | some host =>
              simp only [contract]
              split
              · next live =>
                  refine ⟨still.readings, still.looked, fun agreed same => ?_⟩
                  obtain rfl := Option.some.inj same
                  obtain ⟨record, found, rfl, now, read, unexpired⟩ := live
                  rcases still.looked record found with lives | expired | ⟨gone, -⟩
                  · exact lives
                  · exact absurd (stands.readings now read) (by omega)
                  · have present := answered.outcome.1
                    rw [← answered.outcome.2, gone] at present
                    contradiction
              · exact still
      | delete id => cases keeps
      | lock | expired | warm | excess | count | candidate | claim | insert | update | stamp =>
          exact still
  | uuid7 | advisoryLock | rollback | templates | outside | vm => exact still

theorem expected (registry : Registry before) :
    (contract deployment key).expects phase op answer := by
  cases op with
  | hosts query =>
      cases query with
      | get id =>
          rintro host rfl
          exact registry.host_id answered.outcome.1.symm
      | lock | expired | warm | excess | count | candidate | claim | insert | update | stamp
      | delete => trivial
  | clock | uuid7 | advisoryLock | rollback | keys | templates | outside | vm => trivial

end Answered

section Unanswered

omit [DecidableEq ι]

variable (same : Deployment.Unanswered before after)
include same

theorem Fresh.unanswered {record : IdempotencyKey} (fresh : Fresh deployment start before record) :
    Fresh deployment start after record :=
  ⟨fresh.1, same.hosts ▸ fresh.2⟩

theorem Dead.unanswered {record : IdempotencyKey} (dead : Dead start before record) :
    Dead start after record :=
  dead.imp_right fun gone => ⟨same.hosts ▸ gone.1, same.spent.mpr gone.2⟩

variable (keys : after.state.keys = before.state.keys)
include keys

theorem Settled.unanswered {id : HostId} (settled : Settled deployment key start before id) :
    Settled deployment key start after id := by
  obtain ⟨record, recorded, lives, host_id⟩ := settled
  exact ⟨record, keys ▸ recorded, lives.unanswered same, host_id⟩

theorem Recorded.unanswered (inv : Recorded deployment key start before) :
    Recorded deployment key start after where
  began := inv.began.trans same.now
  record record recorded :=
    (inv.record record (keys ▸ recorded)).imp (.unanswered same) (.unanswered same)

theorem Standing.unanswered (stands : Standing deployment key start phase before) :
    Standing deployment key start phase after where
  readings := stands.readings
  looked record found :=
    (stands.looked record found).imp (.unanswered same keys) (.unanswered same)
  agreed id agreed := (stands.agreed id agreed).unanswered same keys

end Unanswered

/-- Every run in which the garbage collections meet stale records keeps what the calls know of the
record. -/
theorem upheld (deployment : Deployment) (key : String) (start : ℤ) :
    Upheld (deployment.system : System ι _ _ _ _) (collectsStale deployment key start)
      ((Provisioner.contract deployment).prod (contract deployment key))
      (fun world => Registry world ∧ Recorded deployment key start world)
      fun task phase world =>
        phase.1.Standing task world ∧ Standing deployment key start phase.2 world where
  perform allowed inv known spared answered := by
    obtain ⟨expects, registry, actor⟩ :=
      (Provisioner.upheld deployment).perform allowed.1 inv.1 known.1 trivial answered
    have answered := Deployment.answered answered
    exact ⟨⟨expects, expected answered inv.1⟩,
      ⟨registry, recorded answered allowed.2 known.1 allowed.1 inv.2 known.2⟩,
      actor, standing_self answered allowed.2 known.1 allowed.1 spared inv.2 known.2⟩
  others allowed inv known spared answered different stands :=
    ⟨(Provisioner.upheld deployment).others allowed.1 inv.1 known.1 trivial answered different
      stands.1,
      standing_other (Deployment.answered answered) allowed.2 known.1 allowed.1 spared stands.2⟩
  abandon _ inv :=
    have same := Deployment.Unanswered.abandoned _ _
    ⟨⟨same.registry inv.1, inv.2.unanswered same rfl⟩,
      fun _ stands => ⟨same.stands stands.1, stands.2.unanswered same rfl⟩⟩
  world {move before state} _ inv moved := by
    have same := Deployment.Unanswered.nature moved
    have keys : state.keys = before.state.keys := by
      obtain ⟨now, vms, -, rfl⟩ := Deployment.nature_frame moved
      rfl
    exact ⟨⟨same.registry inv.1, inv.2.unanswered same keys⟩,
      fun stands => ⟨same.stands stands.1, stands.2.unanswered same keys⟩⟩

end Agreement

open Agreement

variable {ι : Type} [DecidableEq ι]

/-- All calls with one idempotency key that return, return one host, in every run that is shorter
than the time to live and in which every garbage collection meets a stale record. -/
theorem getOrCreateHost_agree (deployment : Deployment) (state : State ι) (rest : state.AtRest)
    (key : String)
    (stale : ∀ record, state.keys.get key = some record →
      record.expiresAt ≤ state.now ∨ state.hosts.get record.hostId = none)
    (requests : ι → Option HostRequest)
    (keyed : ∀ task request, requests task = some request →
      given request.idempotencyKey = some key)
    (config : Config ι _ _ _ _)
    (reach : deployment.system.Reaches (collectsStale deployment key state.now)
      (deployment.start state fun task => (requests task).map .getOrCreate) config)
    (task other : ι) (host winner : Host)
    (returned : config.tasks task = some (.done (.host host)))
    (returned_too : config.tasks other = some (.done (.host winner))) :
    host.id = winner.id := by
  have upholds : Upholds ((Provisioner.contract deployment).prod (contract deployment key))
      (fun world => Registry world ∧ Recorded deployment key state.now world)
      (fun task phase world =>
        phase.1.Standing task world ∧ Standing deployment key state.now phase.2 world)
      (fun _ phase outcome => ∀ host, outcome = .ok (.host host) → phase.2.agreed = some host.id)
      config := by
    refine Upholds.reaches (upheld deployment key state.now) ?_ reach
    refine ⟨⟨rest.registry, le_refl _, fun record recorded => .inr ?_⟩,
      fun {task program} started => ?_⟩
    · refine (stale record recorded).imp_right fun absent =>
        ⟨absent, rest.record_issued recorded, ?_⟩
      simp [Drew, Deployment.start]
    · obtain ⟨_, called, rfl⟩ := Option.map_eq_some_iff.mp started
      obtain ⟨request, requested, rfl⟩ := Option.map_eq_some_iff.mp called
      refine ⟨({}, {}), ⟨.initial _ _, by simp, by simp, by simp⟩, ?_⟩
      exact (HostCall.follows deployment _ |>.prod (program_follows (keyed task request requested))
        ).weaken fun _ _ ended => ended.2
  have settles {task : ι} {host : Host} (returned : config.tasks task = some (.done (.host host))) :
      Settled deployment key state.now config.world host.id := by
    obtain ⟨phase, ⟨-, stands⟩, ended⟩ := upholds.follows returned
    exact stands.agreed _ (ended host rfl)
  obtain ⟨record, recorded, -, same⟩ := settles returned
  obtain ⟨record_too, recorded_too, -, same_too⟩ := settles returned_too
  obtain rfl := Option.some.inj (recorded.symm.trans recorded_too)
  exact same.symm.trans same_too

def warmHosts : Table HostId Host :=
  (Table.empty.insert 1 (Host.sample 1)).insert 2 (Host.sample 2)

/-- Two calls with one key. -/
def keyedRequests (_ : Bool) : Option HostRequest :=
  some { idempotencyKey := some "key" }

/-- The record of the key had expired. -/
def expiredRecordState : State Bool :=
  .resting 1 warmHosts
    (Table.empty.insert "key" { key := "key", hostId := 1, createdAt := 0, expiresAt := 0 }) .empty

theorem warmHosts_id {id : HostId} {host : Host} (present : warmHosts.get id = some host) :
    host.id = id := by
  simp only [warmHosts, Table.get_insert, Table.get_empty] at present
  split at present
  · next same => rw [same, ← Option.some.inj present]; rfl
  · split at present
    · next same => rw [same, ← Option.some.inj present]; rfl
    · contradiction

/-- The second call returns the host that the first one recorded. -/
theorem getOrCreateHost_agree_twice :
    ∃ config host winner,
      Deployment.sample.system.Reaches (collectsStale Deployment.sample "key" 1)
        (Deployment.sample.start (.resting 1 warmHosts .empty .empty)
          fun task => (keyedRequests task).map .getOrCreate) config ∧
      config.tasks true = some (.done (.host host)) ∧
      config.tasks false = some (.done (.host winner)) ∧ host.id = winner.id :=
  have reach : Deployment.sample.system.Reaches (collectsStale Deployment.sample "key" 1)
      (Deployment.sample.start (.resting 1 warmHosts .empty .empty)
        fun task => (keyedRequests task).map .getOrCreate) _ :=
    System.Reaches.perform true Choice.go rfl rfl ⟨by decide, nofun⟩ <|
    System.Reaches.perform true Choice.go rfl rfl ⟨by decide, nofun⟩ <|
    System.Reaches.perform true (Choice.number 1) rfl rfl ⟨by decide, nofun⟩ <|
    System.Reaches.perform true Choice.go rfl rfl ⟨by decide, nofun⟩ <|
    System.Reaches.perform true Choice.go rfl rfl ⟨by decide, nofun⟩ <|
    System.Reaches.perform true Choice.go rfl rfl ⟨by decide, nofun⟩ <|
    System.Reaches.perform true Choice.go rfl rfl ⟨by decide, nofun⟩ <|
    System.Reaches.perform true Choice.go rfl rfl ⟨by decide, nofun⟩ <|
    System.Reaches.perform false Choice.go rfl rfl ⟨by decide, nofun⟩ <|
    System.Reaches.perform false Choice.go rfl rfl ⟨by decide, nofun⟩ <|
    System.Reaches.perform false Choice.go rfl rfl ⟨by decide, nofun⟩ <|
    System.Reaches.perform false Choice.go rfl rfl ⟨by decide, nofun⟩ .refl
  ⟨_, _, _, reach, rfl, rfl,
    getOrCreateHost_agree Deployment.sample _ (State.resting_atRest warmHosts_id (by simp)) "key"
      (by simp [State.resting]) keyedRequests
      (by simp [keyedRequests, given]) _ reach true false _ _
      rfl rfl⟩

/-- Both calls find the expired record.  The first collects it, claims and records a host; the
second then collects the new record, and does the same. -/
def collectionRace : List (Event Bool Choice (Nature Bool)) :=
  [.perform false .go, .perform false .go] ++
    [.perform true .go, .perform true .go, .perform true .go, .perform true .go,
      .perform true (.number 1), .perform true .go, .perform true .go, .perform true .go,
      .perform true .go, .perform true .go] ++
    [.perform false .go, .perform false .go, .perform false (.number 2), .perform false .go,
      .perform false .go, .perform false .go, .perform false .go, .perform false .go]

/-- A garbage collection that meets a fresh record makes two calls return two hosts. -/
theorem getOrCreateHost_disagree :
    ∃ config host winner,
      Deployment.sample.system.Reaches {}
        (Deployment.sample.start expiredRecordState
          fun task => (keyedRequests task).map .getOrCreate) config ∧
      config.tasks true = some (.done (.host host)) ∧
      config.tasks false = some (.done (.host winner)) ∧
      config.world.state.now = expiredRecordState.now ∧ host.id ≠ winner.id :=
  ⟨_, _, _, System.reaches_run collectionRace rfl, rfl, rfl, rfl, by decide⟩

end Drukbox
