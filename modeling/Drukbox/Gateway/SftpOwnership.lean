import Drukbox.Gateway.Backend
import Mathlib.Data.Finset.Card

/-!
# Who owns the SFTP process

A session that is cancelled while its opening shakes hands leaves its process in `_process`, and the
next opening overwrites it.  A session that is cancelled while `_release` awaits the lock stays
counted.  In runs without these two, a backend has one process at most, counts its sessions, and
leaves no process behind.
-/

namespace Drukbox.Gateway.Sftp

open Await

/-- An acquire or a release is in progress. -/
def Stage.moving : Stage → Bool
  | acquiring | opening | greeting _ | limiting _ | joining .opening | exiting .opening
  | releasing => true
  | serving _ | sleeping | idling | closing | joining _ | exiting _ | ended _ => false

/-- The task is in `_open`. -/
def Stage.opens : Stage → Bool
  | opening | greeting _ | limiting _ | joining .opening | exiting .opening => true
  | acquiring | serving _ | releasing | sleeping | idling | closing | joining _ | exiting _
  | ended _ => false

/-- The session is counted: it has a handler, or has yet to give it back. -/
def Stage.counts : Stage → Bool
  | serving _ | releasing => true
  | acquiring | opening | greeting _ | limiting _ | sleeping | idling | closing | joining _
  | exiting _ | ended _ => false

/-- `_close_after_idle` is in `_teardown`. -/
def Stage.tearsIdle : Stage → Bool
  | joining .idle | exiting .idle => true
  | acquiring | opening | greeting _ | limiting _ | serving _ | releasing | sleeping | idling
  | closing | joining _ | exiting _ | ended _ => false

/-- `aclose` has closed the backend. -/
def Stage.shuts : Stage → Bool
  | joining .aclose | exiting .aclose | ended .closed => true
  | acquiring | opening | greeting _ | limiting _ | serving _ | releasing | sleeping | idling
  | closing | joining _ | exiting _ | ended _ => false

namespace Backend

variable {ι : Type} [DecidableEq ι]

/-- The backend owns its process, counts its sessions, and leaves nothing behind. -/
structure Owned (backend : Backend ι) : Prop where
  one : ∀ first second server other, backend.servers first = some server →
    backend.servers second = some other → server.life = .alive → other.life = .alive →
      first = second
  /-- Every process is the current one or has been closed. -/
  current : ∀ number server, backend.servers number = some server → server.life ≠ .closed →
    backend.process = some number
  counted : (∀ task stage, backend.stages task = some stage → stage.moving = false) →
    ∃ users : Finset (Task ι),
      (∀ task, task ∈ users ↔ ∃ server, backend.stages task = some (.serving server)) ∧
      backend.inFlight = users.card
  /-- No session is in use during the teardown of an idle timer. -/
  idle : ∀ task stage, backend.stages task = some stage → stage.tearsIdle →
    ∀ other server, backend.stages other ≠ some (.serving server)
  closed : ∀ task, backend.stages task = some (.ended .closed) →
    ∀ number server, backend.servers number = some server → server.life = .closed

/-- An opened process finds no other in `_process`, and no session is cancelled while its `_release`
awaits the lock. -/
def InOrder (backend : Backend ι) : Event ι → Prop
  | .opened _ true => backend.process = none
  | .cancel task => backend.stages (.caller task) ≠ some .releasing
  | .opened _ false | .session _ | .aclose _ | .lock _ | .greeted _ _ | .limited _ _ | .finish _
  | .joined _ | .exited _ | .wake _ | .receive _ | .die _ => True

/-- `_in_flight` is the number of counted sessions. -/
def Counted (stages : Task ι → Option Stage) (inFlight : ℤ) : Prop :=
  ∃ users : Finset (Task ι), (∀ task, task ∈ users ↔ (stages task).any Stage.counts) ∧
    inFlight = users.card

structure Sound (backend : Backend ι) : Prop where
  locked : ∀ {task stage}, backend.stages task = some stage → stage.inside →
    backend.lock = some task
  current : ∀ {number server}, backend.servers number = some server → server.life ≠ .closed →
    backend.process = some number
  counted : Counted backend.stages backend.inFlight
  idle : ∀ {task stage}, backend.stages task = some stage → stage.tearsIdle →
    backend.inFlight = 0
  opens : ∀ {task stage}, backend.stages task = some stage → stage.opens → backend.closed = false
  shuts : ∀ {task stage}, backend.stages task = some stage → stage.shuts → backend.closed
  returned : ∀ {task}, backend.stages task = some (.ended .closed) → backend.process = none
  timers : ∀ {number stage}, backend.stages (.closer number) = some stage →
    number < backend.closers

/-- A section that writes how far a task has come, and leaves the processes as they are. -/
structure Writes (backend : Backend ι) (task : Task ι) (stage : Stage) (after : Backend ι) :
    Prop where
  stages : after.stages = Function.update backend.stages task (some stage)
  servers : after.servers = backend.servers
  process : after.process = backend.process
  closed : after.closed = backend.closed
  closers : after.closers = backend.closers

variable {backend after : Backend ι} {task : Task ι} {stage before : Stage}

namespace Counted

variable {stages : Task ι → Option Stage} {inFlight : ℤ}

theorem same (counted : Counted stages inFlight)
    (equal : stage.counts = (stages task).any Stage.counts) :
    Counted (Function.update stages task (some stage)) inFlight := by
  obtain ⟨users, members, size⟩ := counted
  refine ⟨users, fun other => ?_, size⟩
  rw [members other, Function.update_apply]
  split
  · next this => rw [this, Option.any_some, equal]
  · rfl

theorem keep (counted : Counted stages inFlight) (known : stages task = some before)
    (equal : stage.counts = before.counts) :
    Counted (Function.update stages task (some stage)) inFlight :=
  counted.same (by rw [known, Option.any_some, equal])

theorem enter (counted : Counted stages inFlight)
    (absent : (stages task).any Stage.counts = false) (counts : stage.counts) :
    Counted (Function.update stages task (some stage)) (inFlight + 1) := by
  obtain ⟨users, members, size⟩ := counted
  have fresh : task ∉ users := by simp [members, absent]
  refine ⟨insert task users, fun other => ?_, ?_⟩
  · rw [Finset.mem_insert, members other, Function.update_apply]
    split
    · next this => simp [this, counts]
    · next this => simp [this]
  · rw [Finset.card_insert_of_notMem fresh, size]
    push_cast
    rfl

theorem leave (counted : Counted stages inFlight) (present : (stages task).any Stage.counts)
    (ends : stage.counts = false) :
    Counted (Function.update stages task (some stage)) (inFlight - 1) := by
  obtain ⟨users, members, size⟩ := counted
  have member : task ∈ users := (members task).mpr present
  refine ⟨users.erase task, fun other => ?_, ?_⟩
  · rw [Finset.mem_erase, members other, Function.update_apply]
    split
    · next this => simp [this, ends]
    · next this => simp [this]
  · have positive : 0 < users.card := Finset.card_pos.mpr ⟨task, member⟩
    rw [Finset.card_erase_of_mem member, size]
    omega

end Counted

theorem inside_of_opens (opens : stage.opens) : stage.inside := by
  cases stage with
  | joining teardown | exiting teardown => rfl
  | opening | greeting _ | limiting _ => rfl
  | acquiring | serving _ | releasing | sleeping | idling | closing | ended _ => contradiction

theorem inside_of_tearsIdle (tears : stage.tearsIdle) : stage.inside := by
  cases stage with
  | joining teardown | exiting teardown => rfl
  | acquiring | opening | greeting _ | limiting _ | serving _ | releasing | sleeping | idling
  | closing | ended _ => contradiction

namespace Writes

theorem cases (writes : backend.Writes task stage after) {other : Task ι} {found : Stage}
    (present : after.stages other = some found) :
    other = task ∧ found = stage ∨ other ≠ task ∧ backend.stages other = some found := by
  rw [writes.stages, Function.update_apply] at present
  split at present
  · next same => exact .inl ⟨same, (Option.some.inj present).symm⟩
  · next different => exact .inr ⟨different, present⟩

end Writes

namespace Sound

/-- A section of a task that has the lock, or may take it. -/
theorem move (sound : backend.Sound) (writes : backend.Writes task stage after)
    (known : backend.stages task = some before)
    (free : ∀ {other}, backend.lock = some other → other = task)
    (locked : stage.inside → after.lock = some task)
    (counted : Counted (Function.update backend.stages task (some stage)) after.inFlight)
    (idle : stage.tearsIdle → after.inFlight = 0)
    (opens : stage.opens → backend.closed = false) (shuts : stage.shuts → backend.closed)
    (returned : stage = .ended .closed → backend.process = none) : after.Sound := by
  have alone {other : Task ι} {found : Stage} (different : other ≠ task)
      (present : backend.stages other = some found) (inside : found.inside) : False :=
    different (free (sound.locked present inside))
  refine ⟨fun present inside => ?_, fun present open_ => ?_, ?_, fun present tears => ?_,
    fun present busy => ?_, fun present closes => ?_, fun present => ?_, fun present => ?_⟩
  · rcases writes.cases present with ⟨rfl, rfl⟩ | ⟨different, present⟩
    · exact locked inside
    · exact (alone different present inside).elim
  · rw [writes.servers] at present
    rw [writes.process]
    exact sound.current present open_
  · rw [writes.stages]
    exact counted
  · rcases writes.cases present with ⟨rfl, rfl⟩ | ⟨different, present⟩
    · exact idle tears
    · exact (alone different present (inside_of_tearsIdle tears)).elim
  · rw [writes.closed]
    rcases writes.cases present with ⟨rfl, rfl⟩ | ⟨-, present⟩
    · exact opens busy
    · exact sound.opens present busy
  · rw [writes.closed]
    rcases writes.cases present with ⟨rfl, rfl⟩ | ⟨-, present⟩
    · exact shuts closes
    · exact sound.shuts present closes
  · rw [writes.process]
    rcases writes.cases present with ⟨rfl, same⟩ | ⟨-, present⟩
    · exact returned same.symm
    · exact sound.returned present
  · rw [writes.closers]
    rcases writes.cases present with ⟨rfl, -⟩ | ⟨-, present⟩
    · exact sound.timers known
    · exact sound.timers present

theorem aside (sound : backend.Sound) (writes : backend.Writes task stage after)
    (timer : ∀ {number}, task = .closer number → number < backend.closers)
    (lock : after.lock = backend.lock) (inFlight : after.inFlight = backend.inFlight)
    (outside : stage.inside = false) (plain : stage.shuts = false)
    (same : stage.counts = (backend.stages task).any Stage.counts) : after.Sound := by
  have written {found : Stage} {other : Task ι} (present : after.stages other = some found)
      (other_than : found ≠ stage) : backend.stages other = some found := by
    rcases writes.cases present with ⟨-, this⟩ | ⟨-, present⟩
    · exact absurd this other_than
    · exact present
  refine ⟨fun present inside => ?_, fun present open_ => ?_, ?_, fun present tears => ?_,
    fun present busy => ?_, fun present closes => ?_, fun present => ?_, fun present => ?_⟩
  · rw [lock]
    exact sound.locked (written present (by rintro rfl; simp [outside] at inside)) inside
  · rw [writes.servers] at present
    rw [writes.process]
    exact sound.current present open_
  · rw [writes.stages, inFlight]
    exact sound.counted.same same
  · have inside := inside_of_tearsIdle tears
    rw [inFlight]
    exact sound.idle (written present (by rintro rfl; simp [outside] at inside)) tears
  · have inside := inside_of_opens busy
    rw [writes.closed]
    exact sound.opens (written present (by rintro rfl; simp [outside] at inside)) busy
  · rw [writes.closed]
    exact sound.shuts (written present (by rintro rfl; simp [plain] at closes)) closes
  · rw [writes.process]
    exact sound.returned (written present (by rintro rfl; contradiction))
  · rw [writes.closers]
    rcases writes.cases present with ⟨same, -⟩ | ⟨-, present⟩
    · exact timer same.symm
    · exact sound.timers present

omit [DecidableEq ι] in
theorem other (sound : backend.Sound) (handler recvTask idleCloser : Option ℕ) :
    { backend with handler, recvTask, idleCloser }.Sound :=
  ⟨sound.locked, sound.current, sound.counted, sound.idle, sound.opens, sound.shuts,
    sound.returned, sound.timers⟩

omit [DecidableEq ι] in
theorem take (sound : backend.Sound) (free : backend.lock = none) :
    { backend with lock := some task }.Sound := by
  refine ⟨fun present inside => ?_, sound.current, sound.counted, sound.idle, sound.opens,
    sound.shuts, sound.returned, sound.timers⟩
  have locked := sound.locked present inside
  rw [free] at locked
  contradiction

theorem tornDown (sound : backend.Sound) (known : backend.stages task = some before)
    (free : ∀ {other}, backend.lock = some other → other = task)
    (uncounted : before.counts = false) {teardown : Teardown}
    (shut : teardown = .aclose → backend.closed) (empty : backend.process = none) :
    (backend.tornDown task teardown).Sound := by
  refine sound.move ⟨rfl, rfl, rfl, rfl, rfl⟩ known free (by simp [Stage.inside])
    (sound.counted.keep known uncounted.symm) (by simp [Stage.tearsIdle])
    (by simp [Stage.opens]) (fun shuts => ?_) fun _ => empty
  cases teardown with
  | aclose => exact shut rfl
  | opening | idle => contradiction

theorem suspend (sound : backend.Sound) (known : backend.stages task = some before)
    (mine : backend.lock = some task) (uncounted : before.counts = false) {teardown : Teardown}
    (idle : teardown = .idle → backend.inFlight = 0)
    (opening : teardown = .opening → backend.closed = false)
    (shut : teardown = .aclose → backend.closed)
    (waits : stage = .joining teardown ∨ stage = .exiting teardown) :
    (backend.setStage task stage).Sound := by
  have quiet : stage.counts = false := by
    rcases waits with rfl | rfl <;> rfl
  refine sound.move ⟨rfl, rfl, rfl, rfl, rfl⟩ known
    (fun locked => Option.some.inj (locked.symm.trans mine)) (fun _ => mine)
    (sound.counted.keep known (quiet.trans uncounted.symm)) (fun tears => idle ?_)
    (fun opens => opening ?_) (fun shuts => shut ?_) (fun same => ?_)
  · rcases waits with rfl | rfl <;> cases teardown <;> first | rfl | contradiction
  · rcases waits with rfl | rfl <;> cases teardown <;> first | rfl | contradiction
  · rcases waits with rfl | rfl <;> cases teardown <;> first | rfl | contradiction
  · rcases waits with rfl | rfl <;> contradiction

theorem exit (sound : backend.Sound) (known : backend.stages task = some before)
    (mine : backend.lock = some task) (uncounted : before.counts = false) {teardown : Teardown}
    (idle : teardown = .idle → backend.inFlight = 0)
    (opening : teardown = .opening → backend.closed = false)
    (shut : teardown = .aclose → backend.closed) : (backend.exit task teardown).Sound := by
  have free {other : Task ι} (locked : backend.lock = some other) : other = task :=
    Option.some.inj (locked.symm.trans mine)
  rw [Backend.exit]
  split
  · exact sound.suspend known mine uncounted idle opening shut (.inr rfl)
  · next empty => exact sound.tornDown known free uncounted shut empty

theorem teardown (sound : backend.Sound) (known : backend.stages task = some before)
    (mine : backend.lock = some task) (uncounted : before.counts = false) {teardown : Teardown}
    (idle : teardown = .idle → backend.inFlight = 0)
    (opening : teardown = .opening → backend.closed = false)
    (shut : teardown = .aclose → backend.closed) : (backend.teardown task teardown).Sound := by
  rw [Backend.teardown]
  split
  · exact sound.suspend known mine uncounted idle opening shut (.inl rfl)
  · exact sound.exit known mine uncounted idle opening shut

theorem cancelCloser (sound : backend.Sound) : backend.cancelCloser.Sound := by
  rw [Backend.cancelCloser]
  split
  · exact sound
  · next number _ =>
      split
      · next sleeping =>
          exact sound.aside ⟨rfl, rfl, rfl, rfl, rfl⟩
            (fun same => Task.closer.inj same ▸ sound.timers sleeping) rfl rfl rfl rfl
            (by simp [sleeping, Stage.counts])
      · next idling =>
          exact sound.aside ⟨rfl, rfl, rfl, rfl, rfl⟩
            (fun same => Task.closer.inj same ▸ sound.timers idling) rfl rfl rfl rfl
            (by simp [idling, Stage.counts])
      · exact sound

end Sound

theorem cancelCloser_stages (known : backend.stages task = some stage)
    (awake : stage ≠ .sleeping) (active : stage ≠ .idling) :
    backend.cancelCloser.stages task = some stage := by
  rw [cancelCloser]
  split
  · exact known
  · next number _ =>
      split
      · next sleeping =>
          rw [setStage]
          refine (Function.update_of_ne ?_ ..).trans known
          rintro rfl
          exact awake (Option.some.inj (known.symm.trans sleeping))
      · next idling =>
          rw [setStage]
          refine (Function.update_of_ne ?_ ..).trans known
          rintro rfl
          exact active (Option.some.inj (known.symm.trans idling))
      · exact known

namespace Sound

theorem handOut (sound : backend.Sound) (known : backend.stages task = some before)
    (free : ∀ {other}, backend.lock = some other → other = task)
    (uncounted : before.counts = false) (server : ℕ) :
    (backend.handOut task server).Sound :=
  sound.move ⟨rfl, rfl, rfl, rfl, rfl⟩ known free (by simp [Stage.inside])
    (sound.counted.enter (by simp [known, uncounted]) rfl) (by simp [Stage.tearsIdle])
    (by simp [Stage.opens]) (by simp [Stage.shuts]) (by simp)

theorem acquire (sound : backend.Sound) (known : backend.stages task = some .acquiring)
    (free : backend.lock = none) : (backend.acquire task).Sound := by
  obtain ⟨lock, closed, handler, -⟩ := cancelCloser_rest backend
  have still := cancelCloser_stages known (by decide) (by decide)
  have quiet := sound.cancelCloser.other backend.cancelCloser.handler
    backend.cancelCloser.recvTask none
  have unlocked {other : Task ι} (locked : backend.cancelCloser.lock = some other) :
      other = task := by
    rw [lock, free] at locked
    contradiction
  rw [Backend.acquire]
  split
  · refine sound.aside ⟨rfl, rfl, rfl, rfl, rfl⟩ (fun same => ?_) rfl rfl rfl rfl
      (by simp [known, Stage.counts])
    exact sound.timers (same ▸ known)
  · next open_ =>
      split
      · next server _ => exact quiet.handOut still unlocked rfl server
      · refine quiet.move ⟨rfl, rfl, rfl, rfl, rfl⟩ still unlocked (fun _ => rfl)
          (quiet.counted.keep still rfl) (by simp [Stage.tearsIdle])
          (fun _ => ?_) (by simp [Stage.shuts]) (by simp)
        exact closed.trans (Bool.eq_false_iff.mpr open_)

omit [DecidableEq ι] in
/-- The tasks that await the lock count timers only that were started. -/
theorem timer (sound : backend.Sound) (known : backend.stages task = some stage) {number : ℕ}
    (same : task = .closer number) : number < backend.closers :=
  sound.timers (same ▸ known)

theorem startTimer (sound : backend.Sound) :
    ({ backend with
      idleCloser := some backend.closers
      closers := backend.closers + 1 }.setStage (.closer backend.closers) .sleeping).Sound := by
  have fresh : backend.stages (.closer backend.closers) = none := by
    cases present : backend.stages (.closer backend.closers) with
    | none => rfl
    | some stage => exact absurd (sound.timers present) (Nat.lt_irrefl _)
  have counting : { backend with
      idleCloser := some backend.closers, closers := backend.closers + 1 }.Sound :=
    ⟨sound.locked, sound.current, sound.counted, sound.idle, sound.opens, sound.shuts,
      sound.returned, fun present => Nat.lt_succ_of_lt (sound.timers present)⟩
  exact counting.aside ⟨rfl, rfl, rfl, rfl, rfl⟩
    (fun same => Task.closer.inj same ▸ Nat.lt_succ_self _) rfl rfl rfl rfl
    (by simp [fresh, Stage.counts])

theorem release (sound : backend.Sound) (known : backend.stages task = some .releasing)
    (free : backend.lock = none) : (backend.release task).Sound := by
  have released : ({ backend with inFlight := backend.inFlight - 1 }.setStage task
      (.ended .served)).Sound := by
    refine sound.move ⟨rfl, rfl, rfl, rfl, rfl⟩ known (fun locked => ?_) (by simp [Stage.inside])
      (sound.counted.leave (by simp [known, Stage.counts]) rfl) (by simp [Stage.tearsIdle])
      (by simp [Stage.opens]) (by simp [Stage.shuts]) (by simp)
    rw [free] at locked
    contradiction
  rw [Backend.release]
  split
  · exact released.startTimer
  · exact released

theorem closeAfterIdle (sound : backend.Sound) (known : backend.stages task = some .idling)
    (free : backend.lock = none) : (backend.closeAfterIdle task).Sound := by
  rw [Backend.closeAfterIdle]
  split
  · next unused =>
      exact (sound.take free).teardown known rfl rfl (fun _ => unused.1) (by simp) (by simp)
  · exact sound.aside ⟨rfl, rfl, rfl, rfl, rfl⟩ (sound.timer known) rfl rfl rfl rfl
      (by simp [known, Stage.counts])

theorem aclose (sound : backend.Sound) (known : backend.stages task = some .closing)
    (free : backend.lock = none) : (backend.aclose task).Sound := by
  obtain ⟨lock, -⟩ := cancelCloser_rest backend
  have still := cancelCloser_stages known (by decide) (by decide)
  have quiet := sound.cancelCloser
  have unlocked : backend.cancelCloser.lock = none := lock.trans free
  have shut : { backend.cancelCloser with closed := true, lock := some task }.Sound := by
    refine ⟨(quiet.take unlocked).locked, quiet.current, quiet.counted, quiet.idle,
      fun present opens => ?_, fun _ _ => rfl, quiet.returned, quiet.timers⟩
    have locked := quiet.locked present (inside_of_opens opens)
    rw [unlocked] at locked
    contradiction
  exact shut.teardown still rfl rfl (by simp) (by simp) (fun _ => rfl)

omit [DecidableEq ι] in
theorem modifyServer (sound : backend.Sound) (number : ℕ) (change : Server → Server)
    (keeps : ∀ server, backend.servers number = some server → (change server).life ≠ .closed →
      server.life ≠ .closed) :
    (backend.modifyServer number change).Sound := by
  refine ⟨sound.locked, fun {other server} present open_ => ?_, sound.counted, sound.idle,
    sound.opens, sound.shuts, sound.returned, sound.timers⟩
  simp only [Backend.modifyServer, Function.update_apply] at present
  split at present
  · next same =>
      obtain ⟨before, found, rfl⟩ := Option.map_eq_some_iff.mp present
      exact sound.current (same ▸ found) (keeps before found open_)
  · exact sound.current present open_

/-- `SandboxProcess.open` returns while `_process` is empty. -/
theorem greet (sound : backend.Sound) (known : backend.stages task = some .opening)
    (empty : backend.process = none) : (backend.greet task).Sound := by
  have mine := sound.locked known rfl
  have opened : { backend with
      servers := Function.update backend.servers backend.opened (some {})
      opened := backend.opened + 1
      process := some backend.opened }.Sound := by
    refine ⟨sound.locked, fun {number server} present open_ => ?_, sound.counted, sound.idle,
      sound.opens, sound.shuts, fun {other} present => ?_, sound.timers⟩
    · simp only [Function.update_apply] at present
      split at present
      · next same => exact congrArg some same.symm
      · have current := sound.current present open_
        rw [empty] at current
        contradiction
    · have closed := sound.shuts present rfl
      rw [sound.opens known rfl] at closed
      contradiction
  refine opened.move ⟨rfl, rfl, rfl, rfl, rfl⟩ known
    (fun locked => Option.some.inj (locked.symm.trans mine)) (fun _ => mine)
    (opened.counted.keep known rfl) (by simp [Stage.tearsIdle])
    (fun _ => sound.opens known rfl) (by simp [Stage.shuts]) (by simp)

theorem requestLimits (sound : backend.Sound) {server : ℕ}
    (known : backend.stages task = some (.greeting server)) :
    (backend.requestLimits task server).Sound := by
  have mine := sound.locked known rfl
  have running := (sound.modifyServer server ({ · with receive := .running })
    fun _ _ open_ => open_).other backend.handler
      (some server) backend.idleCloser
  exact running.move ⟨rfl, rfl, rfl, rfl, rfl⟩ known
    (fun locked => Option.some.inj (locked.symm.trans mine)) (fun _ => mine)
    (running.counted.keep known rfl) (by simp [Stage.tearsIdle])
    (fun _ => sound.opens known rfl) (by simp [Stage.shuts]) (by simp)

theorem exited (sound : backend.Sound) {server : ℕ} {teardown : Teardown}
    (known : backend.stages task = some (.exiting teardown))
    (process : backend.process = some server) :
    ({ backend.modifyServer server ({ · with life := .closed }) with
      process := none }.tornDown task teardown).Sound := by
  have mine := sound.locked known rfl
  have closed : { backend.modifyServer server ({ · with life := .closed }) with
      process := none }.Sound := by
    refine ⟨sound.locked, fun {number found} present open_ => ?_, sound.counted, sound.idle,
      sound.opens, sound.shuts, fun _ => rfl, sound.timers⟩
    simp only [Backend.modifyServer, Function.update_apply] at present
    split at present
    · obtain ⟨before, -, rfl⟩ := Option.map_eq_some_iff.mp present
      contradiction
    · next different =>
        have current := sound.current present open_
        exact absurd (Option.some.inj (current.symm.trans process)) different
  refine closed.tornDown known (fun locked => Option.some.inj (locked.symm.trans mine)) rfl
    (fun same => ?_) rfl
  subst same
  exact sound.shuts known rfl

theorem leave (sound : backend.Sound) (known : backend.stages task = some before)
    (inside : before.inside) (uncounted : before.counts = false) {result : Result}
    (open_ : result ≠ .closed) :
    ({ backend with lock := none }.setStage task (.ended result)).Sound := by
  have mine := sound.locked known inside
  refine sound.move ⟨rfl, rfl, rfl, rfl, rfl⟩ known
    (fun locked => Option.some.inj (locked.symm.trans mine)) (by simp [Stage.inside])
    (sound.counted.keep known uncounted.symm) (by simp [Stage.tearsIdle]) (by simp [Stage.opens])
    (fun shuts => ?_) fun same => absurd (Stage.ended.inj same) open_
  cases result with
  | closed => exact absurd rfl open_
  | served | refused | failed | cancelled | idle => contradiction

theorem go (sound : backend.Sound) (known : backend.stages task = some before)
    (outside : stage.inside = false) (open_ : stage.shuts = false)
    (same : stage.counts = before.counts) : (backend.setStage task stage).Sound :=
  sound.aside ⟨rfl, rfl, rfl, rfl, rfl⟩ (sound.timer known) rfl rfl outside open_
    (by rw [known, Option.any_some, same])

/-- A cancellation that does not strike `_release`. -/
theorem cancel (sound : backend.Sound) (ordered : backend.stages task ≠ some .releasing)
    (ran : backend.cancel task = some after) : after.Sound := by
  rw [Backend.cancel] at ran
  split at ran
  · next known =>
      obtain rfl := Option.some.inj ran
      exact sound.go known rfl rfl rfl
  · next known => exact absurd known ordered
  · next known =>
      obtain rfl := Option.some.inj ran
      exact sound.leave known rfl rfl (by decide)
  · next known =>
      obtain rfl := Option.some.inj ran
      exact sound.leave known rfl rfl (by decide)
  · next known =>
      obtain rfl := Option.some.inj ran
      exact sound.leave known rfl rfl (by decide)
  · next known =>
      obtain rfl := Option.some.inj ran
      exact sound.leave known rfl rfl (by decide)
  · obtain rfl := Option.some.inj ran
    exact sound
  · next known =>
      obtain rfl := Option.some.inj ran
      exact sound.go known rfl rfl rfl
  · contradiction

/-- One section keeps the backend sound. -/
theorem step (sound : backend.Sound) {event : Event ι} (ordered : backend.InOrder event)
    (ran : backend.next event = some after) : after.Sound := by
  cases event with
  | session task =>
      simp only [next] at ran
      split at ran
      · next fresh =>
          obtain rfl := Option.some.inj ran
          exact sound.aside ⟨rfl, rfl, rfl, rfl, rfl⟩ (by simp) rfl rfl rfl rfl
            (by simp [fresh, Stage.counts])
      · contradiction
  | aclose task =>
      simp only [next] at ran
      split at ran
      · next fresh =>
          obtain rfl := Option.some.inj ran
          exact sound.aside ⟨rfl, rfl, rfl, rfl, rfl⟩ (by simp) rfl rfl rfl rfl
            (by simp [fresh, Stage.counts])
      · contradiction
  | lock task =>
      simp only [next] at ran
      split at ran
      · next free known =>
          obtain rfl := Option.some.inj ran
          exact sound.acquire known free
      · next free known =>
          obtain rfl := Option.some.inj ran
          exact sound.release known free
      · next free known =>
          obtain rfl := Option.some.inj ran
          exact sound.closeAfterIdle known free
      · next free known =>
          obtain rfl := Option.some.inj ran
          exact sound.aclose known free
      · contradiction
  | opened task success =>
      simp only [next] at ran
      split at ran
      · next known =>
          cases success with
          | true =>
              obtain rfl := Option.some.inj ran
              exact sound.greet known ordered
          | false =>
              obtain rfl := Option.some.inj ran
              exact sound.leave known rfl rfl (by decide)
      · contradiction
  | greeted task success =>
      simp only [next] at ran
      split at ran
      · next server known =>
          cases success with
          | true =>
              obtain rfl := Option.some.inj ran
              exact sound.requestLimits known
          | false =>
              obtain rfl := Option.some.inj ran
              exact sound.teardown known (sound.locked known rfl) rfl (by simp)
                (fun _ => sound.opens known rfl) (by simp)
      · contradiction
  | limited task success =>
      simp only [next] at ran
      split at ran
      · next server known =>
          cases success with
          | true =>
              obtain rfl := Option.some.inj ran
              have mine := sound.locked known rfl
              exact (sound.other (some server) backend.recvTask backend.idleCloser).handOut known
                (fun locked => Option.some.inj (locked.symm.trans mine)) rfl server
          | false =>
              obtain rfl := Option.some.inj ran
              exact sound.teardown known (sound.locked known rfl) rfl (by simp)
                (fun _ => sound.opens known rfl) (by simp)
      · contradiction
  | finish task =>
      simp only [next] at ran
      split at ran
      · next known =>
          obtain rfl := Option.some.inj ran
          exact sound.go known rfl rfl rfl
      · contradiction
  | cancel task => exact sound.cancel ordered ran
  | joined task =>
      simp only [next] at ran
      split at ran
      · next teardown server known _ =>
          split at ran
          · obtain rfl := Option.some.inj ran
            refine (sound.other backend.handler none backend.idleCloser).exit known
              (sound.locked known rfl) rfl (fun same => ?_) (fun same => ?_) fun same => ?_
            · exact sound.idle known (same ▸ rfl)
            · exact sound.opens known (same ▸ rfl)
            · exact sound.shuts known (same ▸ rfl)
          · contradiction
      · contradiction
  | exited task =>
      simp only [next] at ran
      split at ran
      · next teardown server known process =>
          obtain rfl := Option.some.inj ran
          exact sound.exited known process
      · contradiction
  | wake number =>
      simp only [next] at ran
      split at ran
      · next known =>
          obtain rfl := Option.some.inj ran
          exact sound.go known rfl rfl rfl
      · contradiction
  | receive server =>
      simp only [next] at ran
      split at ran
      · obtain rfl := Option.some.inj ran
        exact sound.modifyServer server _ fun _ _ open_ => open_
      · contradiction
  | die server =>
      simp only [next] at ran
      split at ran
      · next alive =>
          obtain rfl := Option.some.inj ran
          refine sound.modifyServer server _ fun found present _ => ?_
          rw [present, Option.any_some, beq_iff_eq] at alive
          rw [alive]
          decide
      · contradiction

omit [DecidableEq ι] in
theorem initial : ({} : Backend ι).Sound where
  locked present := by contradiction
  current present := by contradiction
  counted := ⟨∅, fun task => by simp, rfl⟩
  idle present := by contradiction
  opens present := by contradiction
  shuts present := by contradiction
  returned present := by contradiction
  timers present := by contradiction

omit [DecidableEq ι] in
theorem owned (sound : backend.Sound) : backend.Owned where
  one first second server other present another alive living := by
    have current := sound.current present (by rw [alive]; decide)
    have same := sound.current another (by rw [living]; decide)
    exact Option.some.inj (current.symm.trans same)
  current _ _ := sound.current
  counted still := by
    obtain ⟨users, members, size⟩ := sound.counted
    refine ⟨users, fun task => (members task).trans ?_, size⟩
    cases present : backend.stages task with
    | none => simp
    | some stage =>
        have calm := still task stage present
        cases stage with
        | serving server => simp [Stage.counts]
        | releasing => contradiction
        | acquiring | opening | greeting _ | limiting _ | sleeping | idling | closing | joining _
        | exiting _ | ended _ => simp [Stage.counts]
  idle task stage present tears other server serves := by
    obtain ⟨users, members, size⟩ := sound.counted
    have member : other ∈ users := (members other).mpr (by rw [serves]; rfl)
    have positive : 0 < users.card := Finset.card_pos.mpr ⟨other, member⟩
    have unused := sound.idle present tears
    omega
  closed task returned number server present := by
    by_contra open_
    have current := sound.current present open_
    rw [sound.returned returned] at current
    contradiction

end Sound

theorem opened_exit (backend : Backend ι) (task : Task ι) (teardown : Teardown) :
    (backend.exit task teardown).opened = backend.opened := by
  rw [exit]
  split <;> rfl

theorem opened_teardown (backend : Backend ι) (task : Task ι) (teardown : Teardown) :
    (backend.teardown task teardown).opened = backend.opened := by
  rw [Backend.teardown]
  split
  · rfl
  · exact opened_exit ..

theorem opened_cancelCloser (backend : Backend ι) :
    backend.cancelCloser.opened = backend.opened := by
  rw [cancelCloser]
  split
  · rfl
  · split <;> rfl

theorem opened_next {event : Event ι} (ran : backend.next event = some after)
    (closed : ∀ {task}, backend.stages task ≠ some .opening) : after.opened = backend.opened := by
  cases event with
  | session task | aclose task | finish task | wake task | receive task | die task =>
      simp only [next] at ran
      split at ran
      · obtain rfl := Option.some.inj ran
        rfl
      · contradiction
  | lock task =>
      simp only [next] at ran
      split at ran
      · obtain rfl := Option.some.inj ran
        rw [acquire]
        split
        · rfl
        · split <;> exact opened_cancelCloser backend
      · obtain rfl := Option.some.inj ran
        rw [release]
        split <;> rfl
      · obtain rfl := Option.some.inj ran
        rw [closeAfterIdle]
        split
        · exact opened_teardown ..
        · rfl
      · obtain rfl := Option.some.inj ran
        exact (opened_teardown ..).trans (opened_cancelCloser backend)
      · contradiction
  | opened task success =>
      simp only [next] at ran
      split at ran
      · next known => exact absurd known closed
      · contradiction
  | greeted task success =>
      simp only [next] at ran
      split at ran
      · cases success with
        | true =>
            obtain rfl := Option.some.inj ran
            rfl
        | false =>
            obtain rfl := Option.some.inj ran
            exact opened_teardown ..
      · contradiction
  | limited task success =>
      simp only [next] at ran
      split at ran
      · cases success with
        | true =>
            obtain rfl := Option.some.inj ran
            rfl
        | false =>
            obtain rfl := Option.some.inj ran
            exact opened_teardown ..
      · contradiction
  | cancel task =>
      simp only [next, Backend.cancel] at ran
      split at ran <;> first | contradiction | (obtain rfl := Option.some.inj ran; rfl)
  | joined task =>
      simp only [next] at ran
      split at ran
      · split at ran
        · obtain rfl := Option.some.inj ran
          exact opened_exit ..
        · contradiction
      · contradiction
  | exited task =>
      simp only [next] at ran
      split at ran
      · obtain rfl := Option.some.inj ran
        rfl
      · contradiction

/-- In every run in which an opened process finds no other in `_process` and no cancellation strikes
a `_release` that awaits the lock, the backend owns its process, and `aclose` is the end. -/
theorem process_owned (backend : Backend ι) (reach : machine.Reaches InOrder {} backend) :
    backend.Owned ∧
    ∀ task, backend.stages task = some (.ended .closed) →
      ∀ event after, backend.next event = some after → after.opened = backend.opened := by
  have sound : backend.Sound :=
    reach.keeps Sound (fun sound ordered ran => sound.step ordered ran) .initial
  refine ⟨sound.owned, fun task returned event after ran => ?_⟩
  refine opened_next ran fun {other} opening => ?_
  have closed := sound.shuts returned rfl
  rw [sound.opens opening rfl] at closed
  contradiction

/-- A session, the idle timer, and the end of the backend. -/
theorem process_owned_idle :
    ∃ backend : Backend Bool, machine.Reaches InOrder {} backend ∧
      backend.servers 0 = some { life := .closed, receive := .finished } ∧
      backend.stages (.caller false) = some (.ended .closed) ∧ backend.Owned := by
  have opens : machine.Reaches InOrder ({} : Backend Bool) _ :=
    Machine.reaches_of_run [.session true, .lock (.caller true)] (by simp [InOrder]) rfl
  have greets : machine.Reaches InOrder ({} : Backend Bool) _ :=
    opens.tail ⟨.opened (.caller true) true, rfl, rfl⟩
  have closes : machine.Reaches InOrder ({} : Backend Bool) _ :=
    greets.trans
      (Machine.reaches_of_run
        [.greeted (.caller true) true, .limited (.caller true) true, .finish (.caller true),
          .lock (.caller true), .wake 0, .lock (.closer 0), .receive 0, .joined (.closer 0),
          .exited (.closer 0), .aclose false, .lock (.caller false)]
        (by simp [InOrder]) rfl)
  exact ⟨_, closes, rfl, rfl, (process_owned _ closes).1⟩

/-- A session is cancelled during the handshake, and the next one opens a second process beside the
first. -/
theorem process_leaked :
    ¬ ∀ backend : Backend Bool,
      machine.Reaches (fun _ _ => True) {} backend → backend.Owned := by
  intro owned
  have reach : machine.Reaches (fun _ _ => True) ({} : Backend Bool) _ :=
    Machine.reaches_of_run
      [.session true, .lock (.caller true), .opened (.caller true) true, .cancel true,
        .session false, .lock (.caller false), .opened (.caller false) true]
      (by simp) rfl
  have same := (owned _ reach).one 0 1 _ _ rfl rfl rfl rfl
  contradiction

end Backend

end Drukbox.Gateway.Sftp
