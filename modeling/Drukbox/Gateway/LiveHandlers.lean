import Drukbox.Gateway.Backend

/-!
# Handlers of dead processes

The handler stays cached when its process or its receive task ends, so a session that gets the lock
before the next teardown is handed a dead handler.  Where no session gets the lock in between, and
no limits request returns after the end, every handler that a session is handed receives.
-/

namespace Drukbox.Gateway.Sftp

open Await

/-- The backend, and what has ended of the process that was opened last. -/
structure Watched (ι : Type) where
  backend : Backend ι := {}
  /-- The process has ended on its own. -/
  died : Bool := false
  /-- Its receive task has ended. -/
  finished : Bool := false

namespace Watched

variable {ι : Type} [DecidableEq ι]

/-- Note the end of the process in `_process`. -/
def noteDied (watched : Watched ι) : Event ι → Bool
  | .die server => watched.died || watched.backend.process == some server
  | .opened _ true => false
  | .receive _ | .opened _ false | .session _ | .aclose _ | .lock _ | .greeted _ _ | .limited _ _
  | .finish _ | .cancel _ | .joined _ | .exited _ | .wake _ => watched.died

/-- Note the end of its receive task. -/
def noteFinished (watched : Watched ι) : Event ι → Bool
  | .receive server => watched.finished || watched.backend.process == some server
  | .opened _ true => false
  | .die _ | .opened _ false | .session _ | .aclose _ | .lock _ | .greeted _ _ | .limited _ _
  | .finish _ | .cancel _ | .joined _ | .exited _ | .wake _ => watched.finished

/-- The event loop with its notes. -/
def machine : Machine (Watched ι) (Event ι) where
  next watched event :=
    (watched.backend.next event).map fun after =>
      { backend := after
        died := watched.noteDied event
        finished := watched.noteFinished event }

/-- No session gets the lock after either end while a handler is cached, and no limits request
returns after the end of the receive task. -/
def InTime (watched : Watched ι) : Event ι → Prop
  | .lock task =>
      watched.backend.stages task = some .acquiring → watched.backend.closed = false →
        watched.backend.handler ≠ none → watched.died = false ∧ watched.finished = false
  | .limited _ true => watched.finished = false
  | .limited _ false | .opened _ _ | .session _ | .aclose _ | .greeted _ _ | .finish _ | .cancel _
  | .joined _ | .exited _ | .wake _ | .die _ | .receive _ => True

end Watched

namespace Backend

variable {ι : Type} [DecidableEq ι]

/-- `create_task` was called for the receive task of a process. -/
def Started (backend : Backend ι) (number : ℕ) : Prop :=
  ∃ server, backend.servers number = some server ∧ server.receive ≠ .absent

/-- What the opening in progress knows. -/
def Fits (backend : Backend ι) : Stage → Prop
  | .opening => backend.handler = none
  | .greeting server =>
      backend.process = some server ∧ backend.handler = none ∧
        ∀ found, backend.servers server = some found → found.receive = .absent
  | .limiting server =>
      backend.process = some server ∧ backend.handler = none ∧ backend.Started server
  | .acquiring | .serving _ | .releasing | .sleeping | .idling | .closing | .joining _ | .exiting _
  | .ended _ => True

structure Live (died finished : Bool) (backend : Backend ι) : Prop where
  locked : ∀ {task stage}, backend.stages task = some stage → stage.inside →
    backend.lock = some task
  fits : ∀ {task stage}, backend.stages task = some stage → backend.Fits stage
  process : ∀ {number}, backend.process = some number → ∃ server,
    backend.servers number = some server ∧
      (died = false ↔ server.life = .alive) ∧ (finished = false ↔ server.receive ≠ .finished)
  handler : ∀ {number}, backend.handler = some number →
    backend.process = some number ∧ backend.Started number

variable {backend after : Backend ι} {task : Task ι} {stage : Stage}
  {died finished ended quit : Bool}

omit [DecidableEq ι] in
theorem fits_of_outside (outside : stage.inside = false) : backend.Fits stage := by
  cases stage with
  | opening | greeting _ | limiting _ => contradiction
  | joining _ | exiting _ => trivial
  | acquiring | serving _ | releasing | sleeping | idling | closing | ended _ => trivial

namespace Live

/-- A section of a task that has the lock, or may take it. -/
theorem move (live : backend.Live died finished)
    (stages : after.stages = Function.update backend.stages task (some stage))
    (free : ∀ {other}, backend.lock = some other → other = task)
    (locked : stage.inside → after.lock = some task) (fits : after.Fits stage)
    (process : ∀ {number}, after.process = some number → ∃ server,
      after.servers number = some server ∧
        (ended = false ↔ server.life = .alive) ∧ (quit = false ↔ server.receive ≠ .finished))
    (handler : ∀ {number}, after.handler = some number →
      after.process = some number ∧ after.Started number) : after.Live ended quit := by
  have written {other : Task ι} {found : Stage} (present : after.stages other = some found)
      (inside : found.inside) : other = task ∧ found = stage := by
    rw [stages, Function.update_apply] at present
    split at present
    · next same => exact ⟨same, (Option.some.inj present).symm⟩
    · next different => exact absurd (free (live.locked present inside)) different
  refine ⟨fun present inside => ?_, fun {other found} present => ?_, process, handler⟩
  · obtain ⟨rfl, rfl⟩ := written present inside
    exact locked inside
  · cases inside : found.inside with
    | false => exact fits_of_outside inside
    | true =>
        obtain ⟨rfl, rfl⟩ := written present inside
        exact fits

omit [DecidableEq ι] in
theorem other (live : backend.Live died finished) (recvTask idleCloser : Option ℕ)
    (closers opened : ℕ)
    (inFlight : ℤ) (closed : Bool) :
    { backend with recvTask, idleCloser, closers, opened, inFlight, closed }.Live died finished :=
  ⟨live.locked, live.fits, live.process, live.handler⟩

theorem go (live : backend.Live died finished) (outside : stage.inside = false) :
    (backend.setStage task stage).Live died finished := by
  have written {other : Task ι} {found : Stage}
      (present : (backend.setStage task stage).stages other = some found) (inside : found.inside) :
      backend.stages other = some found := by
    simp only [setStage, Function.update_apply] at present
    split at present
    · obtain rfl := Option.some.inj present
      rw [outside] at inside
      contradiction
    · exact present
  refine ⟨fun present inside => live.locked (written present inside) inside,
    fun {other found} present => ?_, live.process, live.handler⟩
  cases inside : found.inside with
  | false => exact fits_of_outside inside
  | true => exact live.fits (written present inside)

theorem cancelCloser (live : backend.Live died finished) :
    backend.cancelCloser.Live died finished := by
  rw [Backend.cancelCloser]
  split
  · exact live
  · split
    · exact live.go rfl
    · exact live.go rfl
    · exact live

theorem leave (live : backend.Live died finished)
    (free : ∀ {other}, backend.lock = some other → other = task) (outside : stage.inside = false) :
    ({ backend with lock := none }.setStage task stage).Live died finished :=
  live.move rfl free (by simp [outside]) (fits_of_outside outside) live.process live.handler

theorem hold (live : backend.Live died finished)
    (free : ∀ {other}, backend.lock = some other → other = task)
    (mine : backend.lock = some task) (fits : backend.Fits stage) :
    (backend.setStage task stage).Live died finished :=
  live.move rfl free (fun _ => mine) fits live.process live.handler

theorem exit (live : backend.Live died finished) (mine : backend.lock = some task)
    (teardown : Teardown) :
    (backend.exit task teardown).Live died finished := by
  have free {other : Task ι} (locked : backend.lock = some other) : other = task :=
    Option.some.inj (locked.symm.trans mine)
  rw [Backend.exit]
  split
  · exact live.hold free mine trivial
  · exact live.move rfl free (by simp [Stage.inside]) trivial live.process
      (by simp [Backend.tornDown, setStage])

theorem teardown (live : backend.Live died finished) (mine : backend.lock = some task)
    (teardown : Teardown) : (backend.teardown task teardown).Live died finished := by
  rw [Backend.teardown]
  split
  · exact live.hold (fun locked => Option.some.inj (locked.symm.trans mine)) mine trivial
  · exact live.exit mine teardown

theorem acquire (live : backend.Live died finished) (free : backend.lock = none) :
    (backend.acquire task).Live died finished := by
  have quiet := live.cancelCloser
  have unlocked {other : Task ι} (locked : backend.cancelCloser.lock = some other) :
      other = task := by
    rw [(cancelCloser_rest backend).1, free] at locked
    contradiction
  rw [Backend.acquire]
  split
  · exact live.go rfl
  · split
    · exact (quiet.other backend.cancelCloser.recvTask none backend.cancelCloser.closers
        backend.cancelCloser.opened (backend.cancelCloser.inFlight + 1)
        backend.cancelCloser.closed).leave unlocked rfl
    · next empty =>
        exact quiet.move rfl unlocked (fun _ => rfl)
          ((cancelCloser_rest backend).2.2.1.trans empty) quiet.process quiet.handler

theorem release (live : backend.Live died finished) :
    (backend.release task).Live died finished := by
  have released : ({ backend with inFlight := backend.inFlight - 1 }.setStage task
      (.ended .served)).Live died finished :=
    (live.other backend.recvTask backend.idleCloser backend.closers backend.opened
      (backend.inFlight - 1) backend.closed).go rfl
  rw [Backend.release]
  split
  · exact (released.other backend.recvTask (some backend.closers) (backend.closers + 1)
      backend.opened (backend.inFlight - 1) backend.closed).go rfl
  · exact released

omit [DecidableEq ι] in
theorem take (live : backend.Live died finished) (free : backend.lock = none) :
    { backend with lock := some task }.Live died finished := by
  refine ⟨fun present inside => ?_, live.fits, live.process, live.handler⟩
  have locked := live.locked present inside
  rw [free] at locked
  contradiction

theorem closeAfterIdle (live : backend.Live died finished) (free : backend.lock = none) :
    (backend.closeAfterIdle task).Live died finished := by
  rw [Backend.closeAfterIdle]
  split
  · exact (live.take free).teardown rfl _
  · exact live.go rfl

theorem aclose (live : backend.Live died finished) (free : backend.lock = none) :
    (backend.aclose task).Live died finished := by
  have unlocked : backend.cancelCloser.lock = none := (cancelCloser_rest backend).1.trans free
  exact ((live.cancelCloser.take unlocked).other backend.cancelCloser.recvTask
    backend.cancelCloser.idleCloser backend.cancelCloser.closers backend.cancelCloser.opened
    backend.cancelCloser.inFlight true).teardown rfl _

theorem greet (live : backend.Live died finished) (known : backend.stages task = some .opening) :
    (backend.greet task).Live false false := by
  have mine := live.locked known rfl
  have empty : backend.handler = none := live.fits known
  refine live.move rfl (fun locked => Option.some.inj (locked.symm.trans mine)) (fun _ => mine)
    ⟨rfl, empty, fun found present => ?_⟩ (fun {number} process => ?_) (fun {number} handler => ?_)
  · simp only [Backend.greet, setStage, Function.update_self, Option.some.injEq] at present
    subst present
    rfl
  · obtain rfl := Option.some.inj process
    exact ⟨{}, Function.update_self .., by simp, by simp⟩
  · exact absurd (empty.symm.trans handler) (by simp)

theorem requestLimits (live : backend.Live died finished) {server : ℕ}
    (known : backend.stages task = some (.greeting server)) :
    (backend.requestLimits task server).Live died finished := by
  have mine := live.locked known rfl
  obtain ⟨process, empty, absent⟩ := live.fits known
  obtain ⟨found, present, living, open_⟩ := live.process process
  have written : (backend.requestLimits task server).servers server =
      some { found with receive := .running } := by
    simp [Backend.requestLimits, setStage, modifyServer, present]
  refine live.move rfl (fun locked => Option.some.inj (locked.symm.trans mine)) (fun _ => mine)
    ⟨process, empty, _, written, by simp⟩ (fun {number} current => ?_) (fun {number} handler => ?_)
  · obtain rfl := Option.some.inj (process.symm.trans current)
    refine ⟨_, written, living, open_.trans ?_⟩
    simp [absent found present]
  · exact absurd (empty.symm.trans handler) (by simp)

theorem limited (live : backend.Live died finished) {server : ℕ}
    (known : backend.stages task = some (.limiting server)) :
    ({ backend with handler := some server }.handOut task server).Live died finished := by
  have mine := live.locked known rfl
  obtain ⟨process, -, started⟩ := live.fits known
  refine live.move rfl (fun locked => Option.some.inj (locked.symm.trans mine))
    (by simp [Stage.inside]) trivial live.process fun {number} handler => ?_
  obtain rfl := Option.some.inj handler
  exact ⟨process, started⟩

theorem exited (live : backend.Live died finished) {server : ℕ} {teardown : Teardown}
    (known : backend.stages task = some (.exiting teardown)) :
    ({ backend.modifyServer server ({ · with life := .closed }) with
      process := none }.tornDown task teardown).Live died finished := by
  have mine := live.locked known rfl
  exact live.move rfl (fun locked => Option.some.inj (locked.symm.trans mine))
    (by simp [Stage.inside]) trivial (by simp [Backend.tornDown, setStage])
    (by simp [Backend.tornDown, setStage])

omit [DecidableEq ι] in
theorem finish (live : backend.Live died finished) {server : ℕ} {change : Server → Server}
    (keeps : ∀ found, backend.servers server = some found →
      ((change found).receive = .absent ↔ found.receive = .absent))
    (own : backend.process = some server → ∀ found, backend.servers server = some found →
      (died = false ↔ found.life = .alive) → (finished = false ↔ found.receive ≠ .finished) →
        (ended = false ↔ (change found).life = .alive) ∧
        (quit = false ↔ (change found).receive ≠ .finished))
    (other : backend.process ≠ some server → ended = died ∧ quit = finished) :
    (backend.modifyServer server change).Live ended quit := by
  have written (other : ℕ) : (backend.modifyServer server change).servers other =
      if other = server then (backend.servers server).map change else backend.servers other := by
    simp only [modifyServer, Function.update_apply]
  have started {other : ℕ} (started : backend.Started other) :
      (backend.modifyServer server change).Started other := by
    obtain ⟨found, present, running⟩ := started
    by_cases same : other = server
    · subst same
      refine ⟨change found, by rw [written, if_pos rfl, present]; rfl, ?_⟩
      exact fun absent => running ((keeps found present).mp absent)
    · exact ⟨found, by rw [written, if_neg same, present], running⟩
  refine ⟨live.locked, fun {task stage} present => ?_, fun {number} process => ?_,
    fun handler => ⟨(live.handler handler).1, started (live.handler handler).2⟩⟩
  · have fits := live.fits present
    cases stage with
    | greeting number =>
        refine ⟨fits.1, fits.2.1, fun found changed => ?_⟩
        rw [written] at changed
        split at changed
        · next same =>
            obtain ⟨before, known, rfl⟩ := Option.map_eq_some_iff.mp changed
            exact (keeps before known).mpr (fits.2.2 before (same ▸ known))
        · exact fits.2.2 found changed
    | limiting number => exact ⟨fits.1, fits.2.1, started fits.2.2⟩
    | opening => exact fits
    | acquiring | serving _ | releasing | sleeping | idling | closing | joining _ | exiting _
    | ended _ => trivial
  · obtain ⟨found, present, living, open_⟩ := live.process process
    have current : backend.process = some number := process
    by_cases same : number = server
    · subst same
      exact ⟨change found, by rw [written, if_pos rfl, present]; rfl,
        own current found present living open_⟩
    · obtain ⟨rfl, rfl⟩ := other (by simpa [current] using same)
      exact ⟨found, by rw [written, if_neg same, present], living, open_⟩

theorem cancel (live : backend.Live died finished) (ran : backend.cancel task = some after) :
    after.Live died finished := by
  have free {stage : Stage} (known : backend.stages task = some stage) (inside : stage.inside)
      {other : Task ι} (locked : backend.lock = some other) : other = task :=
    Option.some.inj (locked.symm.trans (live.locked known inside))
  rw [Backend.cancel] at ran
  split at ran
  · obtain rfl := Option.some.inj ran
    exact live.go rfl
  · obtain rfl := Option.some.inj ran
    exact live.go rfl
  · next known =>
      obtain rfl := Option.some.inj ran
      exact live.leave (free known rfl) rfl
  · next known =>
      obtain rfl := Option.some.inj ran
      exact live.leave (free known rfl) rfl
  · next known =>
      obtain rfl := Option.some.inj ran
      exact live.leave (free known rfl) rfl
  · next known =>
      obtain rfl := Option.some.inj ran
      exact live.leave (free known rfl) rfl
  · obtain rfl := Option.some.inj ran
    exact live
  · obtain rfl := Option.some.inj ran
    exact live.go rfl
  · contradiction

omit [DecidableEq ι] in
theorem running (live : backend.Live died finished) (open_ : finished = false) {server : ℕ}
    (process : backend.process = some server) (started : backend.Started server) :
    ∃ found, backend.servers server = some found ∧ found.receive = .running ∧
      (died = false → found.life = .alive) := by
  obtain ⟨found, present, living, unfinished⟩ := live.process process
  obtain ⟨same, known, begun⟩ := started
  obtain rfl := Option.some.inj (present.symm.trans known)
  refine ⟨found, present, ?_, living.mp⟩
  cases receive : found.receive with
  | running => rfl
  | absent => exact absurd receive begun
  | finished => exact absurd receive (unfinished.mp open_)

omit [DecidableEq ι] in
/-- The notes tell how the current process is. -/
theorem noted (live : backend.Live died finished) {server : ℕ} {found : Server}
    (process : backend.process = some server) (present : backend.servers server = some found) :
    (found.life = .alive → died = false) ∧ (found.receive = .running → finished = false) := by
  obtain ⟨same, known, living, unfinished⟩ := live.process process
  obtain rfl := Option.some.inj (present.symm.trans known)
  exact ⟨living.mpr, fun running => unfinished.mpr (by simp [running])⟩

end Live

omit [DecidableEq ι] in
theorem initial_live : ({} : Backend ι).Live false false where
  locked present := by contradiction
  fits present := by contradiction
  process present := by contradiction
  handler present := by contradiction

end Backend

namespace Watched

variable {ι : Type} [DecidableEq ι] {watched after : Watched ι} {event : Event ι}

open Backend

/-- One section keeps what the notes say of the handler. -/
theorem live_next (live : watched.backend.Live watched.died watched.finished)
    (step : machine.next watched event = some after) :
    after.backend.Live after.died after.finished := by
  obtain ⟨backend, ran, rfl⟩ := Option.map_eq_some_iff.mp step
  cases event with
  | session task | aclose task =>
      simp only [next] at ran
      split at ran
      · obtain rfl := Option.some.inj ran
        exact live.go rfl
      · contradiction
  | lock task =>
      simp only [next] at ran
      split at ran
      · next free _ =>
          obtain rfl := Option.some.inj ran
          exact live.acquire free
      · obtain rfl := Option.some.inj ran
        exact live.release
      · next free _ =>
          obtain rfl := Option.some.inj ran
          exact live.closeAfterIdle free
      · next free _ =>
          obtain rfl := Option.some.inj ran
          exact live.aclose free
      · contradiction
  | opened task success =>
      simp only [next] at ran
      split at ran
      · next known =>
          cases success with
          | true =>
              obtain rfl := Option.some.inj ran
              exact live.greet known
          | false =>
              obtain rfl := Option.some.inj ran
              exact live.leave (fun locked => Option.some.inj
                (locked.symm.trans (live.locked known rfl))) rfl
      · contradiction
  | greeted task success =>
      simp only [next] at ran
      split at ran
      · next server known =>
          cases success with
          | true =>
              obtain rfl := Option.some.inj ran
              exact live.requestLimits known
          | false =>
              obtain rfl := Option.some.inj ran
              exact live.teardown (live.locked known rfl) _
      · contradiction
  | limited task success =>
      simp only [next] at ran
      split at ran
      · next server known =>
          cases success with
          | true =>
              obtain rfl := Option.some.inj ran
              exact live.limited known
          | false =>
              obtain rfl := Option.some.inj ran
              exact live.teardown (live.locked known rfl) _
      · contradiction
  | finish task | wake task =>
      simp only [next] at ran
      split at ran
      · obtain rfl := Option.some.inj ran
        exact live.go rfl
      · contradiction
  | cancel task => exact live.cancel ran
  | joined task =>
      simp only [next] at ran
      split at ran
      · next known _ =>
          split at ran
          · obtain rfl := Option.some.inj ran
            exact (live.other none watched.backend.idleCloser watched.backend.closers
              watched.backend.opened watched.backend.inFlight watched.backend.closed).exit
                (live.locked known rfl) _
          · contradiction
      · contradiction
  | exited task =>
      simp only [next] at ran
      split at ran
      · next known _ =>
          obtain rfl := Option.some.inj ran
          exact live.exited known
      · contradiction
  | receive server =>
      simp only [next] at ran
      split at ran
      · next running =>
          obtain rfl := Option.some.inj ran
          refine live.finish (fun found present => ?_) (fun process found _ living _ => ?_)
            fun process => ?_
          · rw [present, Option.any_some, beq_iff_eq] at running
            simp [running]
          · simpa [noteDied, noteFinished, process] using living
          · simp [noteDied, noteFinished, process]
      · contradiction
  | die server =>
      simp only [next] at ran
      split at ran
      · obtain rfl := Option.some.inj ran
        refine live.finish (fun _ _ => Iff.rfl) (fun process found _ _ open_ => ?_)
          fun process => ?_
        · simpa [noteDied, noteFinished, process] using open_
        · simp [noteDied, noteFinished, process]
      · contradiction

/-- The receive task of every handler that a section hands to a session runs, and the process of a
handler that was cached runs too. -/
def HandsLive (before : Backend ι) (event : Event ι) (after : Backend ι) : Prop :=
  ∀ task server, after.stages task = some (.serving server) →
    before.stages task ≠ some (.serving server) →
      ∃ found, after.servers server = some found ∧ found.receive = .running ∧
        (event = .lock task → found.life = .alive)

/-- No session gets a handler. -/
def Keeps (before after : Backend ι) : Prop :=
  ∀ task server, after.stages task = some (.serving server) →
    before.stages task = some (.serving server)

variable {before later : Backend ι} {task : Task ι} {server : ℕ}

theorem keeps_setStage (before : Backend ι) {stage : Stage}
    (other : ∀ server, stage ≠ .serving server) :
    Keeps before (before.setStage task stage) := by
  intro found server serves
  simp only [setStage, Function.update_apply] at serves
  split at serves
  · exact absurd (Option.some.inj serves) (other server)
  · exact serves

theorem keeps_exit (before : Backend ι) (teardown : Teardown) :
    Keeps before (before.exit task teardown) := by
  rw [Backend.exit]
  split
  · exact keeps_setStage _ (by simp)
  · exact keeps_setStage { before with handler := none, lock := none } (by simp)

theorem keeps_teardown (before : Backend ι) (teardown : Teardown) :
    Keeps before (before.teardown task teardown) := by
  rw [Backend.teardown]
  split
  · exact keeps_setStage _ (by simp)
  · exact keeps_exit before teardown

theorem keeps_cancelCloser : Keeps before before.cancelCloser := by
  rw [Backend.cancelCloser]
  split
  · exact fun _ _ => id
  · split
    · exact keeps_setStage _ (by simp)
    · exact keeps_setStage _ (by simp)
    · exact fun _ _ => id

theorem handOut_cases {found : Task ι} {number : ℕ}
    (serves : (before.handOut task server).stages found = some (.serving number)) :
    found = task ∧ number = server ∨ before.stages found = some (.serving number) := by
  simp only [handOut, setStage, Function.update_apply] at serves
  split at serves
  · next same => exact .inl ⟨same, (Stage.serving.inj (Option.some.inj serves)).symm⟩
  · exact .inr serves

/-- A session is handed a handler at the end of `_acquire` only. -/
theorem serving_cases (ran : before.next event = some later)
    (serves : later.stages task = some (.serving server))
    (fresh : before.stages task ≠ some (.serving server)) :
    (event = .lock task ∧ before.stages task = some .acquiring ∧ before.closed = false ∧
      before.handler = some server) ∨
    (event = .limited task true ∧ before.stages task = some (.limiting server)) := by
  have kept (keeps : Keeps before later) : False := fresh (keeps task server serves)
  cases event with
  | session other | aclose other | finish other | wake other =>
      simp only [next] at ran
      split at ran
      · obtain rfl := Option.some.inj ran
        exact (kept (keeps_setStage _ (by simp))).elim
      · contradiction
  | receive other | die other =>
      simp only [next] at ran
      split at ran
      · obtain rfl := Option.some.inj ran
        exact absurd serves fresh
      · contradiction
  | lock other =>
      simp only [next] at ran
      split at ran
      · next known =>
          obtain rfl := Option.some.inj ran
          rw [acquire] at serves kept
          split at serves
          · exact (fresh (keeps_setStage _ (by simp) task server serves)).elim
          · next open_ =>
              split at serves
              · next number handler =>
                  rcases handOut_cases serves with ⟨rfl, rfl⟩ | serves
                  · exact .inl ⟨rfl, known, Bool.eq_false_iff.mpr open_, handler⟩
                  · exact (fresh (keeps_cancelCloser task server serves)).elim
              · refine (fresh (keeps_cancelCloser task server ?_)).elim
                exact keeps_setStage _ (by simp) task server serves
      · obtain rfl := Option.some.inj ran
        rw [release] at serves
        have released : Keeps before ({ before with inFlight := before.inFlight - 1 }.setStage other
            (.ended .served)) :=
          keeps_setStage { before with inFlight := before.inFlight - 1 } (by simp)
        split at serves
        · exact (fresh (released task server (keeps_setStage _ (by simp) task server serves))).elim
        · exact (fresh (released task server serves)).elim
      · obtain rfl := Option.some.inj ran
        rw [closeAfterIdle] at serves
        split at serves
        · exact (fresh (keeps_teardown
            { before with lock := some other } .idle task server serves)).elim
        · exact (fresh (keeps_setStage _ (by simp) task server serves)).elim
      · obtain rfl := Option.some.inj ran
        refine (fresh (keeps_cancelCloser task server ?_)).elim
        exact keeps_teardown { before.cancelCloser with closed := true, lock := some other } .aclose
          task server serves
      · contradiction
  | opened other success =>
      simp only [next] at ran
      split at ran
      · cases success with
        | true =>
            obtain rfl := Option.some.inj ran
            exact (fresh (keeps_setStage _ (by simp) task server serves)).elim
        | false =>
            obtain rfl := Option.some.inj ran
            exact (fresh (keeps_setStage _ (by simp) task server serves)).elim
      · contradiction
  | greeted other success =>
      simp only [next] at ran
      split at ran
      · cases success with
        | true =>
            obtain rfl := Option.some.inj ran
            exact (fresh (keeps_setStage _ (by simp) task server serves)).elim
        | false =>
            obtain rfl := Option.some.inj ran
            exact (kept (keeps_teardown before .opening)).elim
      · contradiction
  | limited other success =>
      simp only [next] at ran
      split at ran
      · next number known =>
          cases success with
          | true =>
              obtain rfl := Option.some.inj ran
              rcases handOut_cases serves with ⟨rfl, rfl⟩ | serves
              · exact .inr ⟨rfl, known⟩
              · exact absurd serves fresh
          | false =>
              obtain rfl := Option.some.inj ran
              exact (kept (keeps_teardown before .opening)).elim
      · contradiction
  | cancel other =>
      refine (kept fun found number serves => ?_).elim
      simp only [next, Backend.cancel] at ran
      split at ran
      · obtain rfl := Option.some.inj ran
        exact keeps_setStage _ (by simp) found number serves
      · obtain rfl := Option.some.inj ran
        exact keeps_setStage _ (by simp) found number serves
      · obtain rfl := Option.some.inj ran
        exact keeps_setStage _ (by simp) found number serves
      · obtain rfl := Option.some.inj ran
        exact keeps_setStage _ (by simp) found number serves
      · obtain rfl := Option.some.inj ran
        exact keeps_setStage _ (by simp) found number serves
      · obtain rfl := Option.some.inj ran
        exact keeps_setStage _ (by simp) found number serves
      · obtain rfl := Option.some.inj ran
        exact serves
      · obtain rfl := Option.some.inj ran
        exact keeps_setStage _ (by simp) found number serves
      · contradiction
  | joined other =>
      simp only [next] at ran
      split at ran
      · split at ran
        · obtain rfl := Option.some.inj ran
          exact (fresh (keeps_exit { before with recvTask := none } _ task server serves)).elim
        · contradiction
      · contradiction
  | exited other =>
      simp only [next] at ran
      split at ran
      · obtain rfl := Option.some.inj ran
        exact (fresh (keeps_setStage _ (by simp) task server serves)).elim
      · contradiction

theorem stages_acquire (open_ : before.closed = false) (handler : before.handler = some server) :
    (before.acquire task).stages task = some (.serving server) := by
  simp [acquire, open_, handler, handOut, setStage]

theorem stages_open (open_ : before.closed = false) (handler : before.handler = none) :
    (before.acquire task).stages task = some .opening := by
  simp [acquire, open_, handler, setStage]

theorem servers_acquire : (before.acquire task).servers = before.servers := by
  have servers := (cancelCloser_rest before).2.2.2
  rw [acquire]
  split
  · rfl
  · split
    · exact servers
    · exact servers

theorem next_lock (ran : before.next (.lock task) = some later)
    (known : before.stages task = some .acquiring) : later = before.acquire task := by
  cases free : before.lock with
  | none =>
      simp only [next, free, known] at ran
      exact (Option.some.inj ran).symm
  | some _ =>
      simp only [next, free] at ran
      contradiction

/-- In every run, a section hands out live handlers only exactly where no session gets the lock
after either end while a handler is cached, and no limits request returns after the end of the
receive task.  A session that gets the lock in time after the process has died opens another one. -/
theorem handlers_live (watched : Watched ι)
    (reach : machine.Reaches (fun _ _ => True) {} watched) (event : Event ι) (after : Watched ι)
    (step : machine.next watched event = some after) :
    (HandsLive watched.backend event after.backend ↔ watched.InTime event) ∧
    (watched.InTime event → ∀ task, event = .lock task →
      watched.backend.stages task = some .acquiring → watched.backend.closed = false →
        (∀ server found, watched.backend.process = some server →
          watched.backend.servers server = some found → found.life ≠ .alive) →
        after.backend.stages task = some .opening) := by
  have live : watched.backend.Live watched.died watched.finished :=
    reach.keeps (fun watched => watched.backend.Live watched.died watched.finished)
      (fun live _ step => live_next live step) initial_live
  obtain ⟨backend, ran, rfl⟩ := Option.map_eq_some_iff.mp step
  refine ⟨⟨fun hands => ?_, fun inTime task server serves fresh => ?_⟩,
    fun inTime task same known open_ dead => ?_⟩
  · cases event with
    | lock task =>
        intro known open_ cached
        obtain ⟨server, handler⟩ := Option.ne_none_iff_exists'.mp cached
        obtain rfl := next_lock ran known
        obtain ⟨found, present, running, alive⟩ := hands task server
          (stages_acquire open_ handler) (by simp [known])
        have present : (watched.backend.acquire task).servers server = some found := present
        rw [servers_acquire] at present
        obtain ⟨died, finished⟩ := live.noted (live.handler handler).1 present
        exact ⟨died (alive rfl), finished running⟩
    | limited task success =>
        cases success with
        | true =>
            simp only [next] at ran
            split at ran
            · next server known =>
                obtain rfl := Option.some.inj ran
                obtain ⟨found, present, running, -⟩ := hands task server
                  (Function.update_self ..) (by simp [known])
                exact (live.noted (live.fits known).1 present).2 running
            · contradiction
        | false => trivial
    | opened _ _ | session _ | aclose _ | greeted _ _ | finish _ | cancel _ | joined _ | exited _
    | wake _ | die _ | receive _ => trivial
  · rcases serving_cases ran serves fresh with ⟨rfl, known, open_, handler⟩ | ⟨rfl, known⟩
    · obtain ⟨process, started⟩ := live.handler handler
      obtain ⟨died, finished⟩ := inTime known open_ (by simp [handler])
      obtain ⟨found, present, running, alive⟩ := live.running finished process started
      obtain rfl := next_lock ran known
      exact ⟨found, by rw [servers_acquire, present], running, fun _ => alive died⟩
    · obtain ⟨process, -, started⟩ := live.fits known
      obtain ⟨found, present, running, -⟩ := live.running inTime process started
      simp only [next, known] at ran
      obtain rfl := Option.some.inj ran
      exact ⟨found, present, running, by simp⟩
  · subst same
    obtain rfl := next_lock ran known
    refine stages_open open_ ?_
    by_contra cached
    obtain ⟨server, handler⟩ := Option.ne_none_iff_exists'.mp cached
    obtain ⟨process, started⟩ := live.handler handler
    obtain ⟨died, finished⟩ := inTime known open_ cached
    obtain ⟨found, present, -, alive⟩ := live.running finished process started
    exact dead server found process present (alive died)

/-- A process serves a session and dies, and the idle timer closes it. -/
def idleClose : List (Event Bool) :=
  [.session true, .lock (.caller true), .opened (.caller true) true, .greeted (.caller true) true,
    .limited (.caller true) true, .finish (.caller true), .lock (.caller true), .die 0, .receive 0,
    .wake 0, .lock (.closer 0), .joined (.closer 0), .exited (.closer 0), .session false]

/-- Behind the idle close the next session opens another process, and is handed its handler. -/
theorem handlers_live_reopened :
    ∃ idle opening watched after : Watched Bool, machine.Reaches (fun _ _ => True) {} idle ∧
      idle.died ∧ machine.next idle (.lock (.caller false)) = some opening ∧
      opening.backend.stages (.caller false) = some .opening ∧
      machine.Reaches (fun _ _ => True) {} watched ∧
      machine.next watched (.limited (.caller false) true) = some after ∧
      after.backend.stages (.caller false) = some (.serving 1) ∧
      HandsLive watched.backend (.limited (.caller false) true) after.backend := by
  have idle : machine.Reaches (fun _ _ => True) ({} : Watched Bool) _ :=
    Machine.reaches_of_run idleClose (by simp) rfl
  have acquired := handlers_live _ idle (.lock (.caller false)) _ rfl
  have opening := acquired.2 (fun _ _ cached => absurd rfl cached) _ rfl rfl rfl nofun
  have reopened : machine.Reaches (fun _ _ => True) ({} : Watched Bool) _ :=
    Machine.reaches_of_run (idleClose ++ [.lock (.caller false), .opened (.caller false) true,
      .greeted (.caller false) true]) (by simp) rfl
  exact ⟨_, _, _, _, idle, rfl, rfl, opening, reopened, rfl, rfl,
    (handlers_live _ reopened (.limited (.caller false) true) _ rfl).1.mpr rfl⟩

/-- A session is handed the handler of a process that died after the session before. -/
theorem handlers_dead :
    ¬ ∀ (watched : Watched Bool) (event : Event Bool) (after : Watched Bool),
      machine.Reaches (fun _ _ => True) {} watched → machine.next watched event = some after →
        HandsLive watched.backend event after.backend := by
  intro hands
  have reach : machine.Reaches (fun _ _ => True) ({} : Watched Bool) _ :=
    Machine.reaches_of_run
      [.session true, .lock (.caller true), .opened (.caller true) true,
        .greeted (.caller true) true, .limited (.caller true) true, .finish (.caller true),
        .lock (.caller true), .die 0, .receive 0, .session false]
      (by simp) rfl
  have live := hands _ (.lock (.caller false)) _ reach rfl
  obtain ⟨found, present, running, -⟩ := live (.caller false) 0 rfl (by decide)
  obtain rfl := Option.some.inj present
  contradiction

end Watched

end Drukbox.Gateway.Sftp
