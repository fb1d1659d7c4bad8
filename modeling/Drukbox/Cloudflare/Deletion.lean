import Drukbox.Cloudflare.Worker

/-!
# A deleted sandbox stays deleted

Only one `PUT` claims the name, in one turn with the start of its container, and each later write of
its status is in one turn with the read of `creating` that it depends on.  So `deleted` is the last
status, and what destroyed the container after it was stored destroyed it for good.
-/

namespace Drukbox.Cloudflare

open Await Program

/-- How far a handler has come. -/
inductive Phase where
  /-- Its call is not delivered. -/
  | unborn
  /-- It has changed nothing. -/
  | neutral
  /-- It read that there is no status. -/
  | vacant
  /-- It stored `creating`. -/
  | claimed
  /-- It has called `container.start`. -/
  | owning
  /-- It owns the container and read `creating`. -/
  | ready
  /-- It stored `active`. -/
  | activated
  /-- It stored `deleted`. -/
  | deleting
  /-- And it destroyed the container after that. -/
  | wiped
  deriving DecidableEq, Repr

namespace Phase

/-- The handler stored `creating`. -/
def Claims : Phase → Prop
  | claimed | owning | ready | activated => True
  | unborn | neutral | vacant | deleting | wiped => False

/-- The handler stored `deleted`. -/
def Deletes : Phase → Prop
  | deleting | wiped => True
  | unborn | neutral | vacant | claimed | owning | ready | activated => False

/-- What the status is while the handler stands in the phase. -/
def Reads : Phase → Option Status → Prop
  | vacant, status => status = none
  | claimed, status | ready, status => status = some .creating
  | deleting, status | wiped, status => status = some .deleted
  | unborn, _ | neutral, _ | owning, _ | activated, _ => True

/-- What a handler may wait for in each phase. -/
inductive Allows : Phase → Op → Prop where
  | arrive : Allows unborn .arrive
  | json : Allows neutral .json
  | get : Allows neutral .getStatus
  | running : Allows neutral .running
  | renew {ms : ℕ} : Allows neutral (.setInactivityTimeout ms)
  | alarm {delay : ℕ} : Allows neutral (.setAlarm delay)
  | delete : Allows neutral (.putStatus .deleted)
  | skip : Allows vacant .running
  | create : Allows vacant (.putStatus .creating)
  | start {options : StartOptions} : Allows claimed (.start options)
  | keep {ms : ℕ} : Allows owning (.setInactivityTimeout ms)
  | watch {delay : ℕ} : Allows owning (.setAlarm delay)
  | bootstrap {command : List String} {deadline : ℕ} : Allows owning (.bootstrap command deadline)
  | recheck : Allows owning .getStatus
  | disown : Allows owning .destroy
  | forget : Allows owning .deleteAlarm
  | activate : Allows ready (.putStatus .active)
  | fail : Allows ready (.putStatus .error)
  | destroy : Allows deleting .destroy
  | finish : Allows wiped .deleteAlarm

/-- The contract of the handlers. -/
def contract : Contract Op.Answer Phase where
  allows := Allows
  next
    | unborn, _ => fun _ => neutral
    | neutral, .getStatus => fun status => if status.isSome then neutral else vacant
    | neutral, .putStatus _ => fun _ => deleting
    | vacant, .putStatus _ => fun _ => claimed
    | vacant, _ => fun _ => neutral
    | claimed, _ => fun _ => owning
    | owning, .getStatus => fun status => if status = some .creating then ready else owning
    | ready, .putStatus .active => fun _ => activated
    | ready, _ => fun _ => owning
    | deleting, _ => fun _ => wiped
    | phase, _ => fun _ => phase

/-- A `PUT` that claims nothing ends so. -/
def Refused (body : Except Failure Body) : Except Failure (Option Response) → Prop
  | .ok response => ∃ answer, response = some answer ∧ (answer.status = 409 ∨ answer.status = 400)
  | .error failure => body = .error failure

/-- How a handler may end, by its call and its phase. -/
def Ended (call : Call) : Phase → Except Failure (Option Response) → Prop
  | unborn, _ | vacant, _ | claimed, _ | ready, _ | deleting, _ => False
  | neutral, outcome =>
      match call with
      | .put body => Refused body outcome
      | .delete => False
      | .other | .alarm => ∀ answer, outcome = .ok (some answer) → answer.status = 405
  | owning, outcome => ∀ answer, outcome = .ok (some answer) → answer.status ≠ 201
  | activated, outcome => ∃ answer, outcome = .ok (some answer) ∧ answer.status = 201
  | wiped, outcome =>
      call = .delete ∧ ∃ answer, outcome = .ok (some answer) ∧ answer.status = 200

theorem Ended.created {call : Call} {phase : Phase} {answer : Response}
    (ended : Ended call phase (.ok (some answer))) (created : answer.status = 201) :
    phase = activated := by
  cases phase with
  | activated => rfl
  | neutral =>
      cases call with
      | put body =>
          obtain ⟨_, ⟨⟩, refused⟩ := ended
          omega
      | delete => exact ended.elim
      | other | alarm =>
          have refused := ended answer rfl
          omega
  | owning => exact absurd created (ended answer rfl)
  | wiped =>
      obtain ⟨-, _, ⟨⟩, deleted⟩ := ended
      omega
  | _ => exact ended.elim

section Programs

variable {images : List (String × String)} {image : String} {body : Body}

theorem claim_follows {post : Phase → Except Failure Bool → Prop}
    (taken : post neutral (.ok false)) (free : post claimed (.ok true)) :
    Follows contract post neutral Sandbox.claim := by
  unfold Sandbox.claim
  refine .step (by constructor) fun status _ => ?_
  cases status with
  | some status => exact taken
  | none => exact .step (by constructor) fun _ _ => free

theorem recheck {α : Type} {post : Phase → Except Failure α → Prop}
    {next : Option Status → Handler α}
    (creating : Follows contract post ready (next (some .creating)))
    (other : ∀ status, status ≠ some .creating → Follows contract post owning (next status)) :
    Follows contract post owning ((wait .getStatus).bind next) := by
  refine .step (by constructor) fun status _ => ?_
  by_cases same : status = some .creating
  · subst status
    exact creating
  · have stays : contract.next owning .getStatus status = owning := by
      simp [contract, same]
    rw [stays]
    exact other status same

theorem provision_follows {post : Phase → Except Failure Response → Prop}
    (fails : ∀ failure, post owning (.error failure))
    (returns : ∀ response, response.status ≠ 201 → post owning (.ok response))
    (active : ∀ response, response.status = 201 → post activated (.ok response)) :
    Follows contract post claimed (Sandbox.provision image body) := by
  unfold Sandbox.provision
  refine .step (by constructor) fun started _ => ?_
  cases started with
  | error failure => exact fails failure
  | ok _ =>
      refine .step (by constructor) fun renewed _ => ?_
      cases renewed with
      | error failure => exact fails failure
      | ok _ =>
          refine .step (by constructor) fun _ _ => .step (by constructor) fun settled _ => ?_
          cases settled with
          | error failure => exact fails failure
          | ok exitCode =>
              simp only [ofExcept_ok, bind_eq_bind, done_bind]
              split
              · exact fails .bootstrap
              · apply recheck
                · exact .step (by constructor) fun _ _ => active _ rfl
                · intro status changed
                  rw [if_pos changed]
                  exact .step (by constructor) fun _ _ => returns _ (by simp)

theorem abort_follows {post : Phase → Except Failure Response → Prop}
    (returns : ∀ response, response.status ≠ 201 → post owning (.ok response)) :
    Follows contract post owning Sandbox.abort := by
  have ends : Follows contract post owning
      (do
        wait .destroy
        wait .deleteAlarm
        return { status := 502, json := some ("error", "Sandbox provisioning failed") }) :=
    .step (by constructor) fun _ _ => .step (by constructor) fun _ _ => returns _ (by simp)
  unfold Sandbox.abort
  apply recheck
  · exact .step (by constructor) fun _ _ => ends
  · intro status changed
    rw [if_neg changed]
    exact ends

theorem put_follows {body : Except Failure Body} :
    Follows contract (fun phase outcome => Ended (.put body) phase (outcome.map some)) neutral
      (Sandbox.put images body) := by
  unfold Sandbox.put
  refine .step (by constructor) fun _ _ => ?_
  cases body with
  | error failure => rfl
  | ok body =>
      simp only [ofExcept_ok, bind_eq_bind, done_bind]
      cases images.lookup body.image with
      | none => exact ⟨_, rfl, .inr rfl⟩
      | some image =>
          dsimp only
          split
          · exact ⟨_, rfl, .inr rfl⟩
          · refine .bind (claim_follows ⟨_, rfl, .inl rfl⟩ (.bind (.attempt ?_)))
            apply provision_follows
            · intro failure
              apply abort_follows
              rintro response refused answer ⟨⟩
              exact refused
            · rintro response refused answer ⟨⟩
              exact refused
            · exact fun response created => ⟨response, rfl, created⟩

theorem delete_follows :
    Follows contract (fun phase outcome => Ended .delete phase (outcome.map some)) neutral
      Sandbox.delete :=
  .step (by constructor) fun _ _ => .step (by constructor) fun _ _ =>
    .step (by constructor) fun _ _ => ⟨rfl, _, rfl, rfl⟩

theorem alarm_follows :
    Follows contract (fun phase _ => phase = neutral) neutral Sandbox.alarm := by
  have renews : Follows contract (fun phase _ => phase = neutral) neutral
      (do
        ofExcept (← wait (.setInactivityTimeout inactivityMs))
        wait (.setAlarm alarmMs)) := by
    refine .step (by constructor) fun renewed _ => ?_
    cases renewed with
    | error failure => rfl
    | ok _ => exact .step (by constructor) fun _ _ => rfl
  unfold Sandbox.alarm
  refine .step (by constructor) fun status _ => ?_
  cases status with
  | none =>
      refine .step (by constructor) fun running _ => ?_
      rw [if_neg (by simp)]
      rfl
  | some status =>
      refine .step (by constructor) fun running _ => ?_
      split
      · exact renews
      · rfl

theorem handle_follows (call : Call) :
    Follows contract (Ended call) unborn (Sandbox.handle images call) := by
  unfold Sandbox.handle
  refine .step (by constructor) fun _ _ => ?_
  cases call with
  | put body =>
      refine .bind (put_follows.weaken fun phase outcome ended => ?_)
      cases outcome <;> exact ended
  | delete =>
      refine .bind (delete_follows.weaken fun phase outcome ended => ?_)
      cases outcome <;> exact ended
  | other =>
      rintro answer ⟨⟩
      rfl
  | alarm =>
      refine .bind (alarm_follows.weaken fun phase outcome same => ?_)
      subst same
      cases outcome <;> exact fun _ impossible => nomatch impossible

end Programs

section Steps

variable {phase : Phase} {op : Op} {answer : op.Answer} {choice : Choice} {ctx later : Ctx}
  {status : Status}

theorem arrive_unborn (allows : contract.allows phase .arrive) : phase = unborn := by
  cases allows
  rfl

theorem next_claims (allows : contract.allows phase op) :
    (contract.next phase op answer).Claims ↔ phase.Claims ∨ op = .putStatus .creating := by
  cases allows with
  | get => cases answer <;> simp [contract, Claims]
  | recheck =>
      simp only [contract]
      split <;> simp [Claims]
  | _ => simp [contract, Claims]

theorem next_deletes (allows : contract.allows phase op) :
    (contract.next phase op answer).Deletes ↔ phase.Deletes ∨ op = .putStatus .deleted := by
  cases allows with
  | get => cases answer <;> simp [contract, Deletes]
  | recheck =>
      simp only [contract]
      split <;> simp [Deletes]
  | _ => simp [contract, Deletes]

/-- A handler stores `active` only where it just read `creating`. -/
theorem next_activated (allows : contract.allows phase op)
    (same : contract.next phase op answer = activated) : phase = ready := by
  cases allows with
  | get => cases answer <;> simp [contract] at same
  | recheck =>
      simp only [contract] at same
      split at same <;> cases same
  | _ => simp [contract] at same ⊢

/-- What a handler reads in its turn is so until the turn ends. -/
theorem next_reads (allows : contract.allows phase op) (reads : phase.Reads ctx.status)
    (performed : Sandbox.perform op choice ctx = some (answer, later)) :
    (contract.next phase op answer).Reads later.status := by
  cases allows with
  | get =>
      obtain ⟨rfl, rfl⟩ : ctx.status = answer ∧ ctx = later := by
        simpa [Sandbox.perform] using performed
      cases ctx.status <;> simp [contract, Reads]
  | recheck =>
      obtain ⟨rfl, rfl⟩ : ctx.status = answer ∧ ctx = later := by
        simpa [Sandbox.perform] using performed
      simp only [contract]
      split
      · assumption
      · trivial
  | create | delete | destroy | finish =>
      obtain rfl : _ = later := by simpa [Sandbox.perform] using performed
      first | rfl | exact reads
  | _ => simp [contract, Reads]

theorem perform_put {stored : (Op.putStatus status).Answer}
    (performed : Sandbox.perform (.putStatus status) choice ctx = some (stored, later)) :
    later.status = some status := by
  obtain rfl : _ = later := by simpa [Sandbox.perform] using performed
  rfl

theorem perform_status (performed : Sandbox.perform op choice ctx = some (answer, later)) :
    later.status = ctx.status ∨ ∃ status, op = .putStatus status ∧ later.status = some status := by
  cases op with
  | putStatus status => exact .inr ⟨status, rfl, perform_put performed⟩
  | start | setInactivityTimeout | bootstrap =>
      cases choice <;> simp [Sandbox.perform] at performed <;> simp [← performed.2]
  | _ =>
      simp only [Sandbox.perform, Option.some.injEq, Prod.mk.injEq] at performed
      simp [← performed.2]

theorem perform_running (performed : Sandbox.perform op choice ctx = some (answer, later))
    (running : later.running = true) : ctx.running = true ∨ ∃ options, op = .start options := by
  cases op with
  | start options => exact .inr ⟨options, rfl⟩
  | destroy =>
      simp only [Sandbox.perform, Option.some.injEq, Prod.mk.injEq] at performed
      obtain ⟨-, rfl⟩ := performed
      cases running
  | setInactivityTimeout | bootstrap =>
      cases choice <;> simp [Sandbox.perform] at performed <;>
        exact .inl (performed.2 ▸ running)
  | _ =>
      simp only [Sandbox.perform, Option.some.injEq, Prod.mk.injEq] at performed
      obtain ⟨-, rfl⟩ := performed
      exact .inl running

theorem deleted_stays (allows : contract.allows phase op) (reads : phase.Reads ctx.status)
    (performed : Sandbox.perform op choice ctx = some (answer, later))
    (deleted : ctx.status = some .deleted) : later.status = some .deleted := by
  rcases perform_status performed with same | ⟨status, rfl, stored⟩
  · rw [same, deleted]
  · cases allows with
    | delete => exact stored
    | create | activate | fail =>
        have impossible := deleted.symm.trans reads
        cases impossible

/-- Who destroys the container after `deleted` finds it down from then on. -/
theorem next_wiped (allows : contract.allows phase op)
    (performed : Sandbox.perform op choice ctx = some (answer, later))
    (down : phase = wiped → ctx.running = false)
    (same : contract.next phase op answer = wiped) : later.running = false := by
  cases allows with
  | destroy =>
      obtain rfl : _ = later := by simpa [Sandbox.perform] using performed
      rfl
  | finish =>
      obtain rfl : _ = later := by simpa [Sandbox.perform] using performed
      exact down rfl
  | get => cases answer <;> simp [contract] at same
  | recheck =>
      simp only [contract] at same
      split at same <;> cases same
  | _ => simp [contract] at same

/-- What a handler has read may change where it yields, unless it is `deleted`. -/
theorem reads_stays {call : Call}
    (yields : contract.Yields (fun op => op.gated) (Ended call) phase)
    (reads : phase.Reads ctx.status)
    (stays : ctx.status = some .deleted → later.status = some .deleted) :
    phase.Reads later.status := by
  cases phase with
  | vacant | claimed | ready =>
      rcases yields with ⟨op, allows, free⟩ | ⟨outcome, ended⟩
      · cases allows <;> exact absurd rfl free
      · exact ended.elim
  | deleting | wiped => exact stays reads
  | _ => trivial

end Steps

end Phase

variable {ι : Type}

/-- The handler stored the status. -/
def Stored (world : World ι Op.Answer Ctx) (task : ι) (status : Status) : Prop :=
  .answered task (.putStatus status) () ∈ world.log

/-- The handler called `container.start`. -/
def Started (world : World ι Op.Answer Ctx) (task : ι) : Prop :=
  ∃ options answer, .answered task (.start options) answer ∈ world.log

/-- What every turn keeps. -/
structure Inv (world : World ι Op.Answer Ctx) : Prop where
  /-- Without a status nobody has claimed. -/
  vacant : world.state.status = none → ∀ task, ¬ Stored world task .creating
  deleted : ∀ {task}, Stored world task .deleted → world.state.status = some .deleted
  one_claim : ∀ {task other}, Stored world task .creating → Stored world other .creating →
    task = other
  start_claims : ∀ {task}, Started world task → Stored world task .creating

/-- What a handler may count on in each phase. -/
structure Asserts (task : ι) (phase : Phase) (world : World ι Op.Answer Ctx) : Prop where
  reads : phase.Reads world.state.status
  claims : phase.Claims → Stored world task .creating
  deletes : phase.Deletes ↔ Stored world task .deleted
  wiped : phase = .wiped → world.state.running = false

section Turns

variable {world later : World ι Op.Answer Ctx} {task other : ι} {phase standing : Phase} {op : Op}
  {answer : op.Answer} {choice : Choice} {status : Status}

theorem performs (answered : Sandbox.system.answer task op choice world = some (answer, later)) :
    Sandbox.perform op choice world.state = some (answer, later.state) :=
  (System.answer_eq_some.mp answered).1

theorem stored_after
    (answered : Sandbox.system.answer task op choice world = some (answer, later)) :
    Stored later other status ↔
      Stored world other status ∨ other = task ∧ op = .putStatus status := by
  obtain ⟨-, log⟩ := System.answer_eq_some.mp answered
  simp only [Stored, log, List.mem_append, List.mem_singleton, Entry.answered.injEq]
  constructor
  · rintro (held | ⟨same, rfl, -⟩)
    · exact .inl held
    · exact .inr ⟨same, rfl⟩
  · rintro (held | ⟨same, rfl⟩)
    · exact .inl held
    · exact .inr ⟨same, rfl, HEq.rfl⟩

theorem started_after (answered : Sandbox.system.answer task op choice world = some (answer, later))
    (started : Started later other) :
    Started world other ∨ other = task ∧ ∃ options, op = .start options := by
  obtain ⟨-, log⟩ := System.answer_eq_some.mp answered
  obtain ⟨options, result, member⟩ := started
  simp only [log, List.mem_append, List.mem_singleton, Entry.answered.injEq] at member
  rcases member with held | ⟨same, rfl, -⟩
  · exact .inl ⟨options, result, held⟩
  · exact .inr ⟨same, options, rfl⟩

theorem Inv.turn (inv : Inv world) (allows : Phase.contract.allows phase op)
    (asserts : Asserts task phase world)
    (answered : Sandbox.system.answer task op choice world = some (answer, later)) : Inv later := by
  have performed := performs answered
  have first : op = .putStatus .creating → ∀ other, ¬ Stored world other .creating := by
    rintro rfl
    cases allows with
    | create => exact inv.vacant asserts.reads
  constructor
  · intro none_left other stored
    rcases Phase.perform_status performed with same | ⟨status, rfl, stored_status⟩
    · rcases (stored_after answered).mp stored with held | ⟨-, rfl⟩
      · exact inv.vacant (same ▸ none_left) other held
      · have creating : later.state.status = some .creating := Phase.perform_put performed
        rw [creating] at none_left
        cases none_left
    · rw [stored_status] at none_left
      cases none_left
  · intro other stored
    rcases (stored_after answered).mp stored with held | ⟨-, rfl⟩
    · exact Phase.deleted_stays allows asserts.reads performed (inv.deleted held)
    · exact Phase.perform_put performed
  · intro one other stored_one stored_other
    rcases (stored_after answered).mp stored_one with held_one | ⟨rfl, creating⟩ <;>
      rcases (stored_after answered).mp stored_other with held_other | ⟨rfl, creating_other⟩
    · exact inv.one_claim held_one held_other
    · exact absurd held_one (first creating_other one)
    · exact absurd held_other (first creating other)
    · rfl
  · intro other started
    apply (stored_after answered).mpr
    rcases started_after answered started with held | ⟨rfl, options, rfl⟩
    · exact .inl (inv.start_claims held)
    · cases allows with
      | start => exact .inl (asserts.claims trivial)

theorem Asserts.turn (allows : Phase.contract.allows phase op) (asserts : Asserts task phase world)
    (answered : Sandbox.system.answer task op choice world = some (answer, later)) :
    Asserts task (Phase.contract.next phase op answer) later := by
  have performed := performs answered
  constructor
  · exact Phase.next_reads allows asserts.reads performed
  · intro claims
    apply (stored_after answered).mpr
    rcases (Phase.next_claims allows).mp claims with claimed | rfl
    · exact .inl (asserts.claims claimed)
    · exact .inr ⟨rfl, rfl⟩
  · rw [Phase.next_deletes allows, stored_after answered, asserts.deletes]
    simp
  · exact Phase.next_wiped allows performed asserts.wiped

theorem Asserts.others (allows : Phase.contract.allows phase op)
    (asserts : Asserts task phase world)
    (answered : Sandbox.system.answer task op choice world = some (answer, later))
    (different : other ≠ task) {call : Call}
    (yields : Phase.contract.Yields (fun op => op.gated) (Phase.Ended call) standing)
    (held : Asserts other standing world) : Asserts other standing later := by
  have performed := performs answered
  constructor
  · exact Phase.reads_stays yields held.reads
      (Phase.deleted_stays allows asserts.reads performed)
  · exact fun claims => (stored_after answered).mpr (.inl (held.claims claims))
  · rw [held.deletes, stored_after answered]
    simp [different]
  · rintro rfl
    have down := held.wiped rfl
    cases running : later.state.running with
    | false => rfl
    | true =>
        rcases Phase.perform_running performed running with up | ⟨options, rfl⟩
        · rw [down] at up
          cases up
        · cases allows with
          | start =>
              have impossible := asserts.reads.symm.trans held.reads
              cases impossible

theorem upheld (calls : ι → Call) :
    GatedUpheld Sandbox.system (fun op => op.gated) Phase.contract Inv Asserts
      fun task => Phase.Ended (calls task) where
  perform allows inv asserts answered :=
    ⟨trivial, inv.turn allows asserts answered, asserts.turn allows answered⟩
  others allows _ asserts answered different yields held :=
    asserts.others allows answered different yields held
  world := by
    intro move world ctx inv moved
    obtain ⟨status, down⟩ : ctx.status = world.state.status ∧
        (world.state.running = false → ctx.running = false) := by
      cases move <;> simp [Sandbox.system] at moved <;> simp [← moved]
    refine ⟨⟨?_, ?_, inv.one_claim, inv.start_claims⟩, fun {task phase} asserts =>
      ⟨?_, asserts.claims, asserts.deletes, fun wiped => down (asserts.wiped wiped)⟩⟩
    · intro none_left
      exact inv.vacant (status ▸ none_left)
    · intro task stored
      exact status.trans (inv.deleted stored)
    · exact status ▸ asserts.reads

/-- What a handler may count on after `deleted`: it claims nothing more. -/
structure Since (since : ι → Phase) (task : ι) (phase : Phase) (world : World ι Op.Answer Ctx) :
    Prop where
  asserts : Asserts task phase world
  claims : phase.Claims → (since task).Claims
  activated : phase = .activated → since task = .activated

theorem upheld_since (calls : ι → Call) (since : ι → Phase) :
    GatedUpheld Sandbox.system (fun op => op.gated) Phase.contract
      (fun world => Inv world ∧ world.state.status = some .deleted) (Since since)
      fun task => Phase.Ended (calls task) where
  perform := by
    rintro task phase op choice answer world later allows ⟨inv, deleted⟩ held answered
    obtain ⟨-, inv_after, own⟩ := (upheld calls).perform allows inv held.asserts answered
    have stays := Phase.deleted_stays allows held.asserts.reads (performs answered) deleted
    refine ⟨trivial, ⟨inv_after, stays⟩, own, ?_, ?_⟩
    · intro claims
      rcases (Phase.next_claims allows).mp claims with claimed | rfl
      · exact held.claims claimed
      · cases allows with
        | create => cases deleted.symm.trans held.asserts.reads
    · intro activated
      obtain rfl := Phase.next_activated allows activated
      cases deleted.symm.trans held.asserts.reads
  others allows inv held answered different yields standing :=
    ⟨(upheld calls).others allows inv.1 held.asserts answered different yields standing.asserts,
      standing.claims, standing.activated⟩
  world := by
    rintro move world ctx ⟨inv, deleted⟩ moved
    obtain ⟨inv_after, asserts⟩ := (upheld calls).world inv moved
    have stays : ctx.status = some .deleted := by
      cases move <;> simp [Sandbox.system] at moved <;> simp [← moved, deleted]
    exact ⟨⟨inv_after, stays⟩, fun held => ⟨asserts held.asserts, held.claims, held.activated⟩⟩

end Turns

section Runs

variable [DecidableEq ι] {images : List (String × String)} {calls : ι → Call}
  {run later : Sandbox.Run ι} {task : ι}

/-- The call is not delivered yet. -/
def Pending (run : Sandbox.Run ι) (task : ι) : Prop :=
  ∃ resume, run.tasks task = some (.call .arrive resume)

/-- The handler waits for something, if only for its call. -/
def InFlight (run : Sandbox.Run ι) (task : ι) : Prop :=
  ∃ op resume, run.tasks task = some (.call op resume)

/-- The handler has ended. -/
def Ends (run : Sandbox.Run ι) (task : ι) (outcome : Except Failure (Option Response)) : Prop :=
  run.tasks task = some (Program.ofExcept outcome)

theorem upholds (reach : Sandbox.Reaches (Sandbox.initial images calls) run) :
    Upholds Phase.contract Inv Asserts (fun task => Phase.Ended (calls task)) run := by
  refine Upholds.gated_reaches (upheld calls) ⟨?_, ?_⟩ reach
  · exact ⟨fun _ _ => List.not_mem_nil, nofun, nofun, nofun⟩
  · rintro task program ⟨⟩
    exact ⟨.unborn, ⟨trivial, nofun, ⟨nofun, nofun⟩, nofun⟩, Phase.handle_follows (calls task)⟩

theorem upholds_since (reach : Sandbox.Reaches (Sandbox.initial images calls) run)
    (deleted : run.world.state.status = some .deleted) (rest : Sandbox.Reaches run later) :
    ∃ since : ι → Phase,
      (∀ task program, run.tasks task = some program →
        Follows Phase.contract (Phase.Ended (calls task)) (since task) program) ∧
      Upholds Phase.contract (fun world => Inv world ∧ world.state.status = some .deleted)
        (Since since) (fun task => Phase.Ended (calls task)) later := by
  have before := upholds reach
  have stands : ∀ task, ∃ phase, ∀ program, run.tasks task = some program →
      Asserts task phase run.world ∧
        Follows Phase.contract (Phase.Ended (calls task)) phase program := by
    intro task
    cases present : run.tasks task with
    | none => exact ⟨.unborn, nofun⟩
    | some program =>
        obtain ⟨phase, asserts, follows⟩ := before.follows present
        refine ⟨phase, ?_⟩
        rintro _ ⟨⟩
        exact ⟨asserts, follows⟩
  obtain ⟨since, stands⟩ := Classical.skolem.mp stands
  refine ⟨since, fun task program present => (stands task program present).2, ?_⟩
  refine Upholds.gated_reaches (upheld_since calls since) ⟨⟨before.inv, deleted⟩, ?_⟩ rest
  intro task program present
  obtain ⟨asserts, follows⟩ := stands task program present
  exact ⟨since task, ⟨asserts, id, id⟩, follows⟩

/-- Where no called handler is left to run after a delete, the container is down. -/
theorem down_when_ended (reach : Sandbox.Reaches (Sandbox.initial images calls) run)
    (stored : Stored run.world task .deleted)
    (ended : ∀ task, InFlight run task → Pending run task) :
    run.world.state.running = false := by
  have present := System.machine_tasks reach task rfl
  obtain ⟨program, left⟩ := Option.isSome_iff_exists.mp present
  obtain ⟨phase, asserts, follows⟩ := (upholds reach).follows left
  have deletes := asserts.deletes.mpr stored
  cases phase with
  | wiped => exact asserts.wiped rfl
  | deleting =>
      cases program with
      | done value => exact follows.elim
      | raise error => exact follows.elim
      | call op resume =>
          obtain ⟨_, pending⟩ := ended task ⟨op, resume, left⟩
          obtain ⟨rfl, -⟩ := Program.call.inj (Option.some.inj (left.symm.trans pending))
          cases follows.1
  | _ => exact deletes.elim

/-- A handler that is called after a delete claims nothing. -/
theorem refused_after_delete (reach : Sandbox.Reaches (Sandbox.initial images calls) run)
    (deleted : run.world.state.status = some .deleted) (rest : Sandbox.Reaches run later)
    {body : Except Failure Body} (called : calls task = .put body) (pending : Pending run task)
    {outcome : Except Failure (Option Response)} (ends : Ends later task outcome) :
    Phase.Refused body outcome := by
  obtain ⟨since, stood, after⟩ := upholds_since reach deleted rest
  obtain ⟨resume, waits⟩ := pending
  have unborn : since task = .unborn := Phase.arrive_unborn (stood task _ waits).1
  obtain ⟨phase, held, follows⟩ := after.follows ends
  have ended : Phase.Ended (.put body) phase outcome := by
    rw [← called]
    cases outcome <;> exact follows
  have unclaimed : ¬ phase.Claims := by
    intro claims
    have before := held.claims claims
    rw [unborn] at before
    exact before
  cases phase with
  | neutral => exact ended
  | owning | activated => exact absurd trivial unclaimed
  | wiped => cases ended.1
  | _ => exact ended.elim

/-- No handler that was in flight at a delete answers 201. -/
theorem not_created_after_delete (reach : Sandbox.Reaches (Sandbox.initial images calls) run)
    (deleted : run.world.state.status = some .deleted) (rest : Sandbox.Reaches run later)
    (inFlight : InFlight run task) {answer : Response}
    (ends : Ends later task (.ok (some answer))) :
    answer.status ≠ 201 := by
  obtain ⟨since, stood, after⟩ := upholds_since reach deleted rest
  obtain ⟨op, resume, waits⟩ := inFlight
  have allows := (stood task _ waits).1
  obtain ⟨phase, held, ended⟩ := after.follows ends
  intro created
  obtain rfl := Phase.Ended.created ended created
  rw [held.activated rfl] at allows
  cases allows

/-- **A deleted sandbox stays deleted.**  In every run at most one handler starts the container; and
once a delete stored `deleted`, the status stays so, a `PUT` that is called later is refused or its
body cannot be read, no handler in flight answers 201, and where all that were called have ended,
the container is down. -/
theorem stays_deleted (reach : Sandbox.Reaches (Sandbox.initial images calls) run) :
    (∀ {task other}, Started run.world task → Started run.world other → task = other) ∧
      ∀ {deleter}, Stored run.world deleter .deleted → ∀ {later}, Sandbox.Reaches run later →
        later.world.state.status = some .deleted ∧
          (∀ {task body outcome}, calls task = .put body → Pending run task →
            Ends later task outcome → Phase.Refused body outcome) ∧
          (∀ {task answer}, InFlight run task → Ends later task (.ok (some answer)) →
            answer.status ≠ 201) ∧
          ((∀ task, InFlight later task → Pending later task) →
            later.world.state.running = false) := by
  have inv := (upholds reach).inv
  constructor
  · intro task other started started_other
    exact inv.one_claim (inv.start_claims started) (inv.start_claims started_other)
  · intro deleter stored later rest
    have deleted := inv.deleted stored
    have whole : Sandbox.Reaches (Sandbox.initial images calls) later := reach.trans rest
    have kept : Stored later.world deleter .deleted := System.machine_log rest stored
    exact ⟨(upholds whole).inv.deleted kept,
      fun called pending ends => refused_after_delete reach deleted rest called pending ends,
      fun inFlight ends => not_created_after_delete reach deleted rest inFlight ends,
      down_when_ended whole kept⟩

end Runs

/-- A `DELETE` and two `PUT`s. -/
def deleteAndPuts (body : Except Failure Body) : Fin 3 → Call
  | 0 => .delete
  | 1 | 2 => .put body

/-- The input gate of three handlers. -/
def admits (run : Sandbox.Run (Fin 3)) : Event (Fin 3) Choice Outside → Bool
  | .perform task _ =>
      decide (∀ other : Fin 3, other ≠ task →
        (match run.tasks other with
        | some (.call op _) => !op.gated
        | _ => true) = true)
  | .abandon _ => false
  | .world _ => true

theorem admits_sound (run : Sandbox.Run (Fin 3)) (event : Event (Fin 3) Choice Outside)
    (admitted : admits run event) : Delivered (fun op => op.gated) run event := by
  cases event with
  | perform task choice =>
      intro other op resume different present
      have free := of_decide_eq_true admitted other different
      simpa [present] using free
  | abandon task => cases admitted
  | world event => trivial

/-- The handlers' turns in this order, where the gate lets them through. -/
def play (run : Sandbox.Run (Fin 3)) (turns : List (Fin 3 × Choice)) :
    Option (Sandbox.Run (Fin 3)) :=
  Sandbox.system.machine.runChecked admits run
    (turns.map fun turn => .perform turn.1 turn.2)

theorem play_reaches {run later : Sandbox.Run (Fin 3)} (turns : List (Fin 3 × Choice))
    (played : play run turns = some later) : Sandbox.Reaches run later :=
  Machine.reaches_of_runChecked admits admits_sound _ played

/-- A `PUT` comes to its bootstrap script, with its container up, and a `DELETE` stores its
status. -/
def midway {ι : Type} (wipe first : ι) : List (ι × Choice) :=
  .replicate 7 (first, .succeeds) ++ .replicate 2 (wipe, .succeeds)

/-- The script ends behind that, and another `PUT` comes. -/
def afterwards {ι : Type} (wipe first second : ι) : List (ι × Choice) :=
  [(first, .exits 0), (first, .succeeds), (wipe, .succeeds), (wipe, .succeeds),
    (first, .succeeds)] ++ .replicate 3 (second, .succeeds)

/-- A body that the handler accepts. -/
def sampleBody : Body where
  image := "base"
  instanceType := "lite"
  script := ""
  label := ""

/-- The `DELETE` stores its status in the middle of the first `PUT`. -/
theorem stays_deleted_put :
    ∃ (run later : Sandbox.Run (Fin 3)) (answer : Response) (outcome : _),
      Sandbox.Reaches (Sandbox.initial [("base", "ref")] (deleteAndPuts (.ok sampleBody))) run ∧
        run.world.state.running = true ∧ InFlight run 1 ∧ Stored run.world 0 .deleted ∧
        Sandbox.Reaches run later ∧ Ends later 1 (.ok (some answer)) ∧ answer.status ≠ 201 ∧
        Ends later 2 outcome ∧ Phase.Refused (.ok sampleBody) outcome ∧
        later.world.state.status = some .deleted ∧ later.world.state.running = false := by
  let start := Sandbox.initial [("base", "ref")] (deleteAndPuts (.ok sampleBody))
  obtain ⟨run, later, begun, played, running, inFlight, stored, wiped, deleted, refused⟩ :
      ∃ run later, play start (midway 0 1) = some run ∧
        play run (afterwards 0 1 2) = some later ∧ run.world.state.running = true ∧
        InFlight run 1 ∧ Stored run.world 0 .deleted ∧
        Ends later 0 (.ok (some { status := 200, json := some ("status", "deleted") })) ∧
        Ends later 1 (.ok (some { status := 409, json := some ("error", "Sandbox was deleted") })) ∧
        Ends later 2
          (.ok (some { status := 409, json := some ("error", "Sandbox name already exists") })) :=
    ⟨_, _, rfl, rfl, rfl, ⟨_, _, rfl⟩, List.mem_of_getLast? rfl, rfl, rfl, rfl⟩
  have before := play_reaches (midway 0 1) begun
  have rest := play_reaches (afterwards 0 1 2) played
  obtain ⟨status, answers, kept, down⟩ := (stays_deleted before).2 stored rest
  have pending : Pending run 2 := by
    cases begun
    exact ⟨_, rfl⟩
  refine ⟨run, later, _, _, before, running, inFlight, stored, rest, deleted,
    kept inFlight deleted, refused, answers rfl pending refused, status, down ?_⟩
  intro task ⟨op, resume, waits⟩
  match task with
  | 0 => cases wiped.symm.trans waits
  | 1 => cases deleted.symm.trans waits
  | 2 => cases refused.symm.trans waits

/-- A `PUT` after the `DELETE` whose body cannot be read raises. -/
theorem unreadable_put_raises :
    ¬ ∀ (run later : Sandbox.Run (Fin 3)) (body : Except Failure Body) outcome,
        Sandbox.Reaches (Sandbox.initial [] (deleteAndPuts body)) run →
          Stored run.world 0 .deleted → Sandbox.Reaches run later → Pending run 1 →
            Ends later 1 outcome →
              ∃ answer, outcome = .ok (some answer) ∧
                (answer.status = 409 ∨ answer.status = 400) := by
  intro refused
  let body : Except Failure Body := .error .unreadable
  let start := Sandbox.initial [] (deleteAndPuts body)
  obtain ⟨run, begun, stored⟩ : ∃ run,
      play start (.replicate 2 (0, .succeeds)) = some run ∧ Stored run.world 0 .deleted :=
    ⟨_, rfl, List.mem_of_getLast? rfl⟩
  obtain ⟨later, played, pending, ended⟩ : ∃ later,
      play run (.replicate 2 (0, .succeeds) ++ .replicate 2 (1, .succeeds)) = some later ∧
        Pending run 1 ∧ Ends later 1 (.error .unreadable) := by
    cases begun
    exact ⟨_, rfl, ⟨_, rfl⟩, rfl⟩
  obtain ⟨_, ⟨⟩, _⟩ := refused run later body (.error .unreadable)
    (play_reaches _ begun) stored (play_reaches _ played) pending ended

end Drukbox.Cloudflare
