import Drukbox.Await.Machine
import Drukbox.Database.Table
import Mathlib.Data.Nat.Notation

/-!
# The shared poller of the device waiters

`_DeviceWaiter` as a machine whose steps are the sections between two `await`s: of the calls of
`wait_for`, and of the poll tasks.  A call starts a poll task where none runs, and a poll task ends
where no future is registered or the tailnet refuses it.
-/

namespace Drukbox.Networking

open Await

structure TailscaleDevice where
  id : String
  hostname : String
  deriving DecidableEq, Repr

/-- What a future holds once it is done. -/
inductive Outcome
  | device (id : String)
  /-- `NetworkAuthError`. -/
  | refused
  /-- The timeout passed, or the call was cancelled. -/
  | cancelled
  deriving DecidableEq, Repr

/-- A call of `wait_for`, with its future. -/
structure Call where
  hostName : String
  outcome : Option Outcome := none
  ended : Bool := false
  deriving DecidableEq, Repr

/-- How far a poll task has come. -/
inductive Poll
  /-- `create_task` was called. -/
  | scheduled
  /-- It awaits `list_devices`. -/
  | listing
  /-- It awaits `asyncio.sleep`. -/
  | sleeping
  | ended
  deriving DecidableEq, Repr

/-- How `list_devices` ends. -/
inductive Listing
  | devices (devices : List TailscaleDevice)
  /-- `NetworkAuthError`. -/
  | refused
  /-- Any other `Exception`. -/
  | failed
  deriving DecidableEq, Repr

/-- `_DeviceWaiter`, with its calls and poll tasks by number, and the listings so far. -/
structure DeviceWaiter where
  /-- `_waiters`: the call whose future a host name has. -/
  waiters : Table String ℕ := .empty
  /-- `_task`. -/
  task : Option ℕ := none
  calls : ℕ → Option Call := fun _ => none
  made : ℕ := 0
  polls : ℕ → Option Poll := fun _ => none
  started : ℕ := 0
  listings : List (List TailscaleDevice) := []

/-- What happens next. -/
inductive Event
  /-- `wait_for` begins. -/
  | waits (hostName : String)
  /-- The timeout of a call passes, or it is cancelled: its future is cancelled unless it is done.
  -/
  | cancels (call : ℕ)
  /-- A call whose future is done goes on to its end. -/
  | resumes (call : ℕ)
  /-- A poll task comes to the test of its loop. -/
  | tests (poll : ℕ)
  | lists (poll : ℕ) (listing : Listing)
  deriving DecidableEq, Repr

/-- `set_result`, `set_exception` or `cancel`, unless the future is done. -/
def Call.resolve (call : Call) (outcome : Outcome) : Call :=
  if call.outcome = none then { call with outcome := some outcome } else call

/-- Resolve the future of one call. -/
def settle (calls : ℕ → Option Call) (number : ℕ) (outcome : Outcome) : ℕ → Option Call :=
  Function.update calls number ((calls number).map fun call => call.resolve outcome)

/-- One turn of the loop over the devices. -/
def deliver (waiters : Table String ℕ) (calls : ℕ → Option Call) (device : TailscaleDevice) :
    ℕ → Option Call :=
  match waiters.get device.hostname with
  | some number => settle calls number (.device device.id)
  | none => calls

def failWaiters (waiters : Table String ℕ) (calls : ℕ → Option Call) : ℕ → Option Call :=
  fun number =>
    (calls number).map fun call =>
      if waiters.get call.hostName = some number then call.resolve .refused else call

namespace DeviceWaiter

variable (waiter : DeviceWaiter)

/-- `not self._task or self._task.done()`. -/
def idle : Bool :=
  waiter.task.all fun poll => waiter.polls poll == some .ended

/-- `asyncio.create_task(self._poll())`. -/
def startPoll : DeviceWaiter :=
  { waiter with
    task := some waiter.started
    polls := Function.update waiter.polls waiter.started (some .scheduled)
    started := waiter.started + 1 }

/-- The future of a new call is registered. -/
def register (hostName : String) : DeviceWaiter :=
  { waiter with
    waiters := waiter.waiters.insert hostName waiter.made
    calls := Function.update waiter.calls waiter.made (some { hostName })
    made := waiter.made + 1 }

/-- Write how far a poll task has come. -/
def setPoll (poll : ℕ) (stage : Poll) : DeviceWaiter :=
  { waiter with polls := Function.update waiter.polls poll (some stage) }

/-- A poll task meets the end of `list_devices`. -/
def listed (poll : ℕ) : Listing → DeviceWaiter
  | .devices devices =>
      { waiter with
        calls := devices.foldl (deliver waiter.waiters) waiter.calls
        listings := waiter.listings ++ [devices] }.setPoll poll .sleeping
  | .failed => waiter.setPoll poll .sleeping
  | .refused =>
      { waiter with calls := failWaiters waiter.waiters waiter.calls }.setPoll poll .ended

/-- Execute one event, if it can happen. -/
def next : Event → Option DeviceWaiter
  | .waits hostName =>
      some ((if waiter.idle then waiter.startPoll else waiter).register hostName)
  | .cancels number =>
      match waiter.calls number with
      | some call =>
          if call.ended then none
          else some { waiter with calls := settle waiter.calls number .cancelled }
      | none => none
  | .resumes number =>
      match waiter.calls number with
      | some call =>
          if call.ended ∨ call.outcome = none then none
          else
            some
              { waiter with
                waiters := waiter.waiters.erase call.hostName
                calls := Function.update waiter.calls number (some { call with ended := true }) }
      | none => none
  | .tests poll =>
      if waiter.polls poll = some .scheduled ∨ waiter.polls poll = some .sleeping then
        some (waiter.setPoll poll (if waiter.waiters.keys = ∅ then .ended else .listing))
      else
        none
  | .lists poll listing =>
      if waiter.polls poll = some .listing then some (waiter.listed poll listing) else none

/-- Any number of calls over one waiter. -/
def machine : Machine DeviceWaiter Event where
  next := next

/-- No two calls have one host name. -/
def Distinct : Event → Prop
  | .waits hostName => ∀ number call, waiter.calls number = some call → call.hostName ≠ hostName
  | .cancels _ | .resumes _ | .tests _ | .lists _ _ => True

/-- A poll task that has not ended. -/
def Running (poll : ℕ) : Prop :=
  ∃ stage, waiter.polls poll = some stage ∧ stage ≠ .ended

structure Sound : Prop where
  /-- The numbers of the poll tasks. -/
  numbered : ∀ poll, waiter.started ≤ poll → waiter.polls poll = none
  /-- `_task` is a poll task. -/
  tasked : ∀ poll, waiter.task = some poll → (waiter.polls poll).isSome
  /-- Only the task in `_task` can run. -/
  alone : ∀ poll, waiter.Running poll → waiter.task = some poll
  /-- The numbers of the calls. -/
  counted : ∀ number, waiter.made ≤ number → waiter.calls number = none
  /-- A registered future is that of a call for the host name. -/
  owned : ∀ hostName number, waiter.waiters.get hostName = some number →
    ∃ call, waiter.calls number = some call ∧ call.hostName = hostName
  /-- No two calls have one host name. -/
  distinct : ∀ number other call twin, waiter.calls number = some call →
    waiter.calls other = some twin → call.hostName = twin.hostName → number = other
  /-- The future of a call that has not ended is registered. -/
  registered : ∀ number call, waiter.calls number = some call → call.ended = false →
    waiter.waiters.get call.hostName = some number
  /-- A poll task runs while a registered future is not done. -/
  served : ∀ hostName number call, waiter.waiters.get hostName = some number →
    waiter.calls number = some call → call.outcome = none → ∃ poll, waiter.Running poll
  /-- A result was listed under the host name of its call. -/
  found : ∀ number call id, waiter.calls number = some call →
    call.outcome = some (.device id) →
      ∃ devices ∈ waiter.listings, ⟨id, call.hostName⟩ ∈ devices

end DeviceWaiter

namespace Call

variable {call : Call} {outcome : Outcome}

@[simp] theorem resolve_hostName : (call.resolve outcome).hostName = call.hostName := by
  unfold resolve
  split <;> rfl

@[simp] theorem resolve_ended : (call.resolve outcome).ended = call.ended := by
  unfold resolve
  split <;> rfl

theorem resolve_outcome_ne_none : (call.resolve outcome).outcome ≠ none := by
  unfold resolve
  split
  · simp
  · next done => exact done

theorem resolve_of_done (done : call.outcome ≠ none) : call.resolve outcome = call :=
  if_neg done

theorem resolve_of_open (waits : call.outcome = none) :
    call.resolve outcome = { call with outcome := some outcome } :=
  if_pos waits

end Call

/-- Calls that differ in what their futures hold: a future that is done stays as it is, and one that
gets done holds an outcome that `gets` admits. -/
def Resolved (gets : ℕ → Call → Outcome → Prop) (before after : ℕ → Option Call) : Prop :=
  ∀ number, after number = before number ∨
    ∃ call outcome, before number = some call ∧ call.outcome = none ∧ gets number call outcome ∧
      after number = some { call with outcome := some outcome }

namespace Resolved

variable {gets : ℕ → Call → Outcome → Prop} {before middle after : ℕ → Option Call}

theorem refl (calls : ℕ → Option Call) : Resolved gets calls calls :=
  fun _ => .inl rfl

theorem trans (first : Resolved gets before middle) (second : Resolved gets middle after) :
    Resolved gets before after := by
  intro number
  rcases first number with same | ⟨call, outcome, was, waits, got, is⟩
  · rcases second number with still | ⟨call, outcome, was, waits, got, is⟩
    · exact .inl (still.trans same)
    · exact .inr ⟨call, outcome, same ▸ was, waits, got, is⟩
  · rcases second number with still | ⟨other, -, later, open_later, -⟩
    · exact .inr ⟨call, outcome, was, waits, got, still.trans is⟩
    · rw [is] at later
      obtain rfl := Option.some.inj later
      cases open_later

theorem settle {number : ℕ} {outcome : Outcome}
    (got : ∀ call, before number = some call → call.outcome = none → gets number call outcome) :
    Resolved gets before (settle before number outcome) := by
  intro other
  by_cases same : other = number
  · subst same
    cases present : before other with
    | none => exact .inl (by simp [Networking.settle, present])
    | some call =>
        by_cases waits : call.outcome = none
        · refine .inr ⟨call, outcome, rfl, waits, got call present waits, ?_⟩
          simp [Networking.settle, present, Call.resolve_of_open waits]
        · exact .inl (by simp [Networking.settle, present, Call.resolve_of_done waits])
  · exact .inl (by simp [Networking.settle, same])

/-- Every call is there as before, up to what its future holds. -/
theorem cases (resolved : Resolved gets before after) {number : ℕ} {call : Call}
    (present : after number = some call) :
    ∃ old, before number = some old ∧ call.hostName = old.hostName ∧ call.ended = old.ended ∧
      (call = old ∨ ∃ outcome, old.outcome = none ∧ call.outcome = some outcome ∧
        gets number old outcome) := by
  rcases resolved number with same | ⟨old, outcome, was, waits, got, is⟩
  · exact ⟨call, same ▸ present, rfl, rfl, .inl rfl⟩
  · rw [is] at present
    obtain rfl := Option.some.inj present
    exact ⟨old, was, rfl, rfl, .inr ⟨outcome, waits, rfl, got⟩⟩

theorem none_iff (resolved : Resolved gets before after) (number : ℕ) :
    after number = none ↔ before number = none := by
  rcases resolved number with same | ⟨old, outcome, was, -, -, is⟩
  · rw [same]
  · simp [was, is]

end Resolved

theorem deliver_resolved (waiters : Table String ℕ) (devices : List TailscaleDevice)
    (calls : ℕ → Option Call) :
    Resolved
      (fun number _ outcome => ∃ device ∈ devices,
        waiters.get device.hostname = some number ∧ outcome = .device device.id)
      calls (devices.foldl (deliver waiters) calls) := by
  induction devices generalizing calls with
  | nil => exact .refl calls
  | cons device rest ih =>
      have turn : Resolved
          (fun number _ outcome => ∃ other ∈ device :: rest,
            waiters.get other.hostname = some number ∧ outcome = .device other.id)
          calls (deliver waiters calls device) := by
        unfold deliver
        split
        · next number registered =>
            exact .settle fun call _ _ => ⟨device, List.mem_cons_self, registered, rfl⟩
        · exact .refl calls
      refine turn.trans fun number => ?_
      rcases ih (deliver waiters calls device) number with same |
        ⟨call, outcome, was, waits, ⟨other, member, registered, is⟩, after⟩
      · exact .inl same
      · exact .inr
          ⟨call, outcome, was, waits, ⟨other, List.mem_cons_of_mem _ member, registered, is⟩, after⟩

theorem failWaiters_resolved (waiters : Table String ℕ) (calls : ℕ → Option Call) :
    Resolved
      (fun number call outcome => waiters.get call.hostName = some number ∧ outcome = .refused)
      calls (failWaiters waiters calls) := by
  intro number
  cases present : calls number with
  | none => exact .inl (by simp [failWaiters, present])
  | some call =>
      by_cases registered : waiters.get call.hostName = some number
      · by_cases waits : call.outcome = none
        · refine .inr ⟨call, .refused, rfl, waits, ⟨registered, rfl⟩, ?_⟩
          simp [failWaiters, present, registered, Call.resolve_of_open waits]
        · exact .inl (by simp [failWaiters, present, Call.resolve_of_done waits])
      · exact .inl (by simp [failWaiters, present, registered])

namespace DeviceWaiter

variable {waiter before after : DeviceWaiter} {poll number : ℕ} {event : Event}

theorem running_setPoll {other : ℕ} {stage : Poll} :
    (waiter.setPoll poll stage).Running other ↔
      if other = poll then stage ≠ .ended else waiter.Running other := by
  by_cases same : other = poll
  · simp [Running, setPoll, same]
  · simp [Running, setPoll, same]

namespace Sound

theorem initial : ({} : DeviceWaiter).Sound where
  numbered _ _ := rfl
  tasked poll task := by simp at task
  alone poll running := by simp [Running] at running
  counted _ _ := rfl
  owned hostName number present := by simp at present
  distinct number other call twin present := by simp at present
  registered number call present := by simp at present
  served hostName number call present := by simp at present
  found number call id present := by simp at present

theorem resolve {gets : ℕ → Call → Outcome → Prop} {calls : ℕ → Option Call}
    {listings : List (List TailscaleDevice)} (sound : waiter.Sound)
    (resolved : Resolved gets waiter.calls calls) (grows : waiter.listings ⊆ listings)
    (got : ∀ number call id, waiter.calls number = some call → gets number call (.device id) →
      ∃ devices ∈ listings, ⟨id, call.hostName⟩ ∈ devices) :
    Sound { waiter with calls, listings } where
  numbered := sound.numbered
  tasked := sound.tasked
  alone := sound.alone
  counted number above := (resolved.none_iff number).mpr (sound.counted number above)
  owned hostName number present := by
    obtain ⟨call, was, named⟩ := sound.owned hostName number present
    rcases resolved number with same | ⟨old, outcome, old_was, -, -, is⟩
    · exact ⟨call, same.trans was, named⟩
    · obtain rfl : old = call := Option.some.inj (old_was.symm.trans was)
      exact ⟨_, is, named⟩
  distinct number other call twin present present_too same := by
    obtain ⟨old, was, named, -, -⟩ := resolved.cases present
    obtain ⟨old_twin, was_too, named_too, -, -⟩ := resolved.cases present_too
    exact sound.distinct number other old old_twin was was_too (named ▸ named_too ▸ same)
  registered number call present runs := by
    obtain ⟨old, was, named, ended, -⟩ := resolved.cases present
    rw [named]
    exact sound.registered number old was (ended ▸ runs)
  served hostName number call registered present waits := by
    obtain ⟨old, was, -, -, rfl | ⟨outcome, -, done, -⟩⟩ := resolved.cases present
    · exact sound.served hostName number call registered was waits
    · rw [waits] at done
      cases done
  found number call id present holds := by
    obtain ⟨old, was, named, -, rfl | ⟨outcome, -, done, gets⟩⟩ := resolved.cases present
    · obtain ⟨devices, listed, member⟩ := sound.found number call id was holds
      exact ⟨devices, grows listed, member⟩
    · obtain rfl : outcome = .device id := Option.some.inj (done.symm.trans holds)
      rw [named]
      exact got number old id was gets

/-- A running poll task goes on, or ends where no registered future waits. -/
theorem setPoll {stage : Poll} (sound : waiter.Sound) (running : waiter.Running poll)
    (quiet : stage = .ended → ∀ hostName number call, waiter.waiters.get hostName = some number →
      waiter.calls number = some call → call.outcome ≠ none) :
    (waiter.setPoll poll stage).Sound where
  numbered other above := by
    have different : other ≠ poll := by
      rintro rfl
      obtain ⟨stage, present, -⟩ := running
      rw [sound.numbered other above] at present
      cases present
    simpa [DeviceWaiter.setPoll, different] using sound.numbered other above
  tasked other task := by
    by_cases same : other = poll
    · simp [DeviceWaiter.setPoll, same]
    · simpa [DeviceWaiter.setPoll, same] using sound.tasked other task
  alone other runs := by
    rw [running_setPoll] at runs
    split at runs
    · next same => exact same ▸ sound.alone poll running
    · exact sound.alone other runs
  counted := sound.counted
  owned := sound.owned
  distinct := sound.distinct
  registered := sound.registered
  served hostName number call registered present waits := by
    refine ⟨poll, running_setPoll.mpr ?_⟩
    rw [if_pos rfl]
    intro ended
    exact quiet ended hostName number call registered present waits
  found := sound.found

theorem startPoll (sound : waiter.Sound) (idle : waiter.idle = true) :
    waiter.startPoll.Sound := by
  have quiet (poll : ℕ) : ¬ waiter.Running poll := by
    rintro running
    obtain ⟨stage, present, going⟩ := running
    have done := (Option.all_eq_true _ _).mp idle poll (sound.alone poll ⟨stage, present, going⟩)
    rw [beq_iff_eq, present] at done
    exact going (Option.some.inj done)
  have running {other : ℕ} (runs : waiter.startPoll.Running other) : other = waiter.started := by
    by_contra different
    refine quiet other ?_
    simpa [Running, DeviceWaiter.startPoll, different] using runs
  exact {
    numbered := fun other above => by
      have different : other ≠ waiter.started := by
        simp only [DeviceWaiter.startPoll] at above
        omega
      have past : waiter.started ≤ other := by
        simp only [DeviceWaiter.startPoll] at above
        omega
      simpa [DeviceWaiter.startPoll, different] using sound.numbered other past
    tasked := fun other task => by
      obtain rfl : waiter.started = other := Option.some.inj task
      simp [DeviceWaiter.startPoll]
    alone := fun other runs => congrArg some (running runs).symm
    counted := sound.counted
    owned := sound.owned
    distinct := sound.distinct
    registered := sound.registered
    served := fun _ _ _ _ _ _ =>
      ⟨waiter.started, .scheduled, by simp [DeviceWaiter.startPoll], by simp⟩
    found := sound.found }

theorem running_startPoll : waiter.startPoll.Running waiter.started :=
  ⟨.scheduled, by simp [DeviceWaiter.startPoll], by simp⟩

theorem running_of_busy (sound : waiter.Sound) (busy : waiter.idle = false) :
    ∃ poll, waiter.Running poll := by
  cases task : waiter.task with
  | none => simp [idle, task] at busy
  | some poll =>
      obtain ⟨stage, present⟩ := Option.isSome_iff_exists.mp (sound.tasked poll task)
      refine ⟨poll, stage, present, ?_⟩
      rintro rfl
      simp [idle, task, present] at busy

theorem register {hostName : String} (sound : waiter.Sound)
    (running : ∃ poll, waiter.Running poll)
    (new : ∀ number call, waiter.calls number = some call → call.hostName ≠ hostName) :
    (waiter.register hostName).Sound := by
  have past {number : ℕ} {call : Call} (present : waiter.calls number = some call) :
      number ≠ waiter.made := by
    rintro rfl
    rw [sound.counted waiter.made (Nat.le_refl _)] at present
    cases present
  have calls (number : ℕ) : (waiter.register hostName).calls number =
      if number = waiter.made then some { hostName } else waiter.calls number := by
    simp [DeviceWaiter.register, Function.update_apply]
  have waiters (other : String) : (waiter.register hostName).waiters.get other =
      if other = hostName then some waiter.made else waiter.waiters.get other := by
    simp [DeviceWaiter.register, Table.get_insert]
  exact {
    numbered := sound.numbered
    tasked := sound.tasked
    alone := sound.alone
    counted := fun number above => by
      simp only [DeviceWaiter.register] at above
      rw [calls, if_neg (by omega)]
      exact sound.counted number (by omega)
    owned := fun other number present => by
      rw [waiters] at present
      split at present
      · next same =>
          obtain rfl := Option.some.inj present
          exact ⟨{ hostName }, by rw [calls, if_pos rfl], same.symm⟩
      · obtain ⟨call, was, named⟩ := sound.owned other number present
        exact ⟨call, by rw [calls, if_neg (past was), was], named⟩
    distinct := fun number other call twin present present_too same => by
      rw [calls] at present present_too
      split at present <;> split at present_too
      · next first second => exact first.trans second.symm
      · obtain rfl := Option.some.inj present
        exact absurd same.symm (new other twin present_too)
      · obtain rfl := Option.some.inj present_too
        exact absurd same (new number call present)
      · exact sound.distinct number other call twin present present_too same
    registered := fun number call present runs => by
      rw [calls] at present
      rw [waiters]
      split at present
      · next same =>
          obtain rfl := Option.some.inj present
          rw [if_pos rfl, same]
      · rw [if_neg (new number call present)]
        exact sound.registered number call present runs
    served := fun _ _ _ _ _ _ => running
    found := fun number call id present holds => by
      rw [calls] at present
      split at present
      · obtain rfl := Option.some.inj present
        cases holds
      · exact sound.found number call id present holds }

theorem resume {call : Call} (sound : waiter.Sound) (present : waiter.calls number = some call) :
    Sound
      { waiter with
        waiters := waiter.waiters.erase call.hostName
        calls := Function.update waiter.calls number (some { call with ended := true }) } := by
  have calls {other : ℕ} {twin : Call}
      (is : Function.update waiter.calls number (some { call with ended := true }) other =
        some twin) :
      ∃ old, waiter.calls other = some old ∧ twin.hostName = old.hostName ∧
        twin.outcome = old.outcome ∧ (twin.ended = false → other ≠ number ∧ twin = old) := by
    by_cases same : other = number
    · subst same
      rw [Function.update_self] at is
      obtain rfl := Option.some.inj is
      exact ⟨call, present, rfl, rfl, fun runs => by cases runs⟩
    · rw [Function.update_of_ne same] at is
      exact ⟨twin, is, rfl, rfl, fun _ => ⟨same, rfl⟩⟩
  have waiters {hostName : String} {other : ℕ}
      (registered : (waiter.waiters.erase call.hostName).get hostName = some other) :
      waiter.waiters.get hostName = some other := by
    rw [Table.get_erase] at registered
    split at registered
    · cases registered
    · exact registered
  exact {
    numbered := sound.numbered
    tasked := sound.tasked
    alone := sound.alone
    counted := fun other above => by
      have different : other ≠ number := by
        rintro rfl
        rw [sound.counted other above] at present
        cases present
      exact (Function.update_of_ne different ..).trans (sound.counted other above)
    owned := fun hostName other registered => by
      obtain ⟨old, was, named⟩ := sound.owned hostName other (waiters registered)
      by_cases same : other = number
      · subst same
        obtain rfl : old = call := Option.some.inj (was.symm.trans present)
        exact ⟨_, Function.update_self .., named⟩
      · exact ⟨old, (Function.update_of_ne same ..).trans was, named⟩
    distinct := fun first second one two is is_too same => by
      obtain ⟨old, was, named, -, -⟩ := calls is
      obtain ⟨old_too, was_too, named_too, -, -⟩ := calls is_too
      exact sound.distinct first second old old_too was was_too (named ▸ named_too ▸ same)
    registered := fun other twin is runs => by
      obtain ⟨old, was, -, -, unchanged⟩ := calls is
      obtain ⟨different, rfl⟩ := unchanged runs
      rw [Table.get_erase, if_neg]
      · exact sound.registered other twin was runs
      · exact fun same => different (sound.distinct other number twin call was present same)
    served := fun hostName other twin registered is waits => by
      obtain ⟨old, was, -, outcome, -⟩ := calls is
      exact sound.served hostName other old (waiters registered) was (outcome ▸ waits)
    found := fun other twin id is holds => by
      obtain ⟨old, was, named, outcome, -⟩ := calls is
      rw [named]
      exact sound.found other old id was (outcome ▸ holds) }

theorem next (sound : before.Sound) (distinct : before.Distinct event)
    (stepped : before.next event = some after) : after.Sound := by
  cases event with
  | waits hostName =>
      obtain rfl := Option.some.inj stepped
      cases idle : before.idle with
      | true =>
          rw [if_pos rfl]
          exact (sound.startPoll idle).register ⟨_, running_startPoll⟩ distinct
      | false =>
          rw [if_neg Bool.false_ne_true]
          exact sound.register (sound.running_of_busy idle) distinct
  | cancels number =>
      simp only [DeviceWaiter.next] at stepped
      split at stepped
      · split at stepped
        · cases stepped
        · obtain rfl := Option.some.inj stepped
          have cancelled : Resolved (fun _ _ outcome => outcome = .cancelled) before.calls
              (settle before.calls number .cancelled) := .settle fun _ _ _ => rfl
          exact sound.resolve cancelled (List.Subset.refl _) (by simp)
      · cases stepped
  | resumes number =>
      simp only [DeviceWaiter.next] at stepped
      split at stepped
      · next call present =>
          split at stepped
          · cases stepped
          · obtain rfl := Option.some.inj stepped
            exact sound.resume present
      · cases stepped
  | tests poll =>
      simp only [DeviceWaiter.next] at stepped
      split at stepped
      · next waits =>
          obtain rfl := Option.some.inj stepped
          have running : before.Running poll := by
            rcases waits with scheduled | sleeping
            · exact ⟨_, scheduled, by simp⟩
            · exact ⟨_, sleeping, by simp⟩
          refine sound.setPoll running fun ended hostName number call registered _ _ => ?_
          split at ended
          · next empty =>
              have member := (before.waiters.mem_keys hostName).mpr (by simp [registered])
              rw [empty] at member
              exact absurd member (Finset.notMem_empty hostName)
          · cases ended
      · cases stepped
  | lists poll listing =>
      simp only [DeviceWaiter.next] at stepped
      split at stepped
      · next lists =>
          obtain rfl := Option.some.inj stepped
          have running : before.Running poll := ⟨_, lists, by simp⟩
          cases listing with
          | devices devices =>
              have delivered := deliver_resolved before.waiters devices before.calls
              have grown := sound.resolve delivered
                (List.subset_append_left before.listings [devices]) ?_
              · exact grown.setPoll running (by simp)
              · rintro number call id present ⟨device, member, registered, is⟩
                obtain ⟨owner, was, named⟩ := sound.owned device.hostname number registered
                obtain rfl : call = owner := Option.some.inj (present.symm.trans was)
                obtain rfl := Outcome.device.inj is
                exact ⟨devices, by simp, named ▸ member⟩
          | failed => exact sound.setPoll running (by simp)
          | refused =>
              have failed := failWaiters_resolved before.waiters before.calls
              refine (sound.resolve failed (List.Subset.refl _) (by simp)).setPoll running ?_
              intro _ hostName number call registered present
              have registered : before.waiters.get hostName = some number := registered
              obtain ⟨owner, was, named⟩ := sound.owned hostName number registered
              have done : call = owner.resolve .refused := by
                simpa [failWaiters, was, named, registered] using present.symm
              exact done ▸ Call.resolve_outcome_ne_none
      · cases stepped

end Sound

/-- Every run keeps `_waiters`, the calls and the poll tasks sound. -/
theorem sound_of_reaches (reach : machine.Reaches Distinct {} waiter) : waiter.Sound :=
  reach.keeps Sound (fun sound distinct stepped => sound.next distinct stepped) Sound.initial

theorem ended_next (ended : before.polls poll = some .ended)
    (fresh : ∀ other, before.started ≤ other → before.polls other = none)
    (stepped : before.next event = some after) : after.polls poll = some .ended := by
  have written {other : ℕ} {stage : Poll} (different : before.polls other ≠ some .ended) :
      (before.setPoll other stage).polls poll = some .ended := by
    have apart : poll ≠ other := by
      rintro rfl
      exact different ended
    simpa [setPoll, apart] using ended
  cases event with
  | waits hostName =>
      obtain rfl := Option.some.inj stepped
      cases idle : before.idle with
      | true =>
          have apart : poll ≠ before.started := by
            rintro rfl
            rw [fresh _ (Nat.le_refl _)] at ended
            cases ended
          simpa [register, startPoll, apart] using ended
      | false => exact ended
  | cancels number =>
      simp only [DeviceWaiter.next] at stepped
      split at stepped
      · split at stepped
        · cases stepped
        · obtain rfl := Option.some.inj stepped
          exact ended
      · cases stepped
  | resumes number =>
      simp only [DeviceWaiter.next] at stepped
      split at stepped
      · split at stepped
        · cases stepped
        · obtain rfl := Option.some.inj stepped
          exact ended
      · cases stepped
  | tests other =>
      simp only [DeviceWaiter.next] at stepped
      split at stepped
      · next waits =>
          obtain rfl := Option.some.inj stepped
          apply written
          rcases waits with scheduled | sleeping
          · simp [scheduled]
          · simp [sleeping]
      · cases stepped
  | lists other listing =>
      simp only [DeviceWaiter.next] at stepped
      split at stepped
      · next lists =>
          obtain rfl := Option.some.inj stepped
          have kept (stage : Poll) : (before.setPoll other stage).polls poll = some .ended :=
            written (by simp [lists])
          cases listing with
          | devices devices => exact kept .sleeping
          | failed => exact kept .sleeping
          | refused => exact kept .ended
      · cases stepped

theorem ended_of_reaches (reach : machine.Reaches Distinct before after) (sound : before.Sound)
    (ended : before.polls poll = some .ended) : after.polls poll = some .ended := by
  have both := reach.keeps (fun state => state.Sound ∧ state.polls poll = some .ended)
    (fun holds distinct stepped =>
      ⟨holds.1.next distinct stepped, ended_next holds.2 holds.1.numbered stepped⟩)
    ⟨sound, ended⟩
  exact both.2

/-- A refusal fails the futures that are registered and not done, and ends its poll task. -/
theorem refused_next (stepped : before.next (.lists poll .refused) = some after) :
    after.polls poll = some .ended ∧
      ∀ number, after.calls number = (before.calls number).map fun call =>
        if before.waiters.get call.hostName = some number ∧ call.outcome = none then
          { call with outcome := some .refused }
        else call := by
  simp only [DeviceWaiter.next] at stepped
  split at stepped
  · obtain rfl := Option.some.inj stepped
    refine ⟨by simp [listed, setPoll], fun number => ?_⟩
    cases present : before.calls number with
    | none => simp [listed, setPoll, failWaiters, present]
    | some call =>
        by_cases registered : before.waiters.get call.hostName = some number
        · by_cases waits : call.outcome = none
          · simp [listed, setPoll, failWaiters, present, registered, waits,
              Call.resolve_of_open waits]
          · simp [listed, setPoll, failWaiters, present, waits, Call.resolve_of_done waits]
        · simp [listed, setPoll, failWaiters, present, registered]
  · cases stepped

/-- Behind a refusal, only a poll task that has started since can run. -/
theorem new_of_running {final : DeviceWaiter} {other : ℕ} (sound : before.Sound)
    (stepped : before.next (.lists poll .refused) = some after)
    (reach : machine.Reaches Distinct after final) (running : final.Running other) :
    after.polls other = none := by
  have distinct : before.Distinct (.lists poll .refused) := trivial
  have after_sound : after.Sound := sound.next distinct stepped
  cases stage : after.polls other with
  | none => rfl
  | some was =>
      have ended : was = .ended := by
        by_contra going
        have same := after_sound.alone other ⟨was, stage, going⟩
        have before_running : before.Running poll := by
          simp only [DeviceWaiter.next] at stepped
          split at stepped
          · next lists => exact ⟨_, lists, by simp⟩
          · cases stepped
        have task : after.task = before.task := by
          simp only [DeviceWaiter.next] at stepped
          split at stepped
          · obtain rfl := Option.some.inj stepped
            rfl
          · cases stepped
        rw [task, sound.alone poll before_running] at same
        obtain rfl := Option.some.inj same
        rw [(refused_next stepped).1] at stage
        exact going (Option.some.inj stage).symm
      obtain ⟨is, present, going⟩ := running
      rw [ended_of_reaches reach after_sound (ended ▸ stage)] at present
      exact absurd (Option.some.inj present).symm going

/-- No waiter is lost: in every run whose calls have host names of their own, a poll task runs while
a future is not done, and there is one at most; a result was listed under its host name; a refusal
fails the registered futures that are not done, and a later call gets a new poll task. -/
theorem no_lost_waiter (waiter : DeviceWaiter) (reach : machine.Reaches Distinct {} waiter) :
    (∀ number call, waiter.calls number = some call → call.ended = false →
      waiter.waiters.get call.hostName = some number) ∧
    (∀ hostName number call, waiter.waiters.get hostName = some number →
      waiter.calls number = some call → call.outcome = none →
        ∃ poll, waiter.task = some poll ∧ waiter.Running poll) ∧
    (∀ number call id, waiter.calls number = some call → call.outcome = some (.device id) →
      ∃ devices ∈ waiter.listings, ⟨id, call.hostName⟩ ∈ devices) ∧
    (∀ poll other, waiter.Running poll → waiter.Running other → poll = other) ∧
    ∀ poll after, waiter.next (.lists poll .refused) = some after →
      (after.polls poll = some .ended ∧
        ∀ number, after.calls number = (waiter.calls number).map fun call =>
          if waiter.waiters.get call.hostName = some number ∧ call.outcome = none then
            { call with outcome := some .refused }
          else call) ∧
      ∀ final, machine.Reaches Distinct after final →
        ∀ hostName number call, after.calls number = none →
          final.waiters.get hostName = some number → final.calls number = some call →
            call.outcome = none →
              ∃ new, final.task = some new ∧ final.Running new ∧ after.polls new = none := by
  have sound := sound_of_reaches reach
  refine ⟨sound.registered, ?_, sound.found, ?_, ?_⟩
  · intro hostName number call registered present waits
    obtain ⟨poll, running⟩ := sound.served hostName number call registered present waits
    exact ⟨poll, sound.alone poll running, running⟩
  · intro poll other running running_too
    exact Option.some.inj ((sound.alone poll running).symm.trans (sound.alone other running_too))
  · intro poll after stepped
    refine ⟨refused_next stepped, fun final later hostName number call _ registered present waits =>
      ?_⟩
    have distinct : waiter.Distinct (.lists poll .refused) := trivial
    have final_sound : final.Sound :=
      later.keeps Sound (fun sound distinct moved => sound.next distinct moved)
        (sound.next distinct stepped)
    obtain ⟨new, running⟩ := final_sound.served hostName number call registered present waits
    exact ⟨new, final_sound.alone new running, running,
      new_of_running sound stepped later running⟩

/-- A listing had the device of one of two calls, and the next one is awaited. -/
def listedOnce : DeviceWaiter :=
  (machine.run {}
    [.waits "sb-a", .waits "sb-b", .tests 0, .lists 0 (.devices [⟨"d1", "sb-a"⟩]),
      .tests 0]).getD {}

/-- The next listing is refused, and a third call begins. -/
theorem no_lost_waiter_refused :
    ∃ waiter after final, machine.Reaches Distinct {} waiter ∧
      waiter.calls 0 = some { hostName := "sb-a", outcome := some (.device "d1") } ∧
      (∃ devices ∈ waiter.listings, ⟨"d1", "sb-a"⟩ ∈ devices) ∧
      (∃ poll, waiter.task = some poll ∧ waiter.Running poll) ∧
      waiter.next (.lists 0 .refused) = some after ∧ after.polls 0 = some .ended ∧
      after.calls 1 = some { hostName := "sb-b", outcome := some .refused } ∧
      machine.Reaches Distinct after final ∧
      ∃ new, final.task = some new ∧ final.Running new ∧ after.polls new = none := by
  have waits : machine.Reaches Distinct {} listedOnce :=
    .head ⟨.waits "sb-a", by simp [Distinct], rfl⟩ <|
    .head ⟨.waits "sb-b", by
      intro number call present
      obtain _ | number := number <;> cases present
      decide, rfl⟩ <|
    .head ⟨.tests 0, trivial, rfl⟩ <|
    .head ⟨.lists 0 (.devices [⟨"d1", "sb-a"⟩]), trivial, rfl⟩ <|
    .single ⟨.tests 0, trivial, rfl⟩
  have kept := no_lost_waiter listedOnce waits
  obtain ⟨⟨ended, failed⟩, anew⟩ := kept.2.2.2.2 0 _ rfl
  have later : machine.Step Distinct (.waits "sb-c") (listedOnce.listed 0 .refused) _ := ⟨by
      intro number call present
      obtain _ | _ | number := number <;> cases present <;> decide, rfl⟩
  refine ⟨_, _, _, waits, rfl, kept.2.2.1 0 _ "d1" rfl rfl, kept.2.1 "sb-b" 1 _ rfl rfl rfl, rfl,
    ended, failed 1, .single ⟨_, later⟩, anew _ (.single ⟨_, later⟩) "sb-c" 2 _ rfl rfl rfl rfl⟩

end DeviceWaiter

end Drukbox.Networking
