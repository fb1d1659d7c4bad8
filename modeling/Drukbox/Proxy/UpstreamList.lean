import Drukbox.Await.Machine
import Drukbox.Core
import Mathlib.Data.Nat.Notation
import Mathlib.Logic.Function.Basic

/-!
# The proxy's list of upstreams

`Swap.upstreams` asks the exchange anew once the list has stood for a while.  Nothing keeps two
connections from asking at a time, and the answer that comes last stays, whichever request began
first.  An outage leaves the list as it is, and where requests are answered the list is of a request
that began shortly before.
-/

namespace Drukbox.Proxy.Upstreams

open Await

/-- `UPSTREAMS_TTL`. -/
def ttl : ℤ := seconds 5

/-- `EXCHANGE_TIMEOUT`. -/
def timeout : ℤ := seconds 5

/-- How `AsyncHTTPClient.fetch` ends. -/
inductive Reply
  /-- A response, with what `set(json.loads(...))` makes of its body, or `none` for an exception. -/
  | response (code : ℕ) (body : Option (List String))
  /-- `HTTPClientError` or `OSError`. -/
  | error
  deriving DecidableEq, Repr

/-- How `Exchange.upstreams` ends. -/
inductive Answer
  | hosts (hosts : List String)
  /-- `ExchangeUnavailable`. -/
  | unavailable
  /-- Any other exception. -/
  | raised
  deriving DecidableEq, Repr

/-- `Exchange.upstreams` from the reply on. -/
def Reply.answer : Reply → Answer
  | error => .unavailable
  | response code body =>
      if code = 200 then body.elim .raised .hosts else .unavailable

/-- A request to the exchange: its number in the order of their start, and the reading of the clock
before it. -/
structure Request where
  number : ℕ
  began : ℤ
  deriving DecidableEq, Repr

/-- Who calls `upstreams`. -/
inductive Method
  | serverConnect
  | tlsClienthello (host : String)
  deriving DecidableEq, Repr

inductive Result
  /-- `server_connect` refused the connection. -/
  | refused (error : String)
  /-- `server_connect` goes on to `resolve`. -/
  | resolving
  /-- `tls_clienthello` terminates TLS, or leaves the tunnel blind. -/
  | intercepted (intercepted : Bool)
  | raised
  deriving DecidableEq, Repr

inductive Call
  | requesting (request : Request) (method : Method)
  | ended (result : Result)
  deriving DecidableEq, Repr

/-- `Swap`, with its calls `ι`. -/
structure Swap (ι : Type) where
  upstreams : List String := []
  /-- `none` is `float("-inf")`. -/
  upstreamsAt : Option ℤ := none
  upstreamsKnown : Bool := false
  /-- The number of requests so far. -/
  started : ℕ := 0
  calls : ι → Option Call := fun _ => none

namespace Swap

variable {ι : Type} [DecidableEq ι]

def setCall (swap : Swap ι) (task : ι) (call : Call) : Swap ι :=
  { swap with calls := Function.update swap.calls task (some call) }

omit [DecidableEq ι] in
/-- `time.monotonic() - self._upstreams_at > UPSTREAMS_TTL`. -/
def due (swap : Swap ι) (now : ℤ) : Bool :=
  swap.upstreamsAt.all fun instant => ttl < now - instant

omit [DecidableEq ι] in
/-- What follows `await self.upstreams()`. -/
def result (swap : Swap ι) : Method → Result
  | .serverConnect =>
      if swap.upstreamsKnown then .resolving else .refused "the exchange has not answered yet"
  | .tlsClienthello host => .intercepted (host ∈ swap.upstreams)

/-- `upstreams` returns. -/
def returned (swap : Swap ι) (task : ι) (method : Method) : Swap ι :=
  swap.setCall task (.ended (swap.result method))

/-- A call up to the request, or to its end where the list stands. -/
def begin (swap : Swap ι) (task : ι) (method : Method) (now : ℤ) : Swap ι :=
  if swap.due now then
    { swap with started := swap.started + 1 }.setCall task
      (.requesting { number := swap.started, began := now } method)
  else
    swap.returned task method

/-- A call from the end of its request on. -/
def answered (swap : Swap ι) (task : ι) (method : Method) (answer : Answer) (now : ℤ) : Swap ι :=
  match answer with
  | .hosts hosts =>
      { swap with upstreams := hosts, upstreamsKnown := true, upstreamsAt := some now }.returned
        task method
  | .unavailable => { swap with upstreamsAt := some now }.returned task method
  | .raised => swap.setCall task (.ended .raised)

end Swap

/-- What the event loop may run next, with its reading of the clock. -/
inductive Event (ι : Type)
  | begin (task : ι) (method : Method) (now : ℤ)
  /-- The request of a call ends. -/
  | reply (task : ι) (reply : Reply) (now : ℤ)
  deriving DecidableEq, Repr

namespace Event

variable {ι : Type}

/-- The reading of the clock. -/
def now : Event ι → ℤ
  | begin _ _ now | reply _ _ now => now

/-- The call that it belongs to. -/
def task : Event ι → ι
  | begin task _ _ | reply task _ _ => task

end Event

/-- `Swap`, with what happened so far. -/
structure History (ι : Type) where
  swap : Swap ι := {}
  /-- The last reading of the clock. -/
  now : Option ℤ := none
  /-- The request whose answer came last, with that answer. -/
  source : Option (Request × List String) := none
  /-- The numbers of the answered requests. -/
  answered : List ℕ := []
  /-- When a request last ended without an answer. -/
  missed : Option ℤ := none

namespace History

variable {ι : Type} [DecidableEq ι]

def next (history : History ι) : Event ι → Option (History ι)
  | .begin task method now =>
      match history.swap.calls task with
      | none => some { history with swap := history.swap.begin task method now, now := some now }
      | some _ => none
  | .reply task reply now =>
      match history.swap.calls task with
      | some (.requesting request method) =>
          let after := { history with
            swap := history.swap.answered task method reply.answer now
            now := some now }
          match reply.answer with
          | .hosts hosts =>
              some { after with
                source := some (request, hosts)
                answered := request.number :: history.answered }
          | .unavailable => some { after with missed := some now }
          | .raised => some after
      | _ => none

def machine : Machine (History ι) (Event ι) where
  next := next

omit [DecidableEq ι] in
/-- The clock does not go back, and a request ends within its timeout. -/
def Timely (history : History ι) (event : Event ι) : Prop :=
  (∀ last, history.now = some last → last ≤ event.now) ∧
    ∀ request method, history.swap.calls event.task = some (.requesting request method) →
      event.now ≤ request.began + timeout

omit [DecidableEq ι] in
/-- No request that began later than an answered one was answered before it. -/
def InOrder (history : History ι) : Event ι → Prop
  | .begin _ _ _ => True
  | .reply task reply _ => ∀ request method hosts,
      history.swap.calls task = some (.requesting request method) → reply.answer = .hosts hosts →
        ∀ number ∈ history.answered, number ≤ request.number

omit [DecidableEq ι] in
/-- The list is not replaced by the answer to a request that began before its own. -/
def Forward (before after : History ι) : Prop :=
  ∀ held, before.source = some held →
    ∃ answer, after.source = some answer ∧ held.1.number ≤ answer.1.number

structure Sound (history : History ι) : Prop where
  known : history.swap.upstreamsKnown → history.answered ≠ []
  resolving : ∀ {task}, history.swap.calls task = some (.ended .resolving) →
    history.answered ≠ []
  listed : ∀ {request hosts}, history.source = some (request, hosts) →
    history.swap.upstreams = hosts
  /-- The list stands since an outage, or since an answer to a recent request. -/
  stands : ∀ {instant}, history.swap.upstreamsAt = some instant → history.missed = some instant ∨
    ∃ answer, history.source = some answer ∧ instant ≤ answer.1.began + timeout

/-- In runs in order the list is the answer to the latest of the answered requests. -/
structure Latest (history : History ι) : Prop where
  newest : ∀ number ∈ history.answered, ∃ held, history.source = some held ∧
    number ≤ held.1.number
  member : ∀ {held}, history.source = some held → held.1.number ∈ history.answered

variable {history after : History ι} {event : Event ι}

theorem calls_returned {swap : Swap ι} {task other : ι} {method : Method} {call : Call}
    (present : (swap.returned task method).calls other = some call) :
    other = task ∧ call = .ended (swap.result method) ∨ swap.calls other = some call := by
  simp only [Swap.returned, Swap.setCall, Function.update_apply] at present
  split at present
  · next same => exact .inl ⟨same, (Option.some.inj present).symm⟩
  · exact .inr present

omit [DecidableEq ι] in
/-- `server_connect` goes on where the list is known only. -/
theorem known_of_resolving {swap : Swap ι} {method : Method}
    (resolving : swap.result method = .resolving) : swap.upstreamsKnown := by
  cases method with
  | serverConnect =>
      rw [Swap.result] at resolving
      split at resolving
      · assumption
      · contradiction
  | tlsClienthello host => contradiction

namespace Sound

theorem returned (sound : history.Sound) {task : ι} {method : Method} {now : Option ℤ} :
    { history with swap := history.swap.returned task method, now }.Sound := by
  refine ⟨sound.known, fun {other} present => ?_, sound.listed, sound.stands⟩
  rcases calls_returned present with ⟨-, same⟩ | before
  · exact sound.known (known_of_resolving (Call.ended.inj same).symm)
  · exact sound.resolving before

theorem setCall (sound : history.Sound) {task : ι} {call : Call} {started : ℕ} {now : Option ℤ}
    (other : call ≠ .ended .resolving) :
    { history with swap := { history.swap with started }.setCall task call, now }.Sound := by
  refine ⟨sound.known, fun {found} present => ?_, sound.listed, sound.stands⟩
  simp only [Swap.setCall, Function.update_apply] at present
  split at present
  · exact absurd (Option.some.inj present) other
  · exact sound.resolving present

theorem step (sound : history.Sound) (timely : history.Timely event)
    (step : history.next event = some after) : after.Sound := by
  cases event with
  | begin task method now =>
      simp only [next] at step
      split at step
      · obtain rfl := Option.some.inj step
        rw [Swap.begin]
        split
        · exact sound.setCall (by simp)
        · exact sound.returned
      · contradiction
  | reply task reply now =>
      simp only [next] at step
      split at step
      · next request method asked =>
          have soon : now ≤ request.began + timeout := timely.2 request method asked
          cases answer : reply.answer with
          | hosts hosts =>
              rw [answer] at step
              obtain rfl := Option.some.inj step
              have fresh : Sound { history with
                  swap := { history.swap with
                    upstreams := hosts, upstreamsKnown := true, upstreamsAt := some now }
                  source := some (request, hosts)
                  answered := request.number :: history.answered } := by
                refine ⟨fun _ => by simp, fun _ => by simp, fun same => ?_, fun same => .inr ?_⟩
                · exact (Prod.mk.inj (Option.some.inj same)).2
                · obtain rfl := Option.some.inj same
                  exact ⟨_, rfl, soon⟩
              exact fresh.returned
          | unavailable =>
              rw [answer] at step
              obtain rfl := Option.some.inj step
              have stale : Sound { history with
                  swap := { history.swap with upstreamsAt := some now }
                  missed := some now } :=
                ⟨sound.known, sound.resolving, sound.listed, fun same => .inl same⟩
              exact stale.returned
          | raised =>
              rw [answer] at step
              obtain rfl := Option.some.inj step
              exact sound.setCall (by simp)
      · contradiction

omit [DecidableEq ι] in
theorem initial : ({} : History ι).Sound where
  known known := absurd known Bool.false_ne_true
  resolving present := by contradiction
  listed present := by contradiction
  stands present := by contradiction

end Sound

/-- What one section does to the answers. -/
theorem next_cases (step : history.next event = some after) :
    (after.source = history.source ∧ after.answered = history.answered ∧
      after.swap.upstreams = history.swap.upstreams ∧ history.InOrder event) ∨
    ∃ task reply now request method hosts, event = .reply task reply now ∧
      history.swap.calls task = some (.requesting request method) ∧
      reply.answer = .hosts hosts ∧ after.source = some (request, hosts) ∧
      after.answered = request.number :: history.answered := by
  cases event with
  | begin task method now =>
      simp only [next] at step
      split at step
      · obtain rfl := Option.some.inj step
        refine .inl ⟨rfl, rfl, ?_, trivial⟩
        rw [Swap.begin]
        split <;> rfl
      · contradiction
  | reply task reply now =>
      simp only [next] at step
      split at step
      · next request method asked =>
          cases answer : reply.answer with
          | hosts hosts =>
              rw [answer] at step
              obtain rfl := Option.some.inj step
              exact .inr ⟨task, reply, now, request, method, hosts, rfl, asked, answer, rfl, rfl⟩
          | unavailable =>
              rw [answer] at step
              obtain rfl := Option.some.inj step
              exact .inl ⟨rfl, rfl, rfl, fun _ _ _ _ same => by simp [answer] at same⟩
          | raised =>
              rw [answer] at step
              obtain rfl := Option.some.inj step
              exact .inl ⟨rfl, rfl, rfl, fun _ _ _ _ same => by simp [answer] at same⟩
      · contradiction

namespace Latest

theorem step (latest : history.Latest) (inOrder : history.InOrder event)
    (step : history.next event = some after) : after.Latest := by
  rcases next_cases step with ⟨source, answered, -, -⟩ |
    ⟨task, reply, now, request, method, hosts, rfl, asked, answer, source, answered⟩
  · refine ⟨fun number member => ?_, fun held => ?_⟩
    · rw [source]
      exact latest.newest number (answered ▸ member)
    · rw [answered]
      exact latest.member (source.symm.trans held)
  · refine ⟨fun number member => ⟨_, source, ?_⟩, fun held => ?_⟩
    · rw [answered] at member
      rcases List.mem_cons.mp member with rfl | member
      · exact Nat.le_refl _
      · exact inOrder request method hosts asked answer number member
    · obtain rfl := Option.some.inj (source.symm.trans held)
      rw [answered]
      exact List.mem_cons_self

/-- The list moves forward where the answers come in order, and nowhere else. -/
theorem forward_iff (latest : history.Latest) (step : history.next event = some after) :
    history.Forward after ↔ history.InOrder event := by
  rcases next_cases step with ⟨source, answered, -, inOrder⟩ |
    ⟨task, reply, now, request, method, hosts, rfl, asked, answer, source, answered⟩
  · refine ⟨fun _ => inOrder, fun _ held present => ⟨held, source.trans present, Nat.le_refl _⟩⟩
  · refine ⟨fun forward other _ found same listed number member => ?_,
      fun inOrder held present => ⟨_, source, ?_⟩⟩
    · obtain ⟨rfl, -⟩ := Call.requesting.inj (Option.some.inj (asked.symm.trans same))
      obtain ⟨held, present, newer⟩ := latest.newest number member
      obtain ⟨replaced, now_, later⟩ := forward held present
      obtain rfl := Option.some.inj (source.symm.trans now_)
      exact Nat.le_trans newer later
    · exact inOrder request method hosts asked answer _ (latest.member present)

omit [DecidableEq ι] in
theorem initial : ({} : History ι).Latest where
  newest _ member := absurd member List.not_mem_nil
  member present := by contradiction

end Latest

/-- A call that returns without an outage shortly before returns the list of a recent request. -/
theorem Sound.recent (sound : history.Sound) (timely : history.Timely event)
    (step : history.next event = some after) {result : Result} (listed : result ≠ .raised)
    (returned : after.swap.calls event.task = some (.ended result))
    (served : ∀ instant, after.missed = some instant → instant + ttl < event.now) :
    ∃ answer, after.source = some answer ∧ event.now ≤ answer.1.began + ttl + timeout := by
  cases event with
  | begin task method now =>
      simp only [next] at step
      split at step
      · obtain rfl := Option.some.inj step
        simp only [Swap.begin] at returned
        split at returned
        · simp [Swap.setCall, Event.task] at returned
        · next stands =>
            rw [Swap.due] at stands
            cases instant : history.swap.upstreamsAt with
            | none => simp [instant] at stands
            | some last =>
                have close : now - last ≤ ttl := by simpa [instant] using stands
                rcases sound.stands instant with missed | ⟨answer, source, recent⟩
                · have past := served last missed
                  simp only [Event.now] at past
                  omega
                · refine ⟨answer, source, ?_⟩
                  simp only [Event.now]
                  omega
      · contradiction
  | reply task reply now =>
      simp only [next] at step
      split at step
      · next request method asked =>
          have soon : now ≤ request.began + timeout := timely.2 request method asked
          cases answer : reply.answer with
          | hosts hosts =>
              rw [answer] at step
              obtain rfl := Option.some.inj step
              have positive : 0 ≤ ttl := seconds_nonneg _
              refine ⟨_, rfl, ?_⟩
              simp only [Event.now]
              omega
          | unavailable =>
              rw [answer] at step
              obtain rfl := Option.some.inj step
              have past := served now rfl
              have positive : 0 ≤ ttl := seconds_nonneg _
              simp only [Event.now] at past
              omega
          | raised =>
              rw [answer] at step
              obtain rfl := Option.some.inj step
              have ended : result = .raised := by
                simpa [Swap.answered, Swap.setCall, Event.task, answer, eq_comm] using returned
              exact absurd ended listed
      · contradiction

omit [DecidableEq ι] in
theorem Timely.of_all (forward : history.now.all fun last => last ≤ event.now)
    (soon : (history.swap.calls event.task).all fun
      | .requesting request _ => event.now ≤ request.began + timeout
      | .ended _ => true) : history.Timely event := by
  refine ⟨fun last same => ?_, fun request method same => ?_⟩
  · simpa [same] using forward
  · simpa [same] using soon

omit [DecidableEq ι] in
/-- A call that begins is in order, and so is an answer behind those to older requests. -/
theorem InOrder.of_all (older : (history.swap.calls event.task).all fun
      | .requesting request _ => history.answered.all (· ≤ request.number)
      | .ended _ => true) : history.InOrder event := by
  cases event with
  | begin => trivial
  | reply task reply now =>
      intro request method hosts asked _ number member
      simp only [Event.task, asked, Option.all_some, List.all_eq_true, decide_eq_true_eq] at older
      exact older number member

end History

end Drukbox.Proxy.Upstreams
