import Drukbox.SecretsExchange.SingleFlight
import Mathlib.Tactic.Ring

/-!
# The wait after a failure

Failed fetches and failed deliveries of an entry share one wait, which doubles up to a minute and
starts anew after a success of either.  A log of the starts and ends tells how many have failed in
a row, and when; where attempts do not overlap, none starts before the wait after every earlier
failure is over.
-/

namespace Drukbox.SecretsExchange

open Await

variable {ι : Type} [DecidableEq ι]

/-- The start or the end of a fetch or a delivery. -/
inductive Mark
  /-- It starts, after this reading of the clock. -/
  | started (instant : ℤ)
  | succeeded
  /-- `IssuerError` or `ProviderError`, before this reading of the clock. -/
  | failed (instant : ℤ)
  deriving DecidableEq, Repr

/-- The failures since the last success, in a log with its latest mark first. -/
def inARow : List Mark → ℕ
  | [] => 0
  | .started _ :: earlier => inARow earlier
  | .succeeded :: _ => 0
  | .failed _ :: earlier => inARow earlier + 1

/-- The wait after so many failures in a row. -/
def backoff (failures : ℕ) : ℤ :=
  seconds (min (5 * 2 ^ (failures - 1)) 60)

/-- The instants before which no attempt may start, after the failures of a log. -/
def ends : List Mark → List ℤ
  | [] => []
  | .failed instant :: earlier => (instant + backoff (inARow earlier + 1)) :: ends earlier
  | .started _ :: earlier | .succeeded :: earlier => ends earlier

/-- Every start of the log comes after the waits before it. -/
def Waits : List Mark → Prop
  | [] => True
  | .started instant :: earlier => (∀ bound ∈ ends earlier, bound ≤ instant) ∧ Waits earlier
  | .succeeded :: earlier | .failed _ :: earlier => Waits earlier

/-- What a call has in progress. -/
def Call.attempts : Call → Bool
  | fetching _ _ _ | delivering _ _ _ => true
  | ended _ => false

/-- The readings of a clock that does not go back. -/
def Forward (clock : ℕ → ℤ) : Prop :=
  ∀ {first last}, first ≤ last → clock first ≤ clock last

/-- The readings of the clock in an event. -/
def Event.clock : Event ι → Option (ℕ → ℤ)
  | .begin _ _ clock | .answer _ _ clock | .deliver _ _ clock | .wake _ clock
  | .answerBackground _ _ clock => some clock
  | .callback _ | .forget => none

/-- The mark of an answer. -/
def Answer.marks (instant : ℤ) : Answer → List Mark
  | .secret _ => [.succeeded]
  | .issuerError => [.failed instant]
  | .otherError => []

/-- The mark of a delivery's end. -/
def Delivery.marks (instant : ℤ) : Delivery → List Mark
  | .accepted => [.succeeded]
  | .failed true _ => [.failed instant]
  | .failed false _ => []

/-- The mark of a call that has come to an attempt, with the last reading before each kind. -/
def Call.marks (fetch delivery : ℤ) : Call → List Mark
  | fetching _ _ _ => [.started fetch]
  | delivering _ _ _ => [.started delivery]
  | ended _ => []

namespace Secrets

/-- A fetch or a delivery is in progress. -/
def attempting (secrets : Secrets ι) : Flight ι → Bool
  | .call task => (secrets.calls task).any Call.attempts
  | .background object => (secrets.objects object).flight.isSome

/-- Fetches and deliveries do not overlap. -/
def Apart (secrets : Secrets ι) : Prop :=
  ∀ first second, secrets.attempting first → secrets.attempting second → first = second

/-- The marks of an event that leads to these secrets. -/
def marks (after : Secrets ι) : Event ι → List Mark
  | .begin task .current clock =>
      (after.calls task).elim [] (Call.marks (clock 2) (clock 2))
  | .begin task _ clock => (after.calls task).elim [] (Call.marks (clock 3) (clock 2))
  | .answer task answer clock =>
      (after.calls task).elim [] (Call.marks (clock 0) (clock 0)) ++ answer.marks (clock 0)
  | .deliver _ delivery clock => delivery.marks (clock 0)
  | .wake object clock =>
      if (after.objects object).flight.isSome then [.started (clock 0)] else []
  | .answerBackground _ answer clock => answer.marks (clock 0)
  | .callback _ | .forget => []

end Secrets

/-- The secrets of an entry with the log of its attempts. -/
structure Timed (ι : Type) where
  secrets : Secrets ι
  /-- The last reading of the clock. -/
  now : ℤ
  /-- The latest mark first. -/
  log : List Mark := []

namespace Timed

/-- An object that is made at this instant, before any call. -/
def made (instant : ℤ) : Timed ι where
  secrets := ({} : Secrets ι).make instant
  now := instant

/-- The event loop with its log. -/
def machine (needsValue : Bool) : Machine (Timed ι) (Event ι) where
  next timed event :=
    (timed.secrets.next needsValue event).map fun after =>
      { secrets := after
        now := event.clock.elim timed.now fun clock => clock 4
        log := after.marks event ++ timed.log }

/-- `current` and `push` on one object, by a clock that does not go back, where fetches and
deliveries do not overlap. -/
structure Orderly (needsValue : Bool) (timed : Timed ι) (event : Event ι) : Prop where
  plain : event.Plain
  forward : ∀ clock, event.clock = some clock → Forward clock ∧ timed.now ≤ clock 0
  apart : ∀ after, timed.secrets.next needsValue event = some after → after.Apart

end Timed

theorem backoff_one : backoff 1 = firstRetry := rfl

/-- A failure doubles the wait, up to the longest. -/
theorem backoff_succ (failures : ℕ) :
    min (backoff (failures + 1) * 2) longestRetry = backoff (failures + 2) := by
  have doubled : 5 * 2 ^ (failures + 1) = 5 * 2 ^ failures * 2 := by ring
  simp only [backoff, seconds, longestRetry, Nat.add_sub_cancel,
    show failures + 2 - 1 = failures + 1 from rfl, doubled]
  omega

theorem backoff_nonneg (failures : ℕ) : 0 ≤ backoff failures :=
  seconds_nonneg _

/-- The wait and the next attempt of an object fit its log. -/
structure Pace (refreshable : RefreshableSecret) (log : List Mark) : Prop where
  wait : refreshable.wait = backoff (inARow log + 1)
  bounds : ∀ bound ∈ ends log, bound ≤ refreshable.nextAttempt
  waits : Waits log

namespace Pace

variable {refreshable : RefreshableSecret} {log : List Mark} {instant : ℤ}

theorem started (pace : Pace refreshable log) (due : refreshable.nextAttempt ≤ instant) :
    Pace refreshable (.started instant :: log) where
  wait := pace.wait
  bounds := pace.bounds
  waits := ⟨fun bound member => (pace.bounds bound member).trans due, pace.waits⟩

theorem succeeded (pace : Pace refreshable log) :
    Pace { refreshable with wait := firstRetry } (.succeeded :: log) where
  wait := backoff_one.symm
  bounds := pace.bounds
  waits := pace.waits

/-- After a failure the next attempt waits as long as the failures in a row ask for. -/
theorem failed (pace : Pace refreshable log) (due : refreshable.nextAttempt ≤ instant) :
    Pace (refreshable.retryLater instant) (.failed instant :: log) where
  wait := by
    rw [RefreshableSecret.retryLater, pace.wait]
    exact backoff_succ (inARow log)
  bounds bound member := by
    rw [RefreshableSecret.retryLater, pace.wait]
    rcases List.mem_cons.mp member with rfl | member
    · exact le_rfl
    · have before := pace.bounds bound member
      have longer := backoff_nonneg (inARow log + 1)
      dsimp only
      omega
  waits := pace.waits

theorem answered (pace : Pace refreshable log) (due : refreshable.nextAttempt ≤ instant)
    (fetch : ℕ) (answer : Answer) :
    Pace (refreshable.refreshed fetch answer instant) (answer.marks instant ++ log) := by
  cases answer with
  | secret secret => exact ⟨backoff_one.symm, pace.bounds, pace.waits⟩
  | issuerError => exact pace.failed due
  | otherError => exact pace

theorem congr (pace : Pace refreshable log) {other : RefreshableSecret}
    (wait : other.wait = refreshable.wait)
    (nextAttempt : other.nextAttempt = refreshable.nextAttempt) : Pace other log :=
  ⟨wait.trans pace.wait, nextAttempt ▸ pace.bounds, pace.waits⟩

end Pace

/-- The call works on this object. -/
def Call.On (object : ℕ) : Call → Prop
  | fetching own _ _ | delivering own _ _ => own = object
  | ended _ => True

namespace Secrets

variable (secrets : Secrets ι)

theorem attempting_setCall (task : ι) (call : Call) (flight : Flight ι) :
    (secrets.setCall task call).attempting flight =
      if flight = .call task then call.attempts else secrets.attempting flight := by
  cases flight with
  | call other =>
      by_cases same : other = task
      · subst same
        simp [attempting, setCall]
      · simp [attempting, setCall, same]
  | background object => simp [attempting, setCall]

omit [DecidableEq ι] in
theorem attempting_setObject (object : ℕ) (refreshable : RefreshableSecret)
    (same : refreshable.flight = (secrets.objects object).flight) (flight : Flight ι) :
    (secrets.setObject object refreshable).attempting flight = secrets.attempting flight := by
  cases flight with
  | call task => rfl
  | background other =>
      by_cases own : other = object
      · subst own
        simp [attempting, setObject, same]
      · simp [attempting, setObject, own]

end Secrets

/-- What holds of one object and its calls throughout. -/
structure Timed.Paced (timed : Timed ι) : Prop where
  cached : timed.secrets.cached = some 0
  own : ∀ task call, timed.secrets.calls task = some call → call.On 0
  alone : ∀ object, object ≠ 0 → (timed.secrets.objects object).fetching = none
  pace : Pace (timed.secrets.objects 0) timed.log
  /-- While an attempt is in progress, its wait is over. -/
  due : ∀ flight, timed.secrets.attempting flight →
    (timed.secrets.objects 0).nextAttempt ≤ timed.now
  /-- A push that fetches had nothing to deliver. -/
  undelivered : ∀ task fetch began order,
    timed.secrets.calls task = some (.fetching 0 fetch (.push began order)) →
      (timed.secrets.objects 0).toDeliver began = none
  apart : timed.secrets.Apart

namespace Timed.Paced

variable {timed : Timed ι} {task : ι} {call : Call} {now : ℤ} {marks : List Mark}

/-- A section that changes no more of the object than its background task, which does not fetch
before or after. -/
theorem called (paced : timed.Paced) {after : Secrets ι} (cached : after.cached = some 0)
    (calls : after.calls = Function.update timed.secrets.calls task (some call))
    (others : ∀ object, object ≠ 0 → after.objects object = timed.secrets.objects object)
    (same : { after.objects 0 with fetching := none } =
      { timed.secrets.objects 0 with fetching := none })
    (still : (after.objects 0).flight = (timed.secrets.objects 0).flight)
    (later : timed.now ≤ now) (on : call.On 0)
    (pace : Pace (timed.secrets.objects 0) (marks ++ timed.log))
    (due : call.attempts → (timed.secrets.objects 0).nextAttempt ≤ now)
    (undelivered : ∀ fetch began order, call = .fetching 0 fetch (.push began order) →
      (timed.secrets.objects 0).toDeliver began = none)
    (apart : after.Apart) :
    Timed.Paced { secrets := after, now, log := marks ++ timed.log } := by
  obtain ⟨latest, pushed, -, nextAttempt, wait⟩ := RefreshableSecret.mk.injEq .. ▸ same
  have delivers (began : ℤ) : (after.objects 0).toDeliver began =
      (timed.secrets.objects 0).toDeliver began := by
    simp only [RefreshableSecret.toDeliver, RefreshableSecret.valid, latest, pushed]
  have written {other : ι} {own : Call} (present : after.calls other = some own) :
      other = task ∧ own = call ∨ other ≠ task ∧ timed.secrets.calls other = some own := by
    rw [calls] at present
    by_cases this : other = task
    · subst this
      rw [Function.update_self, Option.some.injEq] at present
      exact .inl ⟨rfl, present.symm⟩
    · rw [Function.update_of_ne this] at present
      exact .inr ⟨this, present⟩
  refine ⟨cached, fun other own present => ?_, fun object different => ?_,
    pace.congr wait nextAttempt, fun flight busy => ?_,
    fun other fetch began order present => ?_, apart⟩
  · rcases written present with ⟨rfl, rfl⟩ | ⟨-, before⟩
    · exact on
    · exact paced.own other own before
  · rw [others object different]
    exact paced.alone object different
  · rw [nextAttempt]
    cases flight with
    | call other =>
        obtain ⟨own, present, attempts⟩ := (Option.any_eq_true _ _).mp busy
        rcases written present with ⟨rfl, rfl⟩ | ⟨-, before⟩
        · exact due attempts
        · refine (paced.due (.call other) ?_).trans later
          exact (Option.any_eq_true _ _).mpr ⟨own, before, attempts⟩
    | background object =>
        refine (paced.due (.background object) ?_).trans later
        by_cases own : object = 0
        · subst own
          rw [Secrets.attempting, ← still]
          exact busy
        · rw [Secrets.attempting, ← others object own]
          exact busy
  · rw [delivers]
    rcases written present with ⟨rfl, rfl⟩ | ⟨-, before⟩
    · exact undelivered fetch began order rfl
    · exact paced.undelivered other fetch began order before

/-- The section in which the one attempt in progress ends. -/
theorem landed (paced : timed.Paced) {after : Secrets ι} {flight : Flight ι}
    (busy : timed.secrets.attempting flight) (cached : after.cached = some 0)
    (own : ∀ other call, after.calls other = some call → call.On 0)
    (alone : ∀ object, object ≠ 0 → (after.objects object).fetching = none)
    (pace : Pace (after.objects 0) (marks ++ timed.log))
    (others : ∀ other, other ≠ flight → after.attempting other → timed.secrets.attempting other)
    (due : after.attempting flight → (after.objects 0).nextAttempt ≤ now)
    (lands : ∀ other fetch began order, flight = .call other →
      after.calls other ≠ some (.fetching 0 fetch (.push began order))) :
    Timed.Paced { secrets := after, now, log := marks ++ timed.log } := by
  have single (other : Flight ι) (left : after.attempting other) : other = flight := by
    by_contra different
    exact different (paced.apart other flight (others other different left) busy)
  refine ⟨cached, own, alone, pace, fun other left => ?_, fun other fetch began order present => ?_,
    fun first second one two => (single first one).trans (single second two).symm⟩
  · obtain rfl := single other left
    exact due left
  · have fetches : after.attempting (.call other) :=
      (Option.any_eq_true _ _).mpr ⟨_, present, rfl⟩
    exact absurd present (lands other fetch began order (single _ fetches).symm)

theorem calls_only (paced : timed.Paced) {fetches : ℕ} (later : timed.now ≤ now) (on : call.On 0)
    (pace : Pace (timed.secrets.objects 0) (marks ++ timed.log))
    (due : call.attempts → (timed.secrets.objects 0).nextAttempt ≤ now)
    (undelivered : ∀ fetch began order, call = .fetching 0 fetch (.push began order) →
      (timed.secrets.objects 0).toDeliver began = none)
    (apart : ({ timed.secrets with fetches }.setCall task call).Apart) :
    Timed.Paced
      { secrets := { timed.secrets with fetches }.setCall task call
        now, log := marks ++ timed.log } :=
  paced.called paced.cached rfl (fun _ _ => rfl) rfl rfl later on pace due undelivered apart

theorem ends_call (paced : timed.Paced) {result : Result} (later : timed.now ≤ now)
    (apart : (timed.secrets.setCall task (.ended result)).Apart) :
    Timed.Paced
      { secrets := timed.secrets.setCall task (.ended result), now, log := [] ++ timed.log } :=
  paced.calls_only later trivial paced.pace (by simp [Call.attempts]) (by simp) apart

omit [DecidableEq ι] in
/-- What follows a fetch that `current` awaited does not start an attempt. -/
theorem resume_current (secrets : Secrets ι) (object : ℕ) (instant : ℤ) :
    ∃ result, secrets.resume object .current instant = .ended result := by
  rw [Secrets.resume]
  cases (secrets.objects object).valid instant with
  | none => exact ⟨_, rfl⟩
  | some latest => exact ⟨_, rfl⟩

/-- `refresh` up to the fetch, or up to the next `await` after it where the wait is not over. -/
theorem refreshes (paced : timed.Paced) {purpose : Purpose} {instant last : ℤ}
    (later : timed.now ≤ now) (reads : instant ≤ now)
    (undelivered : ∀ began order, purpose = .push began order →
      (timed.secrets.objects 0).toDeliver began = none)
    (ends : ∃ result, timed.secrets.resume 0 purpose last = .ended result)
    (delivery : ℤ) (apart : (timed.secrets.refresh task 0 purpose instant last).Apart) :
    Timed.Paced
      { secrets := timed.secrets.refresh task 0 purpose instant last
        now
        log := ((timed.secrets.refresh task 0 purpose instant last).calls task).elim []
          (Call.marks instant delivery) ++ timed.log } := by
  by_cases due : (timed.secrets.objects 0).nextAttempt ≤ instant
  · have fetches : timed.secrets.refresh task 0 purpose instant last =
        { timed.secrets with fetches := timed.secrets.fetches + 1 }.setCall task
          (.fetching 0 timed.secrets.fetches purpose) :=
      if_pos (decide_eq_true due)
    rw [fetches] at apart ⊢
    have log : ((Secrets.setCall { timed.secrets with fetches := timed.secrets.fetches + 1 } task
        (.fetching 0 timed.secrets.fetches purpose)).calls task).elim []
          (Call.marks instant delivery) = [.started instant] := by
      simp [Secrets.setCall, Call.marks]
    rw [log]
    refine paced.calls_only later rfl (paced.pace.started due) (fun _ => due.trans reads)
      (fun fetch began order same => ?_) apart
    obtain ⟨-, -, same⟩ := Call.fetching.inj same
    exact undelivered began order same
  · obtain ⟨result, ended⟩ := ends
    have waits : timed.secrets.refresh task 0 purpose instant last =
        timed.secrets.setCall task (.ended result) := by
      rw [Secrets.refresh, if_neg (by simpa [RefreshableSecret.refreshes] using due), ended]
    rw [waits] at apart ⊢
    have log : ((timed.secrets.setCall task (.ended result)).calls task).elim []
        (Call.marks instant delivery) = [] := by
      simp [Secrets.setCall, Call.marks]
    rw [log]
    exact paced.ends_call later apart

theorem begin_current (paced : timed.Paced) {needsValue : Bool} {clock : ℕ → ℤ}
    (forward : Forward clock) (later : timed.now ≤ clock 0)
    (apart : (timed.secrets.begin needsValue task clock .current).Apart) :
    Timed.Paced
      { secrets := timed.secrets.begin needsValue task clock .current
        now := clock 4
        log := ((timed.secrets.begin needsValue task clock .current).calls task).elim []
          (Call.marks (clock 2) (clock 2)) ++ timed.log } := by
  have last : timed.now ≤ clock 4 := later.trans (forward (Nat.zero_le 4))
  have found : timed.secrets.setdefault (clock 0) = (timed.secrets, 0) := by
    rw [Secrets.setdefault, paced.cached]
  rw [Secrets.begin, found] at apart ⊢
  dsimp only at apart ⊢
  cases valid : (timed.secrets.objects 0).valid (clock 1) with
  | none =>
      rw [valid] at apart
      exact paced.refreshes last (forward (by decide)) (by rintro began order ⟨⟩)
        (resume_current _ _ _) _ apart
  | some latest =>
      rw [valid] at apart
      dsimp only at apart ⊢
      have background : (timed.secrets.objects 0).refreshInBackground.flight =
          (timed.secrets.objects 0).flight := by
        cases fetching : (timed.secrets.objects 0).fetching <;>
          simp [RefreshableSecret.refreshInBackground, RefreshableSecret.flight, fetching]
      have ended (secrets : Secrets ι) (result : Result) :
          ((secrets.setCall task (.ended result)).calls task).elim []
            (Call.marks (clock 2) (clock 2)) = [] := by
        simp [Secrets.setCall, Call.marks]
      rw [ended]
      refine paced.called paced.cached rfl (fun object different => ?_) ?_ ?_ last trivial
        paced.pace (by simp [Call.attempts]) (by simp) apart
      · exact Function.update_of_ne different ..
      · split
        · simp [Secrets.setCall, Secrets.setObject, RefreshableSecret.refreshInBackground]
        · simp [Secrets.setCall, Secrets.setObject]
      · split
        · simpa [Secrets.setCall, Secrets.setObject] using background
        · simp [Secrets.setCall, Secrets.setObject]

omit [DecidableEq ι] in
/-- A push that asks the issuer has nothing to deliver so far. -/
theorem toDeliver_of_asks {refreshable : RefreshableSecret} {instant : ℤ}
    (asks : refreshable.pushRefreshes instant = true) : refreshable.toDeliver instant = none := by
  rw [RefreshableSecret.pushRefreshes, Bool.or_eq_true, beq_iff_eq, Option.isNone_iff_eq_none]
    at asks
  rw [RefreshableSecret.toDeliver]
  rcases asks with same | missing
  · rw [if_pos same]
  · rw [missing, ite_self]

theorem begin_push (paced : timed.Paced) {needsValue : Bool} {clock : ℕ → ℤ}
    (forward : Forward clock) (later : timed.now ≤ clock 0)
    (apart : (timed.secrets.begin needsValue task clock .push).Apart) :
    Timed.Paced
      { secrets := timed.secrets.begin needsValue task clock .push
        now := clock 4
        log := ((timed.secrets.begin needsValue task clock .push).calls task).elim []
          (Call.marks (clock 3) (clock 2)) ++ timed.log } := by
  have last : timed.now ≤ clock 4 := later.trans (forward (Nat.zero_le 4))
  have found : timed.secrets.setdefault (clock 0) = (timed.secrets, 0) := by
    rw [Secrets.setdefault, paced.cached]
  rw [Secrets.begin, found] at apart ⊢
  dsimp only at apart ⊢
  split at apart
  · next due =>
      rw [if_pos due]
      obtain ⟨-, due⟩ := Bool.and_eq_true_iff.mp due
      have passed : (timed.secrets.objects 0).nextAttempt ≤ clock 1 := by
        rw [RefreshableSecret.isDue, Bool.and_eq_true, decide_eq_true_eq] at due
        exact due.1
      rw [Secrets.push] at apart ⊢
      split at apart
      · next asks =>
          rw [if_pos asks]
          have nothing := toDeliver_of_asks asks
          refine paced.refreshes last (forward (by decide)) ?_ ?_ _ apart
          · rintro began order same
            obtain ⟨rfl, -⟩ := Purpose.push.inj same
            exact nothing
          · rw [Secrets.resume, nothing]
            exact ⟨_, rfl⟩
      · next has =>
          rw [if_neg has]
          have late : (timed.secrets.objects 0).nextAttempt ≤ clock 2 :=
            passed.trans (forward (by decide))
          cases ready : (timed.secrets.objects 0).toDeliver (clock 2) with
          | none =>
              have ends : ∃ result, timed.secrets.resume 0 (.push (clock 2) none) (clock 3) =
                  .ended result := by
                rw [Secrets.resume, ready]
                exact ⟨_, rfl⟩
              obtain ⟨result, ends⟩ := ends
              rw [ends] at apart ⊢
              have ended : ((timed.secrets.setCall task (.ended result)).calls task).elim []
                  (Call.marks (clock 3) (clock 2)) = [] := by
                simp [Secrets.setCall, Call.marks]
              rw [ended]
              exact paced.ends_call last apart
          | some latest =>
              have delivers : timed.secrets.resume 0 (.push (clock 2) none) (clock 3) =
                  .delivering 0 latest none := by
                rw [Secrets.resume, ready]
              rw [delivers] at apart ⊢
              have started : ((timed.secrets.setCall task (.delivering 0 latest none)).calls
                  task).elim [] (Call.marks (clock 3) (clock 2)) = [.started (clock 2)] := by
                simp [Secrets.setCall, Call.marks]
              rw [started]
              exact paced.calls_only last rfl (paced.pace.started late)
                (fun _ => late.trans (forward (by decide))) (by simp) apart
  · next early =>
      rw [if_neg early]
      have ended : ((timed.secrets.setCall task (.ended .pushed)).calls task).elim []
          (Call.marks (clock 3) (clock 2)) = [] := by
        simp [Secrets.setCall, Call.marks]
      rw [ended]
      exact paced.ends_call last apart

omit [DecidableEq ι] in
/-- What follows a fetch starts an attempt only where a push has something to deliver. -/
theorem resume_cases (secrets : Secrets ι) (object : ℕ) (purpose : Purpose) (instant : ℤ) :
    (∃ result, secrets.resume object purpose instant = .ended result) ∨
      ∃ began order latest, purpose = .push began order ∧
        (secrets.objects object).toDeliver began = some latest ∧
        secrets.resume object purpose instant = .delivering object latest order := by
  cases purpose with
  | current => exact .inl (resume_current secrets object instant)
  | push began order =>
      rw [Secrets.resume]
      cases ready : (secrets.objects object).toDeliver began with
      | none => exact .inl ⟨_, rfl⟩
      | some latest => exact .inr ⟨began, order, latest, rfl, ready, rfl⟩
  | order since =>
      rw [Secrets.resume]
      split
      · exact .inl ⟨_, rfl⟩
      · exact .inl ⟨_, rfl⟩

/-- A call after one was written. -/
theorem calls_cases {secrets : Secrets ι} {written own : Call} {other : ι}
    (present : (secrets.setCall task written).calls other = some own) :
    own = written ∨ secrets.calls other = some own := by
  simp only [Secrets.setCall, Function.update_apply] at present
  split at present
  · exact .inl (Option.some.inj present).symm
  · exact .inr present

/-- What a call does after the answer of its fetch. -/
def afterAnswer (secrets : Secrets ι) (fetch : ℕ) (purpose : Purpose) (answer : Answer)
    (clock : ℕ → ℤ) : Call :=
  if answer = .otherError then .ended .raised
  else (secrets.setObject 0 ((secrets.objects 0).refreshed fetch answer (clock 0))).resume 0 purpose
    (clock 1)

theorem answered_eq (secrets : Secrets ι) (fetch : ℕ) (purpose : Purpose) (answer : Answer)
    (clock : ℕ → ℤ) :
    secrets.answered task 0 fetch purpose answer clock =
      (secrets.setObject 0 ((secrets.objects 0).refreshed fetch answer (clock 0))).setCall task
        (afterAnswer secrets fetch purpose answer clock) := by
  rw [Secrets.answered, afterAnswer]
  split <;> rfl

/-- The section in which a call ends the attempt in progress. -/
theorem writes (paced : timed.Paced) {held : Option Fetched} {refreshable : RefreshableSecret}
    (busy : timed.secrets.attempting (.call task))
    (still : refreshable.flight = (timed.secrets.objects 0).flight) (on : call.On 0)
    (lands : ∀ fetch purpose, call ≠ .fetching 0 fetch purpose)
    (pace : Pace refreshable (marks ++ timed.log))
    (due : call.attempts → refreshable.nextAttempt ≤ now) :
    Timed.Paced
      { secrets := ({ timed.secrets with held }.setObject 0 refreshable).setCall task call
        now, log := marks ++ timed.log } := by
  have attempts (flight : Flight ι) :
      (({ timed.secrets with held }.setObject 0 refreshable).setCall task call).attempting flight =
        if flight = .call task then call.attempts else timed.secrets.attempting flight := by
    rw [Secrets.attempting_setCall]
    split
    · rfl
    · exact Secrets.attempting_setObject { timed.secrets with held } 0 refreshable still flight
  refine paced.landed busy paced.cached (fun other own present => ?_) (fun object different => ?_)
    ?_ (fun other different left => ?_) (fun left => ?_) (fun other fetch began order same => ?_)
  · rcases calls_cases present with rfl | before
    · exact on
    · exact paced.own other own before
  · rw [Secrets.objects_setCall, Secrets.objects_setObject, if_neg different]
    exact paced.alone object different
  · rw [Secrets.objects_setCall, Secrets.objects_setObject, if_pos rfl]
    exact pace
  · rw [attempts, if_neg different] at left
    exact left
  · rw [attempts, if_pos rfl] at left
    rw [Secrets.objects_setCall, Secrets.objects_setObject, if_pos rfl]
    exact due left
  · obtain rfl := Flight.call.inj same
    simp only [Secrets.setCall, Function.update_self]
    exact fun same => lands fetch _ (Option.some.inj same)

theorem answer (paced : timed.Paced) {fetch : ℕ} {purpose : Purpose} {answer : Answer}
    {clock : ℕ → ℤ} (fetching : timed.secrets.calls task = some (.fetching 0 fetch purpose))
    (forward : Forward clock) (later : timed.now ≤ clock 0) :
    Timed.Paced
      { secrets := timed.secrets.answered task 0 fetch purpose answer clock
        now := clock 4
        log := ((timed.secrets.answered task 0 fetch purpose answer clock).calls task).elim []
          (Call.marks (clock 0) (clock 0)) ++ answer.marks (clock 0) ++ timed.log } := by
  have busy : timed.secrets.attempting (.call task) :=
    (Option.any_eq_true _ _).mpr ⟨_, fetching, rfl⟩
  have due : (timed.secrets.objects 0).nextAttempt ≤ clock 0 := (paced.due _ busy).trans later
  have pace := paced.pace.answered due fetch answer
  have still : ((timed.secrets.objects 0).refreshed fetch answer (clock 0)).flight =
      (timed.secrets.objects 0).flight := by
    cases answer <;> rfl
  have calls_task : ((timed.secrets.setObject 0
      ((timed.secrets.objects 0).refreshed fetch answer (clock 0))).setCall task
        (afterAnswer timed.secrets fetch purpose answer clock)).calls task =
          some (afterAnswer timed.secrets fetch purpose answer clock) := by
    simp [Secrets.setCall]
  rw [answered_eq, calls_task, Option.elim_some]
  have outcome : (∃ result, afterAnswer timed.secrets fetch purpose answer clock = .ended result) ∨
      ∃ latest order, afterAnswer timed.secrets fetch purpose answer clock =
        .delivering 0 latest order ∧ ∃ secret, answer = .secret secret := by
    rw [afterAnswer]
    split
    · exact .inl ⟨_, rfl⟩
    · next known =>
        rcases resume_cases _ 0 purpose (clock 1) with
          ended | ⟨began, order, latest, rfl, ready, same⟩
        · exact .inl ended
        · refine .inr ⟨latest, order, same, ?_⟩
          have nothing := paced.undelivered task fetch began order fetching
          rw [Secrets.objects_setObject, if_pos rfl] at ready
          cases answer with
          | secret secret => exact ⟨secret, rfl⟩
          | issuerError => exact absurd (nothing.symm.trans ready) (Option.some_ne_none _).symm
          | otherError => exact absurd rfl known
  rcases outcome with ⟨result, ended⟩ | ⟨latest, order, delivering, secret, rfl⟩
  · rw [ended]
    exact paced.writes busy still trivial (by simp) pace (by simp [Call.attempts])
  · rw [delivering]
    have late := due.trans (forward (Nat.zero_le 4))
    exact paced.writes busy still rfl (by simp) (pace.started due) fun _ => late

theorem deliver (paced : timed.Paced) {secret : Fetched} {order : Option ℕ} {delivery : Delivery}
    {clock : ℕ → ℤ} (delivering : timed.secrets.calls task = some (.delivering 0 secret order))
    (later : timed.now ≤ clock 0) :
    Timed.Paced
      { secrets := timed.secrets.delivered task 0 secret order delivery clock
        now := clock 4
        log := delivery.marks (clock 0) ++ timed.log } := by
  have busy : timed.secrets.attempting (.call task) :=
    (Option.any_eq_true _ _).mpr ⟨_, delivering, rfl⟩
  have due : (timed.secrets.objects 0).nextAttempt ≤ clock 0 := (paced.due _ busy).trans later
  cases delivery with
  | accepted =>
      refine paced.writes busy ?_ trivial (by simp) (paced.pace.succeeded.congr rfl rfl)
        (by simp [Call.attempts])
      rfl
  | failed providerError stored =>
      cases providerError with
      | true =>
          refine paced.writes busy ?_ trivial (by simp) (paced.pace.failed due)
            (by simp [Call.attempts])
          rfl
      | false =>
          exact paced.writes busy rfl trivial (by simp) paced.pace (by simp [Call.attempts])

omit [DecidableEq ι] in
theorem background (paced : timed.Paced) (marks : List Mark) {fetches : ℕ}
    {fetching : Option Background}
    (later : timed.now ≤ now) (pace : Pace (timed.secrets.objects 0) (marks ++ timed.log))
    (due : RefreshableSecret.flight { timed.secrets.objects 0 with fetching } ≠ none →
      (timed.secrets.objects 0).nextAttempt ≤ now)
    (apart : ({ timed.secrets with fetches }.setObject 0
      { timed.secrets.objects 0 with fetching }).Apart) :
    Timed.Paced
      { secrets := { timed.secrets with fetches }.setObject 0
          { timed.secrets.objects 0 with fetching }
        now, log := marks ++ timed.log } := by
  refine ⟨paced.cached, paced.own, fun object different => ?_, ?_, fun flight busy => ?_,
    fun other fetch began order present => ?_, apart⟩
  · rw [Secrets.objects_setObject, if_neg different]
    exact paced.alone object different
  · rw [Secrets.objects_setObject, if_pos rfl]
    exact pace.congr rfl rfl
  · rw [Secrets.objects_setObject, if_pos rfl]
    cases flight with
    | call other => exact (paced.due (.call other) busy).trans later
    | background object =>
        rw [Secrets.attempting, Secrets.objects_setObject] at busy
        split at busy
        · exact due (Option.isSome_iff_ne_none.mp busy)
        · exact (paced.due (.background object) busy).trans later
  · rw [Secrets.objects_setObject, if_pos rfl]
    exact paced.undelivered other fetch began order present

omit [DecidableEq ι] in
/-- Only the object of the entry has a background task. -/
theorem zero_of_fetching (paced : timed.Paced) {object : ℕ} {running : Background}
    (fetching : (timed.secrets.objects object).fetching = some running) : object = 0 := by
  by_contra different
  rw [paced.alone object different] at fetching
  contradiction

theorem answerBackground (paced : timed.Paced) {fetch : ℕ} {answer : Answer} {clock : ℕ → ℤ}
    (fetching : (timed.secrets.objects 0).fetching = some (.fetching fetch))
    (later : timed.now ≤ clock 0) :
    Timed.Paced
      { secrets := timed.secrets.setObject 0
          { (timed.secrets.objects 0).refreshed fetch answer (clock 0) with
            fetching := some .ended }
        now := clock 4
        log := answer.marks (clock 0) ++ timed.log } := by
  have busy : timed.secrets.attempting (.background 0) := by
    rw [Secrets.attempting, RefreshableSecret.flight, fetching]
    rfl
  have due : (timed.secrets.objects 0).nextAttempt ≤ clock 0 := (paced.due _ busy).trans later
  have pace := paced.pace.answered due fetch answer
  refine paced.landed busy paced.cached paced.own (fun object different => ?_) ?_
    (fun other different left => ?_) (fun left => ?_) (by simp)
  · rw [Secrets.objects_setObject, if_neg different]
    exact paced.alone object different
  · rw [Secrets.objects_setObject, if_pos rfl]
    exact pace.congr rfl rfl
  · cases other with
    | call other => exact left
    | background object =>
        have elsewhere : object ≠ 0 := fun same => different (congrArg _ same)
        rw [Secrets.attempting, Secrets.objects_setObject, if_neg elsewhere] at left
        exact left
  · rw [Secrets.attempting, Secrets.objects_setObject, if_pos rfl] at left
    contradiction

/-- One section keeps the pace. -/
theorem step (paced : timed.Paced) {needsValue : Bool} {event : Event ι} {after : Timed ι}
    (orderly : timed.Orderly needsValue event)
    (step : (machine needsValue).next timed event = some after) : after.Paced := by
  obtain ⟨secrets, ran, rfl⟩ := Option.map_eq_some_iff.mp step
  obtain ⟨plain, forward, apart⟩ := orderly
  replace apart := apart secrets ran
  cases event with
  | begin task method clock =>
      obtain ⟨monotone, later⟩ := forward clock rfl
      simp only [Secrets.next] at ran
      split at ran
      · obtain rfl := Option.some.inj ran
        cases method with
        | current => exact paced.begin_current monotone later apart
        | push => exact paced.begin_push monotone later apart
        | refresh => exact plain.elim
      · contradiction
  | answer task answer clock =>
      obtain ⟨monotone, later⟩ := forward clock rfl
      simp only [Secrets.next] at ran
      split at ran
      · next object fetch purpose fetching =>
          obtain rfl := Option.some.inj ran
          obtain rfl : object = 0 := paced.own _ _ fetching
          exact paced.answer fetching monotone later
      · contradiction
  | deliver task delivery clock =>
      obtain ⟨-, later⟩ := forward clock rfl
      simp only [Secrets.next] at ran
      split at ran
      · next object secret order delivering =>
          obtain rfl := Option.some.inj ran
          obtain rfl : object = 0 := paced.own _ _ delivering
          exact paced.deliver delivering later
      · contradiction
  | wake object clock =>
      obtain ⟨monotone, later⟩ := forward clock rfl
      have last : timed.now ≤ clock 4 := later.trans (monotone (Nat.zero_le 4))
      simp only [Secrets.next] at ran
      split at ran
      · next created =>
          obtain rfl := paced.zero_of_fetching created
          split at ran
          · next due =>
              obtain rfl := Option.some.inj ran
              have due := of_decide_eq_true due
              exact paced.background [.started (clock 0)] last (paced.pace.started due)
                (fun _ => due.trans (monotone (Nat.zero_le 4))) apart
          · obtain rfl := Option.some.inj ran
            exact paced.background [] last paced.pace (fun flies => absurd rfl flies)
              apart
      · contradiction
  | answerBackground object answer clock =>
      obtain ⟨-, later⟩ := forward clock rfl
      simp only [Secrets.next] at ran
      split at ran
      · next fetch fetching =>
          obtain rfl := Option.some.inj ran
          obtain rfl := paced.zero_of_fetching fetching
          exact paced.answerBackground fetching later
      · contradiction
  | callback object =>
      simp only [Secrets.next] at ran
      split at ran
      · next fetching =>
          obtain rfl := Option.some.inj ran
          obtain rfl := paced.zero_of_fetching fetching
          exact paced.background [] le_rfl paced.pace (fun flies => absurd rfl flies)
            apart
      · contradiction
  | forget => exact plain.elim

omit [DecidableEq ι] in
theorem idle_made (instant : ℤ) (flight : Flight ι) :
    (Timed.made instant).secrets.attempting flight = false := by
  cases flight with
  | call task => rfl
  | background object =>
      have idle : ((Timed.made (ι := ι) instant).secrets.objects object).fetching = none := by
        simp only [Timed.made, Secrets.make, Function.update_apply]
        split <;> rfl
      rw [Secrets.attempting, RefreshableSecret.flight, idle]
      rfl

omit [DecidableEq ι] in
theorem made (instant : ℤ) : (Timed.made (ι := ι) instant).Paced where
  cached := rfl
  own _ _ present := absurd present (by simp [Timed.made, Secrets.make])
  alone object different := by
    have other : (Timed.made (ι := ι) instant).secrets.objects object = { nextAttempt := 0 } :=
      Function.update_of_ne different ..
    rw [other]
  pace :=
    { wait := rfl
      bounds := fun _ member => absurd member List.not_mem_nil
      waits := trivial }
  due flight busy := absurd busy (by simp [idle_made])
  undelivered _ _ _ _ present := absurd present (by simp [Timed.made, Secrets.make])
  apart first _ busy := absurd busy (by simp [idle_made])

end Timed.Paced

/-- An attempt waits for every failure before it. -/
theorem Waits.after_failure {later earlier : List Mark} {failedAt startedAt : ℤ}
    (waits : Waits (later ++ .failed failedAt :: earlier)) (member : .started startedAt ∈ later) :
    failedAt + backoff (inARow (.failed failedAt :: earlier)) ≤ startedAt := by
  have remembered (between : List Mark) :
      failedAt + backoff (inARow (.failed failedAt :: earlier)) ∈
        ends (between ++ .failed failedAt :: earlier) := by
    induction between with
    | nil => exact List.mem_cons_self
    | cons mark between hypothesis =>
        cases mark with
        | started _ => exact hypothesis
        | succeeded => exact hypothesis
        | failed _ => exact List.mem_cons_of_mem _ hypothesis
  induction later with
  | nil => contradiction
  | cons mark later hypothesis =>
      cases mark with
      | started instant =>
          obtain ⟨bounds, waits⟩ := waits
          rcases List.mem_cons.mp member with same | member
          · obtain rfl := Mark.started.inj same
            exact bounds _ (remembered later)
          · exact hypothesis waits member
      | succeeded => exact hypothesis waits (by simpa using member)
      | failed _ => exact hypothesis waits (by simpa using member)

/-- In every run of an object in which fetches and deliveries do not overlap, none starts before
the wait after an earlier failure is over, and the wait is that of the next failure. -/
theorem Timed.attempts_wait (needsValue : Bool) (instant : ℤ) (timed : Timed ι)
    (reach : (machine needsValue).Reaches (Orderly needsValue) (made instant) timed) :
    (∀ later earlier failedAt startedAt,
      timed.log = later ++ .failed failedAt :: earlier → .started startedAt ∈ later →
        failedAt + backoff (inARow (.failed failedAt :: earlier)) ≤ startedAt) ∧
    (timed.secrets.objects 0).wait = backoff (inARow timed.log + 1) := by
  have paced : timed.Paced :=
    reach.keeps Timed.Paced (fun paced orderly step => paced.step orderly step) (.made instant)
  refine ⟨fun later earlier failedAt startedAt same member => ?_, paced.pace.wait⟩
  have waits := paced.pace.waits
  rw [same] at waits
  exact waits.after_failure member

/-- A step whose readings of the clock are all the same. -/
theorem Timed.step_of_next {timed : Timed ι} {event : Event ι} {needsValue : Bool} {clock : ℤ}
    {after : Secrets ι} (plain : event.Plain) (reads : event.clock = some fun _ => clock)
    (later : timed.now ≤ clock) (step : timed.secrets.next needsValue event = some after)
    (apart : after.Apart) :
    (machine needsValue).Step (Orderly needsValue) event timed
      { secrets := after, now := clock, log := after.marks event ++ timed.log } := by
  refine ⟨⟨plain, fun other same => ?_, fun other same => ?_⟩, ?_⟩
  · obtain rfl := Option.some.inj (reads.symm.trans same)
    exact ⟨fun _ => le_rfl, later⟩
  · obtain rfl := Option.some.inj (step.symm.trans same)
    exact apart
  · simp only [machine, step, reads, Option.map_some, Option.elim_some]

/-- Four calls and the background task of one object do not overlap. -/
theorem Secrets.apart_of_four {secrets : Secrets (Fin 4)}
    (others : ∀ object, (secrets.objects (object + 1)).flight = none)
    (calls : ∀ first second : Fin 4, secrets.attempting (.call first) →
      secrets.attempting (.call second) → first = second)
    (background : ∀ task : Fin 4, secrets.attempting (.call task) →
      secrets.attempting (.background 0) = false) : secrets.Apart := by
  have only {object : ℕ} (busy : secrets.attempting (.background object)) : object = 0 := by
    cases object with
    | zero => rfl
    | succ object => simp [attempting, others object] at busy
  intro first second one two
  cases first with
  | call task =>
      cases second with
      | call other => rw [calls task other one two]
      | background object =>
          obtain rfl := only two
          simp [background task one] at two
  | background object =>
      obtain rfl := only one
      cases second with
      | call task => simp [background task two] at one
      | background other => rw [only two]

/-- The first value is stale from the start. -/
def shortSecret : Secret where
  value := "short"
  expiresAt := some (seconds 60)

/-- A delivery fails, then the fetch of a background task, then the delivery again: the fourth
attempt comes after the wait of the third failure. -/
theorem Timed.attempts_wait_thrice :
    ∃ timed : Timed (Fin 4), ∃ earlier,
      (machine true).Reaches (Orderly true) (made 0) timed ∧
      timed.log = .started (seconds 35) :: .failed (seconds 15) :: earlier ∧
      earlier = [.started (seconds 15), .failed (seconds 5), .started (seconds 5), .failed 0,
        .started 0, .succeeded, .started 0] ∧
      backoff (inARow (.failed (seconds 15) :: earlier)) = seconds 20 ∧
      seconds 15 + backoff (inARow (.failed (seconds 15) :: earlier)) ≤ seconds 35 := by
  have reach : (machine true).Reaches (Orderly true) (made 0 : Timed (Fin 4)) _ :=
    .head ⟨.begin 0 .push fun _ => 0, step_of_next trivial rfl le_rfl rfl
      (Secrets.apart_of_four (fun _ => rfl) (by decide) (by decide))⟩ <|
    .head ⟨.answer 0 (.secret shortSecret) fun _ => 0, step_of_next trivial rfl le_rfl rfl
      (Secrets.apart_of_four (fun _ => rfl) (by decide) (by decide))⟩ <|
    .head ⟨.deliver 0 (.failed true false) fun _ => 0, step_of_next trivial rfl le_rfl rfl
      (Secrets.apart_of_four (fun _ => rfl) (by decide) (by decide))⟩ <|
    .head ⟨.begin 1 .current fun _ => seconds 5, step_of_next trivial rfl (by decide) rfl
      (Secrets.apart_of_four (fun _ => rfl) (by decide) (by decide))⟩ <|
    .head ⟨.wake 0 fun _ => seconds 5, step_of_next trivial rfl le_rfl rfl
      (Secrets.apart_of_four (fun _ => rfl) (by decide) (by decide))⟩ <|
    .head ⟨.answerBackground 0 .issuerError fun _ => seconds 5, step_of_next trivial rfl le_rfl rfl
      (Secrets.apart_of_four (fun _ => rfl) (by decide) (by decide))⟩ <|
    .head ⟨.begin 2 .push fun _ => seconds 15, step_of_next trivial rfl (by decide) rfl
      (Secrets.apart_of_four (fun _ => rfl) (by decide) (by decide))⟩ <|
    .head ⟨.deliver 2 (.failed true false) fun _ => seconds 15, step_of_next trivial rfl le_rfl rfl
      (Secrets.apart_of_four (fun _ => rfl) (by decide) (by decide))⟩ <|
    .single ⟨.begin 3 .push fun _ => seconds 35, step_of_next trivial rfl (by decide) rfl
      (Secrets.apart_of_four (fun _ => rfl) (by decide) (by decide))⟩
  exact ⟨_, _, reach, rfl, rfl, by decide, (attempts_wait true 0 _ reach).1
    [.started (seconds 35)] _ (seconds 15) _ rfl (.head _)⟩

end Drukbox.SecretsExchange
