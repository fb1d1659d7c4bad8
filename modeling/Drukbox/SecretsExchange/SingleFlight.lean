import Drukbox.SecretsExchange.Secrets

/-!
# One fetch at a time

A stale hit starts a background fetch only where none runs.  A call without a valid value to serve,
and a push without one to hand over, fetch in any case.  Where these begin and meet no other fetch,
one fetch of the entry is in flight at a time, and the latest value only moves to a later fetch.
-/

namespace Drukbox.SecretsExchange

open Await

variable {ι : Type} [DecidableEq ι] {needsValue : Bool} {before after : Secrets ι}

/-- Who awaits `Secret.fetch`. -/
inductive Flight (ι : Type)
  | call (task : ι)
  | background (object : ℕ)
  deriving DecidableEq

/-- The fetch that a call awaits. -/
def Call.flight : Call → Option ℕ
  | fetching _ fetch _ => some fetch
  | delivering _ _ _ | ended _ => none

/-- The fetch that the background task awaits. -/
def RefreshableSecret.flight (refreshable : RefreshableSecret) : Option ℕ :=
  match refreshable.fetching with
  | some (.fetching fetch) => some fetch
  | _ => none

namespace Secrets

/-- The fetch in flight of one awaiter. -/
def flight (secrets : Secrets ι) : Flight ι → Option ℕ
  | .call task => (secrets.calls task).bind Call.flight
  | .background object => (secrets.objects object).flight

/-- The call comes to `Secret.fetch` before its first `await`, whatever else is in flight. -/
def asks (needsValue : Bool) (secrets : Secrets ι) (clock : ℕ → ℤ) : Method → Bool
  | .current =>
      let (secrets, object) := secrets.setdefault (clock 0)
      let refreshable := secrets.objects object
      (refreshable.valid (clock 1)).isNone && refreshable.refreshes (clock 2)
  | .push =>
      let (secrets, object) := secrets.setdefault (clock 0)
      let refreshable := secrets.objects object
      needsValue && refreshable.isDue (clock 1) && refreshable.pushRefreshes (clock 2) &&
        refreshable.refreshes (clock 3)
  | .refresh => true

end Secrets

/-- The runs without orders and without `forget`. -/
def Event.Plain : Event ι → Prop
  | begin _ .refresh _ | forget => False
  | begin _ .current _ | begin _ .push _ | answer _ _ _ | deliver _ _ _ | wake _ _
  | answerBackground _ _ _ | callback _ => True

/-- A call that fetches in any case meets no other fetch, and a background fetch meets none of a
call. -/
def Secrets.Alone (needsValue : Bool) (secrets : Secrets ι) (event : Event ι) : Prop :=
  event.Plain ∧
    match event with
    | .begin _ method clock =>
        secrets.asks needsValue clock method → ∀ flight, secrets.flight flight = none
    | .wake object clock =>
        (secrets.objects object).refreshes (clock 0) → ∀ task, secrets.flight (.call task) = none
    | .answer _ _ _ | .deliver _ _ _ | .answerBackground _ _ _ | .callback _ | .forget => True

/-- One fetch is in flight, and it is later than every value that the entry holds. -/
structure SingleFlight (secrets : Secrets ι) : Prop where
  only : ∀ {first second fetch other}, secrets.flight first = some fetch →
    secrets.flight second = some other → first = second
  newest : ∀ {flight fetch}, secrets.flight flight = some fetch → fetch < secrets.fetches ∧
    ∀ object latest, (secrets.objects object).latest = some latest → latest.fetch < fetch
  latest : ∀ {object latest}, (secrets.objects object).latest = some latest →
    latest.fetch < secrets.fetches
  background : ∀ {object}, (secrets.objects object).fetching ≠ none →
    secrets.cached = some object

namespace SingleFlight

omit [DecidableEq ι]

theorem quiet (single : SingleFlight before)
    (flights : ∀ flight fetch, after.flight flight = some fetch →
      before.flight flight = some fetch)
    (values : ∀ object latest, (after.objects object).latest = some latest →
      (before.objects object).latest = some latest)
    (fetches : after.fetches = before.fetches)
    (background : ∀ object, (after.objects object).fetching ≠ none →
      after.cached = some object) : SingleFlight after where
  only first second := single.only (flights _ _ first) (flights _ _ second)
  newest flying := by
    obtain ⟨started, later⟩ := single.newest (flights _ _ flying)
    exact ⟨fetches ▸ started, fun object latest held => later object latest (values _ _ held)⟩
  latest held := fetches ▸ single.latest (values _ _ held)
  background := background _

theorem launch (single : SingleFlight before) (started : Flight ι)
    (flights : ∀ flight fetch, after.flight flight = some fetch →
      flight = started ∧ fetch = before.fetches)
    (values : ∀ object latest, (after.objects object).latest = some latest →
      (before.objects object).latest = some latest)
    (fetches : after.fetches = before.fetches + 1)
    (background : ∀ object, (after.objects object).fetching ≠ none →
      after.cached = some object) : SingleFlight after where
  only first second := (flights _ _ first).1.trans (flights _ _ second).1.symm
  newest flying := by
    obtain ⟨-, rfl⟩ := flights _ _ flying
    exact ⟨by omega, fun object latest held => single.latest (values _ _ held)⟩
  latest held := by
    have earlier := single.latest (values _ _ held)
    omega
  background := background _

theorem land (single : SingleFlight before) (landed : Flight ι) (fetch : ℕ)
    (flying : before.flight landed = some fetch)
    (flights : ∀ flight other, after.flight flight = some other →
      flight ≠ landed ∧ before.flight flight = some other)
    (values : ∀ object latest, (after.objects object).latest = some latest →
      (before.objects object).latest = some latest ∨ latest.fetch = fetch)
    (fetches : after.fetches = before.fetches)
    (background : ∀ object, (after.objects object).fetching ≠ none →
      after.cached = some object) : SingleFlight after where
  only first _ := absurd (single.only (flights _ _ first).2 flying) (flights _ _ first).1
  newest still := absurd (single.only (flights _ _ still).2 flying) (flights _ _ still).1
  latest held := by
    rw [fetches]
    rcases values _ _ held with held | rfl
    · exact single.latest held
    · exact (single.newest flying).1
  background := background _

end SingleFlight

namespace Secrets

theorem flight_setCall (secrets : Secrets ι) (task : ι) (call : Call) (flight : Flight ι) :
    (secrets.setCall task call).flight flight =
      if flight = .call task then call.flight else secrets.flight flight := by
  cases flight with
  | call other =>
      simp only [Secrets.flight, setCall, Function.update_apply, Flight.call.injEq]
      split <;> rfl
  | background object => simp [Secrets.flight, setCall]

@[simp] theorem objects_setCall (secrets : Secrets ι) (task : ι) (call : Call) :
    (secrets.setCall task call).objects = secrets.objects := rfl

omit [DecidableEq ι] in
theorem objects_setObject (secrets : Secrets ι) (object other : ℕ)
    (refreshable : RefreshableSecret) :
    (secrets.setObject object refreshable).objects other =
      if other = object then refreshable else secrets.objects other := by
  simp [setObject, Function.update_apply]

theorem flight_setObject (secrets : Secrets ι) (object : ℕ) (refreshable : RefreshableSecret)
    (flight : Flight ι) :
    (secrets.setObject object refreshable).flight flight =
      if flight = .background object then refreshable.flight else secrets.flight flight := by
  cases flight with
  | call task => simp [Secrets.flight, setObject]
  | background other =>
      simp only [Secrets.flight, objects_setObject, Flight.background.injEq]
      split <;> rfl

omit [DecidableEq ι] in
theorem latest_setdefault (secrets : Secrets ι) (now : ℤ) (object : ℕ) (latest : Fetched)
    (held : ((secrets.setdefault now).1.objects object).latest = some latest) :
    (secrets.objects object).latest = some latest := by
  unfold setdefault at held
  split at held
  · exact held
  · simp only [make, Function.update_apply] at held
    split at held
    · contradiction
    · exact held

theorem objects_refresh (secrets : Secrets ι) (task : ι) (object : ℕ) (purpose : Purpose)
    (now later : ℤ) : (secrets.refresh task object purpose now later).objects =
      secrets.objects := by
  unfold refresh
  split <;> rfl

theorem objects_push (secrets : Secrets ι) (task : ι) (object : ℕ) (order : Option ℕ)
    (now later : ℤ) : (secrets.push task object order now later).objects = secrets.objects := by
  unfold push
  split
  · exact objects_refresh ..
  · rfl

omit [DecidableEq ι] in
/-- After `RefreshableSecret.refresh`, a call awaits no fetch. -/
theorem resume_flight (secrets : Secrets ι) (object : ℕ) (purpose : Purpose) (now : ℤ) :
    (secrets.resume object purpose now).flight = none := by
  cases purpose with
  | current =>
      simp only [resume]
      split <;> rfl
  | push began order =>
      simp only [resume]
      split <;> rfl
  | order since =>
      simp only [resume]
      split <;> rfl

end Secrets

namespace SingleFlight

open Secrets

variable {secrets : Secrets ι} {task : ι} {object : ℕ}

theorem setCall (single : SingleFlight secrets) {call : Call} (ended : call.flight = none) :
    SingleFlight (secrets.setCall task call) := by
  refine single.quiet (fun flight fetch flying => ?_) (fun _ _ held => held) rfl
    fun _ => single.background
  rw [flight_setCall] at flying
  split at flying
  · simp [ended] at flying
  · exact flying

omit [DecidableEq ι] in
theorem setdefault (single : SingleFlight secrets) (now : ℤ) :
    SingleFlight (secrets.setdefault now).1 ∧
      (secrets.setdefault now).1.cached = some (secrets.setdefault now).2 ∧
      ∀ flight fetch, (secrets.setdefault now).1.flight flight = some fetch →
        secrets.flight flight = some fetch := by
  unfold Secrets.setdefault
  split
  · next object cached => exact ⟨single, cached, fun _ _ flying => flying⟩
  · next empty =>
      have flights (flight : Flight ι) (fetch : ℕ)
          (flying : (secrets.make now).flight flight = some fetch) :
          secrets.flight flight = some fetch := by
        cases flight with
        | call other => exact flying
        | background object =>
            simp only [Secrets.flight, make, Function.update_apply] at flying ⊢
            split at flying
            · contradiction
            · exact flying
      refine ⟨single.quiet flights (fun object latest held => ?_) rfl fun object busy => ?_, rfl,
        flights⟩
      · refine latest_setdefault secrets now object latest ?_
        simpa [Secrets.setdefault, empty] using held
      · simp only [make, Function.update_apply] at busy
        split at busy
        · contradiction
        · exact absurd (single.background busy) (by simp [empty])

theorem refresh (single : SingleFlight secrets) {purpose : Purpose} {now later : ℤ}
    (idle : (secrets.objects object).refreshes now → ∀ flight, secrets.flight flight = none) :
    SingleFlight (secrets.refresh task object purpose now later) := by
  unfold Secrets.refresh
  split
  · next asks =>
      refine single.launch (.call task) (fun flight fetch flying => ?_)
        (fun _ _ held => held) rfl fun _ => single.background
      rw [flight_setCall] at flying
      split at flying
      · next same => exact ⟨same, (Option.some.inj flying).symm⟩
      · have flying : secrets.flight flight = some fetch := flying
        rw [idle asks flight] at flying
        contradiction
  · exact single.setCall (resume_flight ..)

theorem push (single : SingleFlight secrets) {order : Option ℕ} {now later : ℤ}
    (idle : (secrets.objects object).pushRefreshes now → (secrets.objects object).refreshes later →
      ∀ flight, secrets.flight flight = none) :
    SingleFlight (secrets.push task object order now later) := by
  unfold Secrets.push
  split
  · next asks => exact single.refresh (idle asks)
  · exact single.setCall (resume_flight ..)

theorem hit (single : SingleFlight secrets) (cached : secrets.cached = some object) (stale : Bool) :
    SingleFlight (secrets.setObject object
      (if stale then (secrets.objects object).refreshInBackground
      else secrets.objects object)) := by
  refine single.quiet (fun flight fetch flying => ?_) (fun other latest held => ?_) rfl
    fun other busy => ?_
  · rw [flight_setObject] at flying
    split at flying
    · next same =>
        subst same
        simp only [Secrets.flight]
        split at flying
        · simp only [RefreshableSecret.flight, RefreshableSecret.refreshInBackground] at flying ⊢
          cases running : (secrets.objects object).fetching <;> simp_all
        · exact flying
    · exact flying
  · rw [objects_setObject] at held
    split at held
    · next same =>
        subst same
        split at held <;> exact held
    · exact held
  · rw [objects_setObject] at busy
    split at busy
    · next same =>
        subst same
        exact cached
    · exact single.background busy

theorem begin (single : SingleFlight secrets) {method : Method} {clock : ℕ → ℤ}
    (ordinary : method ≠ .refresh)
    (alone : secrets.asks needsValue clock method → ∀ flight, secrets.flight flight = none) :
    SingleFlight (secrets.begin needsValue task clock method) := by
  obtain ⟨single_default, cached, flights⟩ := single.setdefault (clock 0)
  have idle (asks : secrets.asks needsValue clock method) (flight : Flight ι) :
      (secrets.setdefault (clock 0)).1.flight flight = none := by
    cases flying : (secrets.setdefault (clock 0)).1.flight flight with
    | none => rfl
    | some fetch => exact absurd (flights _ _ flying) (by simp [alone asks flight])
  cases method with
  | current =>
      simp only [Secrets.begin]
      split
      · next latest valid => exact (single_default.hit cached _).setCall rfl
      · next missing =>
          refine single_default.refresh fun refreshes => idle ?_
          simp [Secrets.asks, missing, refreshes]
  | push =>
      simp only [Secrets.begin]
      split
      · next due =>
          refine single_default.push fun lacks refreshes => idle ?_
          simp only [Bool.and_eq_true] at due
          simp [Secrets.asks, due.1, due.2, lacks, refreshes]
      · exact single_default.setCall rfl
  | refresh => exact absurd rfl ordinary

theorem refreshed_cases (refreshable : RefreshableSecret) (fetch : ℕ) (answer : Answer) (now : ℤ) :
    (refreshable.refreshed fetch answer now).fetching = refreshable.fetching ∧
      ∀ latest, (refreshable.refreshed fetch answer now).latest = some latest →
        refreshable.latest = some latest ∨ latest.fetch = fetch := by
  cases answer with
  | secret secret =>
      refine ⟨rfl, fun latest held => .inr ?_⟩
      obtain rfl := Option.some.inj held
      rfl
  | issuerError => exact ⟨rfl, fun latest held => .inl held⟩
  | otherError => exact ⟨rfl, fun latest held => .inl held⟩

theorem answered (single : SingleFlight secrets) {fetch : ℕ} {purpose : Purpose} {answer : Answer}
    {clock : ℕ → ℤ} (waits : secrets.calls task = some (.fetching object fetch purpose)) :
    SingleFlight (secrets.answered task object fetch purpose answer clock) := by
  obtain ⟨fetching, latest⟩ :=
    refreshed_cases (secrets.objects object) fetch answer (clock 0)
  have lands (call : Call) (ended : call.flight = none) :
      SingleFlight ((secrets.setObject object
        ((secrets.objects object).refreshed fetch answer (clock 0))).setCall task call) := by
    refine single.land (.call task) fetch ?_ (fun flight other flying => ?_)
      (fun other value held => ?_) rfl fun other busy => ?_
    · simp [Secrets.flight, waits, Call.flight]
    · rw [flight_setCall, flight_setObject] at flying
      split at flying
      · simp [ended] at flying
      · next different =>
          refine ⟨different, ?_⟩
          split at flying
          · next same =>
              subst same
              simpa [Secrets.flight, RefreshableSecret.flight, fetching] using flying
          · exact flying
    · rw [objects_setCall, objects_setObject] at held
      split at held
      · next same =>
          subst same
          exact latest value held
      · exact .inl held
    · rw [objects_setCall, objects_setObject] at busy
      split at busy
      · next same =>
          subst same
          exact single.background (fetching ▸ busy)
      · exact single.background busy
  unfold Secrets.answered
  dsimp only
  split
  · exact lands _ rfl
  · exact lands _ (resume_flight ..)

theorem delivered (single : SingleFlight secrets) {secret : Fetched} {order : Option ℕ}
    {delivery : Delivery} {clock : ℕ → ℤ} :
    SingleFlight (secrets.delivered task object secret order delivery clock) := by
  have kept (held : Option Fetched) (refreshable : RefreshableSecret)
      (latest : refreshable.latest = (secrets.objects object).latest)
      (fetching : refreshable.fetching = (secrets.objects object).fetching) :
      SingleFlight ({ secrets with held }.setObject object refreshable) := by
    refine single.quiet (fun flight fetch flying => ?_) (fun other value present => ?_) rfl
      fun other busy => ?_
    · rw [flight_setObject] at flying
      split at flying
      · next same =>
          subst same
          simpa [Secrets.flight, RefreshableSecret.flight, fetching] using flying
      · exact flying
    · rw [objects_setObject] at present
      split at present
      · next same =>
          subst same
          exact latest ▸ present
      · exact present
    · rw [objects_setObject] at busy
      split at busy
      · next same =>
          subst same
          exact single.background (fetching ▸ busy)
      · exact single.background busy
  cases delivery with
  | accepted =>
      refine SingleFlight.setCall (kept _ _ ?_ ?_) rfl <;> rfl
  | failed providerError stored =>
      refine (kept _ _ ?_ ?_).setCall rfl <;> split <;> rfl

theorem background_step (single : SingleFlight secrets) {refreshable : RefreshableSecret}
    (fetch : ℕ) (flying : refreshable.flight = none)
    (values : ∀ latest, refreshable.latest = some latest →
      (secrets.objects object).latest = some latest ∨ latest.fetch = fetch)
    (landed : (secrets.objects object).flight = some fetch ∨
      ∀ latest, refreshable.latest = some latest → (secrets.objects object).latest = some latest)
    (known : (secrets.objects object).fetching ≠ none) :
    SingleFlight (secrets.setObject object refreshable) := by
  have background (other : ℕ)
      (busy : ((secrets.setObject object refreshable).objects other).fetching ≠ none) :
      secrets.cached = some other := by
    rw [objects_setObject] at busy
    split at busy
    · next same =>
        subst same
        exact single.background known
    · exact single.background busy
  rcases landed with landed | kept
  · refine single.land (.background object) fetch landed
      (fun flight other still => ?_) (fun other value held => ?_) rfl background
    · rw [flight_setObject] at still
      split at still
      · simp [flying] at still
      · next different => exact ⟨different, still⟩
    · rw [objects_setObject] at held
      split at held
      · next same =>
          subst same
          exact values value held
      · exact .inl held
  · refine single.quiet (fun flight other still => ?_) (fun other value held => ?_) rfl background
    · rw [flight_setObject] at still
      split at still
      · simp [flying] at still
      · exact still
    · rw [objects_setObject] at held
      split at held
      · next same =>
          subst same
          exact kept value held
      · exact held

theorem next (single : SingleFlight before) {event : Event ι}
    (alone : before.Alone needsValue event)
    (step : before.next needsValue event = some after) : SingleFlight after := by
  cases event with
  | begin task method clock =>
      simp only [Secrets.next] at step
      split at step
      · obtain rfl := Option.some.inj step
        refine single.begin ?_ alone.2
        rintro rfl
        exact alone.1
      · contradiction
  | answer task answer clock =>
      simp only [Secrets.next] at step
      split at step
      · next waits =>
          obtain rfl := Option.some.inj step
          exact single.answered waits
      · contradiction
  | deliver task delivery clock =>
      simp only [Secrets.next] at step
      split at step
      · obtain rfl := Option.some.inj step
        exact single.delivered
      · contradiction
  | wake object clock =>
      simp only [Secrets.next] at step
      split at step
      · next created =>
          split at step
          · next asks =>
              obtain rfl := Option.some.inj step
              have calls := alone.2 asks
              have background (flight : Flight ι) (fetch : ℕ)
                  (flying : before.flight flight = some fetch) : False := by
                cases flight with
                | call task => simp [calls task] at flying
                | background other =>
                    have busy : (before.objects other).fetching ≠ none := by
                      intro idle
                      simp [Secrets.flight, RefreshableSecret.flight, idle] at flying
                    have same : other = object := by
                      have first := single.background busy
                      have second : before.cached = some object :=
                        single.background (by simp [created])
                      simpa [first] using second
                    subst same
                    simp [Secrets.flight, RefreshableSecret.flight, created] at flying
              refine single.launch (.background object) (fun flight fetch flying => ?_)
                (fun other value held => ?_) rfl fun other busy => ?_
              · rw [flight_setObject] at flying
                split at flying
                · next same => exact ⟨same, (Option.some.inj flying).symm⟩
                · exact absurd flying fun flying => background _ _ flying
              · rw [objects_setObject] at held
                split at held
                · next same =>
                    subst same
                    exact held
                · exact held
              · rw [objects_setObject] at busy
                split at busy
                · next same =>
                    subst same
                    exact single.background (by simp [created])
                · exact single.background busy
          · obtain rfl := Option.some.inj step
            exact single.background_step 0 rfl (fun _ held => .inl held)
              (.inr fun _ held => held) (by simp [created])
      · contradiction
  | answerBackground object answer clock =>
      simp only [Secrets.next] at step
      split at step
      · next fetch fetching =>
          obtain rfl := Option.some.inj step
          refine single.background_step fetch rfl
            (refreshed_cases (before.objects object) fetch answer (clock 0)).2 (.inl ?_)
            (by simp [fetching])
          simp [RefreshableSecret.flight, fetching]
      · contradiction
  | callback object =>
      simp only [Secrets.next] at step
      split at step
      · next ended =>
          obtain rfl := Option.some.inj step
          exact single.background_step 0 rfl (fun _ held => .inl held)
            (.inr fun _ held => held) (by simp [ended])
      · contradiction
  | forget => exact absurd alone.1 id

/-- A value that a step brings comes from a fetch in flight. -/
theorem latest_cases {event : Event ι} (step : before.next needsValue event = some after)
    {latest : Fetched} (held : (after.objects object).latest = some latest) :
    (before.objects object).latest = some latest ∨
      ∃ flight, before.flight flight = some latest.fetch := by
  have written (refreshable : RefreshableSecret) (target : ℕ) {later : Secrets ι}
      (objects : later.objects = Function.update before.objects target refreshable)
      (values : refreshable.latest = some latest →
        (before.objects target).latest = some latest ∨
          ∃ flight, before.flight flight = some latest.fetch)
      (held : (later.objects object).latest = some latest) :
      (before.objects object).latest = some latest ∨
        ∃ flight, before.flight flight = some latest.fetch := by
    rw [objects, Function.update_apply] at held
    split at held
    · next same => exact same ▸ values held
    · exact .inl held
  cases event with
  | begin task method clock =>
      simp only [Secrets.next] at step
      split at step
      · obtain rfl := Option.some.inj step
        left
        cases method with
        | current =>
            simp only [Secrets.begin] at held
            refine latest_setdefault before (clock 0) object latest ?_
            split at held
            · rw [objects_setCall, objects_setObject] at held
              split at held
              · next same =>
                  subst same
                  split at held <;> exact held
              · exact held
            · rwa [objects_refresh] at held
        | push =>
            simp only [Secrets.begin] at held
            refine latest_setdefault before (clock 0) object latest ?_
            split at held
            · rwa [objects_push] at held
            · exact held
        | refresh =>
            have fresh (held : ((before.make (clock 0)).objects object).latest = some latest) :
                (before.objects object).latest = some latest := by
              simp only [make, Function.update_apply] at held
              split at held
              · contradiction
              · exact held
            simp only [Secrets.begin] at held
            split at held
            · exact fresh (by rwa [objects_push] at held)
            · exact fresh (by rwa [objects_refresh] at held)
      · contradiction
  | answer task answer clock =>
      simp only [Secrets.next] at step
      split at step
      · next target fetch purpose waits =>
          obtain rfl := Option.some.inj step
          refine written ((before.objects target).refreshed fetch answer (clock 0)) target ?_
            (fun held => ?_) held
          · simp only [Secrets.answered]
            split <;> rfl
          · rcases (refreshed_cases _ _ _ _).2 latest held with old | rfl
            · exact .inl old
            · exact .inr ⟨.call task, by simp [Secrets.flight, waits, Call.flight]⟩
      · contradiction
  | deliver task delivery clock =>
      simp only [Secrets.next] at step
      split at step
      · next target secret order waits =>
          obtain rfl := Option.some.inj step
          cases delivery with
          | accepted =>
              refine written _ _ rfl ?_ held
              exact .inl
          | failed providerError stored =>
              refine written _ _ rfl (fun held => .inl ?_) held
              split at held <;> exact held
      · contradiction
  | wake target clock =>
      simp only [Secrets.next] at step
      split at step
      · split at step
        · obtain rfl := Option.some.inj step
          refine written _ _ rfl ?_ held
          exact .inl
        · obtain rfl := Option.some.inj step
          refine written _ _ rfl ?_ held
          exact .inl
      · contradiction
  | answerBackground target answer clock =>
      simp only [Secrets.next] at step
      split at step
      · next fetch fetching =>
          obtain rfl := Option.some.inj step
          refine written _ _ rfl (fun held => ?_) held
          rcases (refreshed_cases _ _ _ _).2 latest held with old | rfl
          · exact .inl old
          · exact .inr ⟨.background target, by
              simp [Secrets.flight, RefreshableSecret.flight, fetching]⟩
      · contradiction
  | callback target =>
      simp only [Secrets.next] at step
      split at step
      · obtain rfl := Option.some.inj step
        refine written _ _ rfl ?_ held
        exact .inl
      · contradiction
  | forget =>
      obtain rfl := Option.some.inj step
      exact .inl held

omit [DecidableEq ι] in
theorem initial : SingleFlight ({} : Secrets ι) where
  only {first _ _ _} flying _ := by cases first <;> cases flying
  newest {flight _} flying := by cases flight <;> cases flying
  latest held := by cases held
  background busy := absurd rfl busy

end SingleFlight

/-- In every run in which a call that fetches in any case meets no other fetch, one fetch is in
flight at a time, and no answer replaces that of a later fetch. -/
theorem Secrets.fetches_one_at_a_time (needsValue : Bool) (secrets : Secrets ι)
    (reach : (machine needsValue).Reaches (Alone needsValue) {} secrets) :
    (∀ first second fetch other, secrets.flight first = some fetch →
      secrets.flight second = some other → first = second) ∧
    ∀ event after, secrets.Alone needsValue event →
      secrets.next needsValue event = some after → ∀ object old new,
        (secrets.objects object).latest = some old →
        (after.objects object).latest = some new → old.fetch ≤ new.fetch := by
  have single : SingleFlight secrets :=
    reach.keeps SingleFlight (fun single alone step => single.next alone step) .initial
  refine ⟨fun _ _ _ _ => single.only, fun event after _ step object old new held replaced => ?_⟩
  rcases SingleFlight.latest_cases step replaced with same | ⟨flight, flying⟩
  · obtain rfl : old = new := by simpa [held] using same
    exact Nat.le_refl _
  · exact Nat.le_of_lt ((single.newest flying).2 object old held)

/-- A first value, which is stale from the start, and the one that follows it. -/
def staleSecret : Secret where
  value := "stale"
  expiresAt := some margin

/-- A cold call fetches.  A stale hit starts a background fetch, beside which a third call is served
from the cache; the answer of the background fetch replaces the older value. -/
theorem Secrets.fetches_one_at_a_time_stale :
    ∃ secrets after : Secrets (Fin 3), ∃ old new,
      (machine true).Reaches (Alone true) {} secrets ∧
      secrets.flight (.background 0) = some 1 ∧
      secrets.calls 2 = some (.ended (.served { secret := staleSecret, fetch := 0 } 0)) ∧
      (∀ first second fetch other, secrets.flight first = some fetch →
        secrets.flight second = some other → first = second) ∧
      secrets.next true (.answerBackground 0 (.secret { value := "fresh" }) fun _ => 0) =
        some after ∧
      (secrets.objects 0).latest = some old ∧ (after.objects 0).latest = some new ∧
      old.fetch ≤ new.fetch :=
  have reach : (machine true).Reaches (Alone true) ({} : Secrets (Fin 3)) _ :=
    .head ⟨.begin 0 .current fun _ => 0,
      ⟨trivial, fun _ flight => by cases flight <;> rfl⟩, rfl⟩ <|
    .head ⟨.answer 0 (.secret staleSecret) fun _ => 0, ⟨trivial, trivial⟩, rfl⟩ <|
    .head ⟨.begin 1 .current fun _ => 0, ⟨trivial, fun asks => by cases asks⟩, rfl⟩ <|
    .head ⟨.wake 0 fun _ => 0, ⟨trivial, fun _ => by decide⟩, rfl⟩ <|
    .single ⟨.begin 2 .current fun _ => 0, ⟨trivial, fun asks => by cases asks⟩, rfl⟩
  have single := fetches_one_at_a_time true _ reach
  ⟨_, _, _, _, reach, rfl, rfl, single.1, rfl, rfl, rfl,
    single.2 (.answerBackground 0 (.secret { value := "fresh" }) fun _ => 0) _
      ⟨trivial, trivial⟩ rfl 0 _ _ rfl rfl⟩

/-- Two cold calls of `current` fetch side by side, and the answer of the older fetch replaces that
of the newer one. -/
theorem Secrets.fetches_side_by_side :
    ∃ secrets later after : Secrets Bool, ∃ event old new,
      (machine true).Reaches (fun _ event => event.Plain) {} secrets ∧
      secrets.flight (.call true) = some 0 ∧ secrets.flight (.call false) = some 1 ∧
      (machine true).Reaches (fun _ event => event.Plain) secrets later ∧
      later.next true event = some after ∧ (later.objects 0).latest = some old ∧
      (after.objects 0).latest = some new ∧ new.fetch < old.fetch := by
  refine ⟨_, _, _, .answer true (.secret { value := "older" }) fun _ => 0, _, _,
    Machine.reaches_of_run
      [.begin true .current fun _ => 0, .begin false .current fun _ => 0] ?_ rfl, rfl, rfl,
    .single ⟨.answer false (.secret { value := "newer" }) fun _ => 0, trivial, rfl⟩, rfl, rfl, rfl,
    by decide⟩
  simp [Event.Plain]

end Drukbox.SecretsExchange
