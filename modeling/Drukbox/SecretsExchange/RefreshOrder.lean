import Drukbox.SecretsExchange.Secrets

/-!
# A refresh order and the timer

An order puts a new object in the cache, and its fetch is later than every fetch of the objects
before.  A push that still works on an old object can hand its value over after the order was
answered.  Where no push does, the provider keeps a value of a fetch that began with the order or
after it.
-/

namespace Drukbox.SecretsExchange

open Await

variable {ι : Type} [DecidableEq ι] {secrets before after : Secrets ι} {born : ℕ → ℕ}

/-- A value is handed over for an object that no answered order has replaced. -/
def Secrets.Unreplaced (secrets : Secrets ι) : Event ι → Prop
  | .deliver task _ _ => ∀ object secret order,
      secrets.calls task = some (.delivering object secret order) →
        ∀ other later since, secrets.calls other = some (.ended (.refreshed later since)) →
          later ≤ object
  | .begin _ _ _ | .answer _ _ _ | .wake _ _ | .answerBackground _ _ _ | .callback _ | .forget =>
      True

/-- A call of `push` on an object, where the object was made after so many fetches. -/
def Purpose.Since (born : ℕ → ℕ) (object : ℕ) : Purpose → Prop
  | current | push _ none => True
  | push _ (some since) => since = born object
  | order _ => False

/-- What a call knows of the fetches of its object. -/
def Call.Since (born : ℕ → ℕ) (created : ℕ) (held : Option Fetched) : Call → Prop
  | fetching object fetch purpose =>
      object < created ∧ born object ≤ fetch ∧ purpose.Since born object
  | delivering object secret order =>
      object < created ∧ born object ≤ secret.fetch ∧
        ∀ since, order = some since → since = born object
  | ended (.refreshed object since) =>
      object < created ∧ since = born object ∧ ∃ value, held = some value ∧ since ≤ value.fetch
  | ended (.served _ _) | ended .pushed | ended (.unavailable _) | ended .raised => True

/-- Objects are made one after the other, each after so many fetches, and a value comes from a
fetch after its object was made. -/
structure Since (born : ℕ → ℕ) (secrets : Secrets ι) : Prop where
  bounded : ∀ {object}, object < secrets.created → born object ≤ secrets.fetches
  ordered : ∀ {object later}, object ≤ later → later < secrets.created → born object ≤ born later
  cached : ∀ {object}, secrets.cached = some object → object < secrets.created
  value : ∀ {object latest}, (secrets.objects object).latest = some latest →
    object < secrets.created ∧ born object ≤ latest.fetch
  background : ∀ {object running}, (secrets.objects object).fetching = some running →
    object < secrets.created ∧ ∀ fetch, running = .fetching fetch → born object ≤ fetch
  call : ∀ {task call}, secrets.calls task = some call →
    call.Since born secrets.created secrets.held

namespace Since

open Secrets

variable {task : ι} {object : ℕ}

omit [DecidableEq ι] in
theorem make (since : Since born secrets) (now : ℤ) :
    Since (Function.update born secrets.created secrets.fetches) (secrets.make now) := by
  have old {object : ℕ} (made : object < secrets.created) :
      Function.update born secrets.created secrets.fetches object = born object := by
    simp [Nat.ne_of_lt made]
  refine ⟨fun {object} made => ?_, fun {object later} le made => ?_, fun {object} same => ?_,
    fun {object latest} held => ?_, fun {object running} busy => ?_, fun {task call} present => ?_⟩
  · rcases Nat.lt_succ_iff_lt_or_eq.mp made with made | rfl
    · rw [old made]
      exact since.bounded made
    · simp [Secrets.make]
  · rcases Nat.lt_succ_iff_lt_or_eq.mp made with made | rfl
    · rw [old made, old (by omega)]
      exact since.ordered le made
    · by_cases same : object = secrets.created
      · simp [same]
      · rw [old (by omega)]
        have earlier : object < secrets.created := by omega
        simpa using since.bounded earlier
  · obtain rfl := Option.some.inj same
    exact Nat.lt_succ_self _
  · simp only [Secrets.make, Function.update_apply] at held
    split at held
    · contradiction
    · obtain ⟨made, later⟩ := since.value held
      rw [old made]
      exact ⟨Nat.lt_succ_of_lt made, later⟩
  · simp only [Secrets.make, Function.update_apply] at busy
    split at busy
    · contradiction
    · obtain ⟨made, later⟩ := since.background busy
      rw [old made]
      exact ⟨Nat.lt_succ_of_lt made, later⟩
  · have known := since.call present
    cases call with
    | fetching object fetch purpose =>
        obtain ⟨made, later, purposed⟩ := known
        refine ⟨Nat.lt_succ_of_lt made, (old made).symm ▸ later, ?_⟩
        cases purpose with
        | current => trivial
        | push now order =>
            cases order with
            | none => trivial
            | some _ => exact purposed.trans (old made).symm
        | order _ => exact purposed
    | delivering object secret order =>
        obtain ⟨made, later, ordered⟩ := known
        exact ⟨Nat.lt_succ_of_lt made, (old made).symm ▸ later, (old made).symm ▸ ordered⟩
    | ended result =>
        cases result with
        | refreshed object began =>
            obtain ⟨made, same, value⟩ := known
            exact ⟨Nat.lt_succ_of_lt made, same.trans (old made).symm, value⟩
        | served | pushed | unavailable | raised => trivial

theorem setCall (since : Since born secrets) {call : Call}
    (known : call.Since born secrets.created secrets.held) :
    Since born (secrets.setCall task call) := by
  refine ⟨since.bounded, since.ordered, since.cached, since.value, since.background,
    fun {other running} present => ?_⟩
  simp only [Secrets.setCall, Function.update_apply] at present
  split at present
  · obtain rfl := Option.some.inj present
    exact known
  · exact since.call present

omit [DecidableEq ι] in
theorem setObject (since : Since born secrets) {refreshable : RefreshableSecret}
    (value : ∀ latest, refreshable.latest = some latest →
      object < secrets.created ∧ born object ≤ latest.fetch)
    (background : ∀ running, refreshable.fetching = some running →
      object < secrets.created ∧ ∀ fetch, running = .fetching fetch → born object ≤ fetch) :
    Since born (secrets.setObject object refreshable) := by
  refine ⟨since.bounded, since.ordered, since.cached, fun {other latest} held => ?_,
    fun {other running} busy => ?_, since.call⟩
  · simp only [Secrets.setObject, Function.update_apply] at held
    split at held
    · next same => exact same ▸ value latest held
    · exact since.value held
  · simp only [Secrets.setObject, Function.update_apply] at busy
    split at busy
    · next same => exact same ▸ background running busy
    · exact since.background busy

omit [DecidableEq ι] in
theorem setdefault (since : Since born secrets) (now : ℤ) :
    ∃ later, Since later (secrets.setdefault now).1 ∧
      (secrets.setdefault now).2 < (secrets.setdefault now).1.created := by
  unfold Secrets.setdefault
  split
  · next cached => exact ⟨born, since, since.cached cached⟩
  · exact ⟨_, since.make now, Nat.lt_succ_self _⟩

omit [DecidableEq ι] in
theorem resume (since : Since born secrets) {purpose : Purpose} {now : ℤ}
    (made : object < secrets.created) (purposed : purpose.Since born object) :
    (secrets.resume object purpose now).Since born secrets.created secrets.held := by
  cases purpose with
  | current =>
      simp only [Secrets.resume]
      split <;> trivial
  | push began order =>
      simp only [Secrets.resume]
      split
      · next latest delivers =>
          refine ⟨made, ?_, fun started same => ?_⟩
          · simp only [RefreshableSecret.toDeliver] at delivers
            split at delivers
            · contradiction
            · exact (since.value (Option.filter_eq_some_iff.mp delivers).1).2
          · subst same
            exact purposed
      · split <;> trivial
  | order started => exact absurd purposed id

theorem refresh (since : Since born secrets) {purpose : Purpose} {now later : ℤ}
    (made : object < secrets.created) (purposed : purpose.Since born object) :
    Since born (secrets.refresh task object purpose now later) := by
  unfold Secrets.refresh
  split
  · have counted : Since born { secrets with fetches := secrets.fetches + 1 } :=
      ⟨fun made => Nat.le_succ_of_le (since.bounded made), since.ordered, since.cached, since.value,
        since.background, since.call⟩
    exact counted.setCall ⟨made, since.bounded made, purposed⟩
  · exact since.setCall (since.resume made purposed)

theorem push (since : Since born secrets) {order : Option ℕ} {now later : ℤ}
    (made : object < secrets.created) (purposed : (Purpose.push now order).Since born object) :
    Since born (secrets.push task object order now later) := by
  unfold Secrets.push
  split
  · exact since.refresh made purposed
  · exact since.setCall (since.resume made purposed)

theorem begin (since : Since born secrets) {method : Method} {clock : ℕ → ℤ} :
    ∃ later, Since later (secrets.begin true task clock method) := by
  cases method with
  | current =>
      obtain ⟨later, since_later, made⟩ := since.setdefault (clock 0)
      refine ⟨later, ?_⟩
      simp only [Secrets.begin]
      split
      · next latest valid =>
          refine (since_later.setObject (fun value held => ?_) fun running busy => ?_).setCall
            trivial
          · split at held <;> exact since_later.value held
          · split at busy
            · rcases RefreshableSecret.refreshInBackground_cases busy with ⟨rfl, -⟩ | running
              · exact ⟨made, fun fetch same => by cases same⟩
              · exact since_later.background running
            · exact since_later.background busy
      · exact since_later.refresh made trivial
  | push =>
      obtain ⟨later, since_later, made⟩ := since.setdefault (clock 0)
      refine ⟨later, ?_⟩
      simp only [Secrets.begin]
      split
      · exact since_later.push made trivial
      · exact since_later.setCall trivial
  | refresh =>
      have made : secrets.created < (secrets.make (clock 0)).created := Nat.lt_succ_self _
      have purposed : (Purpose.push (clock 1) (some secrets.fetches)).Since
          (Function.update born secrets.created secrets.fetches) secrets.created := by
        simp [Purpose.Since]
      exact ⟨_, (since.make (clock 0)).push made purposed⟩

omit [DecidableEq ι] in
theorem refreshed (since : Since born secrets) {fetch : ℕ} (answer : Answer) (now : ℤ)
    (made : object < secrets.created) (later : born object ≤ fetch) (latest : Fetched)
    (held : ((secrets.objects object).refreshed fetch answer now).latest = some latest) :
    object < secrets.created ∧ born object ≤ latest.fetch := by
  cases answer with
  | secret secret =>
      obtain rfl := Option.some.inj held
      exact ⟨made, later⟩
  | issuerError | otherError => exact since.value held

theorem answered (since : Since born secrets) {fetch : ℕ} {purpose : Purpose} {answer : Answer}
    {clock : ℕ → ℤ} (waits : secrets.calls task = some (.fetching object fetch purpose)) :
    Since born (secrets.answered task object fetch purpose answer clock) := by
  obtain ⟨made, later, purposed⟩ := since.call waits
  have written : Since born (secrets.setObject object
      ((secrets.objects object).refreshed fetch answer (clock 0))) := by
    refine since.setObject (since.refreshed answer (clock 0) made later) fun running busy => ?_
    cases answer <;> exact since.background busy
  unfold Secrets.answered
  dsimp only
  split
  · exact written.setCall trivial
  · exact written.setCall (written.resume made purposed)

/-- The provider's value after a hand-over for an object that no answered order has replaced. -/
theorem delivered (since : Since born secrets) {secret : Fetched} {order : Option ℕ}
    {delivery : Delivery} {clock : ℕ → ℤ}
    (waits : secrets.calls task = some (.delivering object secret order))
    (unreplaced : ∀ other later began,
      secrets.calls other = some (.ended (.refreshed later began)) → later ≤ object) :
    Since born (secrets.delivered task object secret order delivery clock) := by
  obtain ⟨made, fetched, ordered⟩ := since.call waits
  have holding (held : Option Fetched) (kept : held = some secret ∨ held = secrets.held) :
      Since born { secrets with held } := by
    refine ⟨since.bounded, since.ordered, since.cached, since.value, since.background,
      fun {other call} present => ?_⟩
    have known := since.call present
    cases call with
    | fetching | delivering => exact known
    | ended result =>
        cases result with
        | refreshed later began =>
            obtain ⟨made_later, same, value⟩ := known
            refine ⟨made_later, same, ?_⟩
            rcases kept with rfl | rfl
            · refine ⟨secret, rfl, ?_⟩
              have earlier := since.ordered (unreplaced _ _ _ present) made
              omega
            · exact value
        | served | pushed | unavailable | raised => trivial
  have written (held : Option Fetched) (kept : held = some secret ∨ held = secrets.held)
      (refreshable : RefreshableSecret)
      (latest : refreshable.latest = (secrets.objects object).latest)
      (fetching : refreshable.fetching = (secrets.objects object).fetching) :
      Since born ({ secrets with held }.setObject object refreshable) :=
    (holding held kept).setObject (fun value present => since.value (latest ▸ present))
      fun running busy => since.background (fetching ▸ busy)
  cases delivery with
  | accepted =>
      refine (written (some secret) (.inl rfl)
        { secrets.objects object with
          pushed := some secret, wait := firstRetry } rfl rfl).setCall ?_
      cases order with
      | none => trivial
      | some began =>
          have same := ordered began rfl
          exact ⟨made, same, secret, rfl, by omega⟩
  | failed providerError stored =>
      refine (written (if stored then some secret else secrets.held) ?_
        (if providerError then (secrets.objects object).retryLater (clock 0)
          else secrets.objects object) ?_ ?_).setCall ?_
      · cases stored
        · exact .inr rfl
        · exact .inl rfl
      · split <;> rfl
      · split <;> rfl
      · cases providerError <;> cases order <;> trivial

theorem next (since : Since born before) {event : Event ι} (unreplaced : before.Unreplaced event)
    (step : before.next true event = some after) : ∃ later, Since later after := by
  cases event with
  | begin task method clock =>
      simp only [Secrets.next] at step
      split at step
      · obtain rfl := Option.some.inj step
        exact since.begin
      · contradiction
  | answer task answer clock =>
      simp only [Secrets.next] at step
      split at step
      · next waits =>
          obtain rfl := Option.some.inj step
          exact ⟨born, since.answered waits⟩
      · contradiction
  | deliver task delivery clock =>
      simp only [Secrets.next] at step
      split at step
      · next waits =>
          obtain rfl := Option.some.inj step
          exact ⟨born, since.delivered waits (unreplaced _ _ _ waits)⟩
      · contradiction
  | wake object clock =>
      simp only [Secrets.next] at step
      split at step
      · next created =>
          have made := (since.background created).1
          split at step
          · obtain rfl := Option.some.inj step
            have counted : Since born { before with fetches := before.fetches + 1 } :=
              ⟨fun made => Nat.le_succ_of_le (since.bounded made), since.ordered, since.cached,
                since.value, since.background, since.call⟩
            refine ⟨born, counted.setObject (fun _ held => since.value held) fun running busy =>
              ⟨made, fun fetch same => ?_⟩⟩
            obtain rfl := Option.some.inj busy
            obtain rfl := Background.fetching.inj same
            exact since.bounded made
          · obtain rfl := Option.some.inj step
            refine ⟨born, since.setObject (fun _ held => since.value held) fun running busy =>
              ⟨made, fun fetch same => ?_⟩⟩
            obtain rfl := Option.some.inj busy
            contradiction
      · contradiction
  | answerBackground object answer clock =>
      simp only [Secrets.next] at step
      split at step
      · next fetch fetching =>
          obtain rfl := Option.some.inj step
          obtain ⟨made, later⟩ := since.background fetching
          refine ⟨born, since.setObject
            (since.refreshed answer (clock 0) made (later fetch rfl)) fun running busy =>
              ⟨made, fun other same => ?_⟩⟩
          obtain rfl := Option.some.inj busy
          contradiction
      · contradiction
  | callback object =>
      simp only [Secrets.next] at step
      split at step
      · obtain rfl := Option.some.inj step
        exact ⟨born, since.setObject (fun _ held => since.value held) fun _ busy => by cases busy⟩
      · contradiction
  | forget =>
      obtain rfl := Option.some.inj step
      exact ⟨born, since.bounded, since.ordered, (fun cached => by cases cached), since.value,
        since.background, since.call⟩

omit [DecidableEq ι] in
theorem initial : Since (fun _ => 0) ({} : Secrets ι) where
  bounded _ := Nat.zero_le _
  ordered _ _ := Nat.le_refl _
  cached held := by cases held
  value held := by cases held
  background busy := by cases busy
  call present := by cases present

end Since

/-- In every run in which nothing is handed over for an object that an answered order has replaced,
the provider holds a value of a fetch that began with the latest answered order or after it. -/
theorem Secrets.order_beats_timer (secrets : Secrets ι)
    (reach : (machine true).Reaches Unreplaced {} secrets) (task : ι) (object began : ℕ)
    (answered : secrets.calls task = some (.ended (.refreshed object began))) :
    ∃ value, secrets.held = some value ∧ began ≤ value.fetch := by
  obtain ⟨born, since⟩ := reach.keeps (fun secrets => ∃ born, Since born secrets)
    (fun ⟨_, since⟩ unreplaced step => since.next unreplaced step) ⟨_, .initial⟩
  exact (since.call answered).2.2

/-- Whether nothing is handed over for an object that one of three calls has replaced. -/
def Secrets.isUnreplaced (secrets : Secrets (Fin 3)) : Event (Fin 3) → Bool
  | .deliver task _ _ =>
      match secrets.calls task with
      | some (.delivering object _ _) =>
          decide (∀ other : Fin 3,
            (match secrets.calls other with
            | some (.ended (.refreshed later _)) => decide (later ≤ object)
            | _ => true) = true)
      | _ => true
  | _ => true

theorem Secrets.isUnreplaced_sound (secrets : Secrets (Fin 3)) (event : Event (Fin 3))
    (passes : secrets.isUnreplaced event) : secrets.Unreplaced event := by
  cases event with
  | begin | answer | wake | answerBackground | callback | forget => trivial
  | deliver task delivery clock =>
      intro object secret order delivers other later since ended
      simp only [isUnreplaced, delivers, decide_eq_true_eq] at passes
      have newer := passes other
      simpa only [ended, decide_eq_true_eq] using newer

/-- A push of the timer is in flight when an order begins, and is delivered before it; a second one
begins during the order, on the order's object, and is delivered after it. -/
def timerAround {ι : Type} (before order during : ι) : List (Event ι) :=
  [.begin before .push fun _ => 0, .begin order .refresh fun _ => 0,
    .answer before (.secret { value := "old" }) fun _ => 0, .deliver before .accepted fun _ => 0,
    .begin during .push fun _ => 0, .answer order (.secret { value := "new" }) fun _ => 0,
    .deliver order .accepted fun _ => 0, .answer during (.secret { value := "newer" }) fun _ => 0,
    .deliver during .accepted fun _ => 0]

theorem Secrets.order_beats_timer_around :
    ∃ secrets : Secrets (Fin 3),
      (machine true).Reaches Unreplaced {} secrets ∧
      secrets.calls 1 = some (.ended (.refreshed 1 1)) ∧
      secrets.held = some { secret := { value := "newer" }, fetch := 2 } ∧
      ∃ value, secrets.held = some value ∧ 1 ≤ value.fetch :=
  have reach : (machine true).Reaches Unreplaced ({} : Secrets (Fin 3)) _ :=
    Machine.reaches_of_runChecked isUnreplaced isUnreplaced_sound (timerAround 0 1 2) rfl
  ⟨_, reach, rfl, rfl, order_beats_timer _ reach 1 _ _ rfl⟩

/-- The timer's push awaits its fetch while an order makes a new object, fetches and delivers. -/
def timerRace : List (Event Bool) :=
  [.begin false .push fun _ => 0, .begin true .refresh fun _ => 0,
    .answer true (.secret { value := "new" }) fun _ => 0, .deliver true .accepted fun _ => 0,
    .answer false (.secret { value := "old" }) fun _ => 0, .deliver false .accepted fun _ => 0]

/-- Then the provider gets the value of the push, whose fetch began before the order. -/
theorem Secrets.timer_beats_order :
    ∃ secrets : Secrets Bool, ∃ value,
      (machine true).Reaches (fun _ _ => True) {} secrets ∧
      secrets.calls true = some (.ended (.refreshed 1 1)) ∧
      secrets.held = some value ∧ value.fetch < 1 :=
  ⟨_, _, Machine.reaches_of_run timerRace (fun _ _ _ => trivial) rfl, rfl, rfl, by decide⟩

end Drukbox.SecretsExchange
