import Drukbox.SecretsExchange.Secrets

/-!
# What a call of `current` returns

An order and `forget_deleted_hosts` begin a new era of the entry, with an object of its own, while
calls and background tasks of earlier eras work on.  An observer counts the eras, and notes what was
fetched for the present one.  Against these notes, a value that `current` returns is never older
than the latest order before the call, is valid at the call's last look at the clock, and is the
latest of its era where every fetch fails.
-/

namespace Drukbox.SecretsExchange

open Await

variable {ι : Type} [DecidableEq ι]

/-- What the observer notes of a call. -/
structure Begun where
  method : Method
  era : ℕ
  /-- The fetches before the latest order, when the call began. -/
  floor : ℕ
  /-- The latest value of its era, when the call began. -/
  fetched : Option Fetched
  /-- The latest value of any fetch of its era, when the call began. -/
  heard : Option Fetched
  /-- Every fetch that was answered since has raised `IssuerError`. -/
  failing : Bool := true

/-- The secrets of an entry and the observer's notes. -/
structure Watched (ι : Type) where
  secrets : Secrets ι := {}
  /-- The orders and `forget_deleted_hosts` so far. -/
  era : ℕ := 0
  /-- The fetches before the latest order. -/
  floor : ℕ := 0
  /-- The fetches before this era. -/
  eraFloor : ℕ := 0
  /-- The latest value that was fetched for a call of this era, or for a background task that one
  has set off. -/
  fetched : Option Fetched := none
  /-- The latest value of a fetch that began in this era, for whomever. -/
  heard : Option Fetched := none
  /-- The era in which the background task of an object was set off. -/
  setOff : ℕ → ℕ := fun _ => 0
  begun : ι → Option Begun := fun _ => none

namespace Watched

omit [DecidableEq ι] in
/-- A new era. -/
def renew (watched : Watched ι) : Watched ι :=
  { watched with
    era := watched.era + 1
    eraFloor := watched.secrets.fetches
    fetched := none
    heard := none }

omit [DecidableEq ι] in
/-- The era of a refresh order. -/
def order (watched : Watched ι) : Watched ι :=
  { watched.renew with floor := watched.secrets.fetches }

omit [DecidableEq ι] in
/-- Some fetch has not raised `IssuerError`. -/
def unfail (watched : Watched ι) : Watched ι :=
  { watched with begun := fun task => (watched.begun task).map fun begun =>
      { begun with failing := false } }

omit [DecidableEq ι] in
/-- The answer of a fetch for a call or a background task of an era. -/
def hear (watched : Watched ι) (era fetch : ℕ) : Answer → Watched ι
  | .secret secret =>
      { watched.unfail with
        fetched := if era = watched.era then some { secret, fetch } else watched.fetched
        heard := if watched.eraFloor ≤ fetch then some { secret, fetch } else watched.heard }
  | .issuerError => watched
  | .otherError => watched.unfail

omit [DecidableEq ι] in
/-- What is noted of a call that begins now. -/
def noted (watched : Watched ι) (method : Method) : Begun where
  method
  era := watched.era
  floor := watched.floor
  fetched := watched.fetched
  heard := watched.heard

/-- A call begins. -/
def note (watched : Watched ι) (task : ι) (method : Method) : Watched ι :=
  { watched with
    setOff := fun object =>
      if (watched.secrets.objects object).fetching = none then watched.era
      else watched.setOff object
    begun := Function.update watched.begun task (some (watched.noted method)) }

/-- What the observer notes of an event. -/
def observe (watched : Watched ι) : Event ι → Watched ι
  | .begin task .refresh _ => watched.order.note task .refresh
  | .begin task method _ => watched.note task method
  | .answer task answer _ =>
      match watched.secrets.calls task, watched.begun task with
      | some (.fetching _ fetch _), some begun => watched.hear begun.era fetch answer
      | _, _ => watched
  | .answerBackground object answer _ =>
      match (watched.secrets.objects object).fetching with
      | some (.fetching fetch) => watched.hear (watched.setOff object) fetch answer
      | _ => watched
  | .forget => watched.renew
  | .deliver _ _ _ | .wake _ _ | .callback _ => watched

/-- The event loop under observation. -/
def machine (needsValue : Bool) : Machine (Watched ι) (Event ι) where
  next watched event :=
    (watched.secrets.next needsValue event).map fun secrets =>
      { watched.observe event with secrets }

end Watched

/-- The end of a call of `current` for which the entry holds a value. -/
def Result.Answers (fetched : Option Fetched) : Result → Prop
  | served latest checked => fetched = some latest ∧ latest.secret.isValid checked
  | unavailable (some checked) => ∀ latest, fetched = some latest → ¬ latest.secret.isValid checked
  | pushed | refreshed _ _ | unavailable none | raised => False

/-- What a call promises at its end: no value from before the latest order, none that has expired,
and, where every fetch fails, the latest value of its era, if it is valid. -/
structure Begun.Keeps (begun : Begun) (result : Result) : Prop where
  served : ∀ latest checked, result = .served latest checked →
    begun.floor ≤ latest.fetch ∧ ∀ expiresAt, latest.secret.expiresAt = some expiresAt →
      checked < expiresAt
  failing : begun.method = .current → begun.failing → result.Answers begun.fetched

/-- What the observer knows of a call on an object, by the era of an object and the fetches before
it was made. -/
def Call.Fresh (eraOf born : ℕ → ℕ) (secrets : Secrets ι) (begun : Begun) : Call → Prop
  | fetching object fetch purpose =>
      (object < secrets.created ∧ eraOf object = begun.era ∧ begun.floor ≤ born object ∧
        born object ≤ fetch) ∧ (begun.method = .current ↔ purpose = .current) ∧
          (begun.method = .current → begun.failing →
            (secrets.objects object).latest = begun.fetched)
  | delivering object _ _ => object < secrets.created ∧ begun.method ≠ .current
  | ended result => begun.Keeps result

/-- An era has one object, in the cache, and its latest value is the one that was noted. -/
structure Fresh (eraOf born : ℕ → ℕ) (watched : Watched ι) : Prop where
  era : ∀ {object}, object < watched.secrets.created → eraOf object ≤ watched.era ∧
    (eraOf object = watched.era → watched.secrets.cached = some object)
  cached : ∀ {object}, watched.secrets.cached = some object →
    object < watched.secrets.created ∧ eraOf object = watched.era ∧
      watched.floor ≤ born object ∧ (watched.secrets.objects object).latest = watched.fetched
  uncached : watched.secrets.cached = none → watched.fetched = none
  floor : watched.floor ≤ watched.secrets.fetches
  bounded : ∀ {object}, object < watched.secrets.created → born object ≤ watched.secrets.fetches
  value : ∀ {object latest}, (watched.secrets.objects object).latest = some latest →
    object < watched.secrets.created ∧ born object ≤ latest.fetch
  background : ∀ {object running}, (watched.secrets.objects object).fetching = some running →
    object < watched.secrets.created ∧ eraOf object = watched.setOff object ∧
      ∀ fetch, running = .fetching fetch → born object ≤ fetch
  call : ∀ {task call}, watched.secrets.calls task = some call →
    ∃ begun, watched.begun task = some begun ∧ call.Fresh eraOf born watched.secrets begun

namespace Fresh

variable {eraOf born : ℕ → ℕ} {watched : Watched ι} {task : ι} {object : ℕ} {begun : Begun}

omit [DecidableEq ι] in
theorem initial : Fresh (fun _ => 0) (fun _ => 0) ({} : Watched ι) where
  era made := absurd made (Nat.not_lt_zero _)
  cached held := by cases held
  uncached _ := rfl
  floor := Nat.le_refl _
  bounded _ := Nat.zero_le _
  value held := by cases held
  background busy := by cases busy
  call present := by cases present

theorem note (fresh : Fresh eraOf born watched) (method : Method)
    (idle : watched.secrets.calls task = none) : Fresh eraOf born (watched.note task method) := by
  refine { fresh with background := ?_, call := ?_ }
  · intro object running busy
    obtain ⟨made, era, fetch⟩ := fresh.background busy
    refine ⟨made, ?_, fetch⟩
    have working : (watched.secrets.objects object).fetching ≠ none := fun idle =>
      Option.some_ne_none running (busy.symm.trans idle)
    rw [Watched.note]
    simp only [if_neg working]
    exact era
  · intro other call present
    have different : other ≠ task := by
      rintro rfl
      rw [show watched.secrets.calls other = some call from present] at idle
      cases idle
    obtain ⟨begun, known, holds⟩ := fresh.call present
    exact ⟨begun, (Function.update_of_ne different _ _).trans known, holds⟩

omit [DecidableEq ι] in
theorem make (fresh : Fresh eraOf born watched) (now : ℤ)
    (uncached : ∀ object < watched.secrets.created, eraOf object ≠ watched.era)
    (empty : watched.fetched = none) :
    Fresh (Function.update eraOf watched.secrets.created watched.era)
      (Function.update born watched.secrets.created watched.secrets.fetches)
      { watched with secrets := watched.secrets.make now } := by
  have eraOf_old {object : ℕ} (made : object < watched.secrets.created) :
      Function.update eraOf watched.secrets.created watched.era object = eraOf object :=
    Function.update_of_ne (Nat.ne_of_lt made) _ _
  have born_old {object : ℕ} (made : object < watched.secrets.created) :
      Function.update born watched.secrets.created watched.secrets.fetches object = born object :=
    Function.update_of_ne (Nat.ne_of_lt made) _ _
  have objects_old {object : ℕ} (made : object < watched.secrets.created) :
      (watched.secrets.make now).objects object = watched.secrets.objects object :=
    Function.update_of_ne (Nat.ne_of_lt made) _ _
  refine ⟨?_, ?_, nofun, fresh.floor, ?_, ?_, ?_, ?_⟩
  · intro object made
    rcases Nat.lt_succ_iff_lt_or_eq.mp made with made | rfl
    · rw [eraOf_old made]
      exact ⟨(fresh.era made).1, fun same => absurd same (uncached object made)⟩
    · rw [Function.update_self]
      exact ⟨Nat.le_refl _, fun _ => rfl⟩
  · intro object same
    obtain rfl := Option.some.inj same
    refine ⟨Nat.lt_succ_self _, Function.update_self _ _ _, ?_, ?_⟩
    · rw [Function.update_self]
      exact fresh.floor
    · rw [empty]
      simp [Secrets.make]
  · intro object made
    rcases Nat.lt_succ_iff_lt_or_eq.mp made with made | rfl
    · rw [born_old made]
      exact fresh.bounded made
    · rw [Function.update_self]
      exact Nat.le_refl _
  · intro object latest held
    by_cases new : object = watched.secrets.created
    · subst new
      simp [Secrets.make] at held
    · simp only [Secrets.make, Function.update_of_ne new] at held
      obtain ⟨made, later⟩ := fresh.value held
      rw [born_old made]
      exact ⟨Nat.lt_succ_of_lt made, later⟩
  · intro object running busy
    by_cases new : object = watched.secrets.created
    · subst new
      simp [Secrets.make] at busy
    · simp only [Secrets.make, Function.update_of_ne new] at busy
      obtain ⟨made, era, later⟩ := fresh.background busy
      rw [born_old made, eraOf_old made]
      exact ⟨Nat.lt_succ_of_lt made, era, later⟩
  · intro task call present
    obtain ⟨begun, known, holds⟩ := fresh.call present
    refine ⟨begun, known, ?_⟩
    cases call with
    | fetching object fetch purpose =>
        obtain ⟨⟨made, era, floor, later⟩, current, latest⟩ := holds
        rw [Call.Fresh, eraOf_old made, born_old made, objects_old made]
        exact ⟨⟨Nat.lt_succ_of_lt made, era, floor, later⟩, current, latest⟩
    | delivering object => exact ⟨Nat.lt_succ_of_lt holds.1, holds.2⟩
    | ended => exact holds

omit [DecidableEq ι] in
theorem renew (fresh : Fresh eraOf born watched) (floor : ℕ)
    (bounded : floor ≤ watched.secrets.fetches) :
    Fresh eraOf born
      { watched.renew with floor, secrets := { watched.secrets with cached := none } } := by
  refine ⟨fun {object} made => ?_, nofun, fun _ => rfl, bounded, fresh.bounded, fresh.value,
    fresh.background, fresh.call⟩
  have earlier : eraOf object ≤ watched.era := (fresh.era made).1
  exact ⟨Nat.le_succ_of_le earlier, fun same => by
    rw [same] at earlier
    exact absurd earlier (Nat.not_succ_le_self _)⟩

theorem setCall (fresh : Fresh eraOf born watched) {call : Call}
    (known : watched.begun task = some begun)
    (holds : call.Fresh eraOf born watched.secrets begun) :
    Fresh eraOf born { watched with secrets := watched.secrets.setCall task call } := by
  refine { fresh with call := ?_ }
  intro other running present
  simp only [Secrets.setCall, Function.update_apply] at present
  split at present
  · next same =>
      obtain rfl := Option.some.inj present
      subst same
      refine ⟨begun, known, ?_⟩
      cases call <;> exact holds
  · obtain ⟨begun, known, holds⟩ := fresh.call present
    refine ⟨begun, known, ?_⟩
    cases running <;> exact holds

omit [DecidableEq ι] in
theorem setdefault (fresh : Fresh eraOf born watched) (now : ℤ) :
    ∃ eraOf born, Fresh eraOf born
        { watched with secrets := (watched.secrets.setdefault now).1 } ∧
      (watched.secrets.setdefault now).1.cached = some (watched.secrets.setdefault now).2 := by
  unfold Secrets.setdefault
  cases same : watched.secrets.cached with
  | some object => exact ⟨eraOf, born, fresh, same⟩
  | none =>
      refine ⟨_, _, fresh.make now (fun object made era => ?_) (fresh.uncached same), rfl⟩
      have found := (fresh.era made).2 era
      rw [same] at found
      cases found

/-- A call that works on an object of its era. -/
def On (eraOf born : ℕ → ℕ) (watched : Watched ι) (begun : Begun) (object : ℕ) : Prop :=
  object < watched.secrets.created ∧ eraOf object = begun.era ∧ begun.floor ≤ born object ∧
    (begun.method = .current → begun.failing →
      (watched.secrets.objects object).latest = begun.fetched)

omit [DecidableEq ι] in
theorem resume (fresh : Fresh eraOf born watched) (on : On eraOf born watched begun object)
    {purpose : Purpose} (current : begun.method = .current ↔ purpose = .current) (now : ℤ) :
    (watched.secrets.resume object purpose now).Fresh eraOf born watched.secrets begun := by
  obtain ⟨made, era, floor, latest⟩ := on
  cases purpose with
  | current =>
      simp only [Secrets.resume]
      split
      · next found valid =>
          obtain ⟨held, alive⟩ := Option.filter_eq_some_iff.mp valid
          refine ⟨?_, fun method failing => ⟨?_, alive⟩⟩
          · rintro _ _ ⟨⟩
            refine ⟨Nat.le_trans floor (fresh.value held).2, fun expiresAt expires => ?_⟩
            simpa [Secret.isValid, expires] using alive
          · rw [← latest method failing]
            exact held
      · next invalid =>
          refine ⟨nofun, fun method failing found same => ?_⟩
          rw [← latest method failing] at same
          exact Option.filter_eq_none_iff.mp invalid found same
  | push began order =>
      have other : begun.method ≠ .current := fun same => nomatch current.mp same
      simp only [Secrets.resume]
      split
      · exact ⟨made, other⟩
      · split <;> exact ⟨nofun, fun same => absurd same other⟩
  | order since =>
      have other : begun.method ≠ .current := fun same => nomatch current.mp same
      simp only [Secrets.resume]
      split <;> exact ⟨nofun, fun same => absurd same other⟩

theorem refresh (fresh : Fresh eraOf born watched) (known : watched.begun task = some begun)
    (on : On eraOf born watched begun object) {purpose : Purpose}
    (current : begun.method = .current ↔ purpose = .current) (now later : ℤ) :
    Fresh eraOf born
      { watched with secrets := watched.secrets.refresh task object purpose now later } := by
  unfold Secrets.refresh
  split
  · have counted : Fresh eraOf born
        { watched with
          secrets := { watched.secrets with fetches := watched.secrets.fetches + 1 } } :=
      { fresh with
        floor := Nat.le_succ_of_le fresh.floor
        bounded := fun made => Nat.le_succ_of_le (fresh.bounded made) }
    obtain ⟨made, era, floor, latest⟩ := on
    exact counted.setCall known ⟨⟨made, era, floor, fresh.bounded made⟩, current, latest⟩
  · exact fresh.setCall known (fresh.resume on current later)

theorem push (fresh : Fresh eraOf born watched) (known : watched.begun task = some begun)
    (on : On eraOf born watched begun object) (method : begun.method ≠ .current)
    (order : Option ℕ) (now later : ℤ) :
    Fresh eraOf born
      { watched with secrets := watched.secrets.push task object order now later } := by
  have current : begun.method = .current ↔ Purpose.push now order = .current :=
    iff_of_false method nofun
  unfold Secrets.push
  split
  · exact fresh.refresh known on current later later
  · exact fresh.setCall known (fresh.resume on current later)

omit [DecidableEq ι] in
theorem on_cached (fresh : Fresh eraOf born watched)
    (cached : watched.secrets.cached = some object) (era : begun.era = watched.era)
    (floor : begun.floor = watched.floor) (latest : begun.fetched = watched.fetched) :
    On eraOf born watched begun object := by
  obtain ⟨made, same, bounded, found⟩ := fresh.cached cached
  exact ⟨made, same.trans era.symm, floor ▸ bounded, fun _ _ => found.trans latest.symm⟩

omit [DecidableEq ι] in
theorem setObject (fresh : Fresh eraOf born watched) {refreshable : RefreshableSecret}
    (latest : refreshable.latest = (watched.secrets.objects object).latest)
    (background : ∀ running, refreshable.fetching = some running →
      object < watched.secrets.created ∧ eraOf object = watched.setOff object ∧
        ∀ fetch, running = .fetching fetch → born object ≤ fetch) :
    Fresh eraOf born
      { watched with secrets := watched.secrets.setObject object refreshable } := by
  have same (other : ℕ) : ((watched.secrets.setObject object refreshable).objects other).latest =
      (watched.secrets.objects other).latest := by
    simp only [Secrets.setObject, Function.update_apply]
    split
    · next same => rw [latest, same]
    · rfl
  refine { fresh with cached := ?_, value := ?_, background := ?_, call := ?_ }
  · intro other cached
    obtain ⟨made, era, floor, found⟩ := fresh.cached cached
    exact ⟨made, era, floor, (same other).trans found⟩
  · intro other found held
    exact fresh.value ((same other).symm.trans held)
  · intro other running busy
    simp only [Secrets.setObject, Function.update_apply] at busy
    split at busy
    · next same => exact same ▸ background running busy
    · exact fresh.background busy
  · intro task call present
    obtain ⟨begun, known, holds⟩ := fresh.call present
    refine ⟨begun, known, ?_⟩
    cases call with
    | fetching other fetch purpose =>
        obtain ⟨on, current, found⟩ := holds
        exact ⟨on, current, fun method failing => (same other).trans (found method failing)⟩
    | delivering | ended => exact holds

omit [DecidableEq ι] in
/-- The notes after an answer that is no `IssuerError`. -/
theorem unfail (fresh : Fresh eraOf born watched) : Fresh eraOf born watched.unfail := by
  refine { fresh with call := ?_ }
  intro task call present
  obtain ⟨begun, known, holds⟩ := fresh.call present
  refine ⟨{ begun with failing := false }, by simp [Watched.unfail, known], ?_⟩
  cases call with
  | fetching object fetch purpose => exact ⟨holds.1, holds.2.1, nofun⟩
  | delivering => exact holds
  | ended => exact ⟨holds.served, nofun⟩

omit [DecidableEq ι] in
/-- A fetch of an object is answered. -/
theorem landed (fresh : Fresh eraOf born watched) {refreshable : RefreshableSecret} {fetch : ℕ}
    {answer : Answer} {now : ℤ} (made : object < watched.secrets.created)
    (later : born object ≤ fetch)
    (latest : refreshable.latest =
      ((watched.secrets.objects object).refreshed fetch answer now).latest)
    (background : ∀ running, refreshable.fetching = some running →
      eraOf object = watched.setOff object ∧ ∀ fetch, running = .fetching fetch →
        born object ≤ fetch) :
    Fresh eraOf born
      { watched.hear (eraOf object) fetch answer with
        secrets := watched.secrets.setObject object refreshable } := by
  have background' (running : Background) (busy : refreshable.fetching = some running) :
      object < watched.secrets.created ∧ eraOf object = watched.setOff object ∧
        ∀ fetch, running = .fetching fetch → born object ≤ fetch := ⟨made, background running busy⟩
  cases answer with
  | issuerError => exact fresh.setObject latest background'
  | otherError => exact fresh.unfail.setObject latest background'
  | secret secret =>
      have unfailed := fresh.unfail
      have objects (other : ℕ) (different : other ≠ object) :
          (watched.secrets.setObject object refreshable).objects other =
            watched.secrets.objects other := Function.update_of_ne different _ _
      have own : (watched.secrets.setObject object refreshable).objects object = refreshable :=
        Function.update_self _ _ _
      refine ⟨fresh.era, ?_, ?_, fresh.floor, fresh.bounded, ?_, ?_, ?_⟩
      · intro other cached
        obtain ⟨present, era, floor, found⟩ := fresh.cached cached
        refine ⟨present, era, floor, ?_⟩
        by_cases same : other = object
        · subst same
          rw [own, latest]
          exact (if_pos era).symm
        · rw [objects other same, found]
          refine (if_neg fun current => same ?_).symm
          exact Option.some.inj (cached.symm.trans ((fresh.era made).2 current))
      · intro empty
        refine (if_neg fun current => ?_).trans (fresh.uncached empty)
        exact Option.some_ne_none _ (((fresh.era made).2 current).symm.trans empty)
      · intro other found held
        by_cases same : other = object
        · subst same
          rw [own, latest] at held
          obtain rfl := Option.some.inj held
          exact ⟨made, later⟩
        · rw [objects other same] at held
          exact fresh.value held
      · intro other running busy
        by_cases same : other = object
        · subst same
          rw [own] at busy
          exact background' running busy
        · rw [objects other same] at busy
          exact fresh.background busy
      · intro task call present
        obtain ⟨begun, known, holds⟩ := unfailed.call present
        refine ⟨begun, known, ?_⟩
        cases call with
        | fetching other fetch purpose =>
            refine ⟨holds.1, holds.2.1, fun _ failing => ?_⟩
            obtain ⟨before, -, rfl⟩ := Option.map_eq_some_iff.mp known
            cases failing
        | delivering | ended => exact holds

theorem answered (fresh : Fresh eraOf born watched) {fetch : ℕ} {purpose : Purpose}
    {answer : Answer} {clock : ℕ → ℤ}
    (waits : watched.secrets.calls task = some (.fetching object fetch purpose)) :
    Fresh eraOf born
      { watched.observe (.answer task answer clock) with
        secrets := watched.secrets.answered task object fetch purpose answer clock } := by
  obtain ⟨begun, known, ⟨made, era, -, later⟩, -⟩ := fresh.call waits
  have landed : Fresh eraOf born
      { watched.hear (eraOf object) fetch answer with
        secrets := watched.secrets.setObject object
          ((watched.secrets.objects object).refreshed fetch answer (clock 0)) } := by
    refine fresh.landed made later rfl fun running busy => ?_
    have before : (watched.secrets.objects object).fetching = some running := by
      cases answer <;> exact busy
    exact (fresh.background before).2
  have observed : watched.observe (.answer task answer clock) =
      watched.hear (eraOf object) fetch answer := by
    simp only [Watched.observe, waits, known, era]
  rw [observed]
  obtain ⟨noted, known', ⟨made, era, floor, -⟩, current, latest⟩ := landed.call waits
  unfold Secrets.answered
  dsimp only
  split
  · next other =>
      subst other
      refine landed.setCall known' ⟨nofun, fun _ failing => ?_⟩
      obtain ⟨before, -, rfl⟩ := Option.map_eq_some_iff.mp known'
      cases failing
  · exact landed.setCall known' (landed.resume ⟨made, era, floor, latest⟩ current _)

theorem delivered (fresh : Fresh eraOf born watched) {secret : Fetched} {order : Option ℕ}
    {delivery : Delivery} {clock : ℕ → ℤ}
    (waits : watched.secrets.calls task = some (.delivering object secret order)) :
    Fresh eraOf born
      { watched with
        secrets := watched.secrets.delivered task object secret order delivery clock } := by
  obtain ⟨begun, known, made, method⟩ := fresh.call waits
  have written (held : Option Fetched) (refreshable : RefreshableSecret)
      (latest : refreshable.latest = (watched.secrets.objects object).latest)
      (fetching : refreshable.fetching = (watched.secrets.objects object).fetching) :
      Fresh eraOf born { watched with
        secrets := { watched.secrets with held }.setObject object refreshable } := by
    have holding : Fresh eraOf born { watched with secrets := { watched.secrets with held } } := by
      refine { fresh with call := fun {task call} present => ?_ }
      obtain ⟨begun, known, holds⟩ := fresh.call present
      refine ⟨begun, known, ?_⟩
      cases call <;> exact holds
    exact holding.setObject latest fun running busy => fresh.background (fetching ▸ busy)
  have ends (result : Result) (other : ∀ latest checked, result ≠ .served latest checked) :
      begun.Keeps result :=
    ⟨fun latest checked same => absurd same (other latest checked), fun same => absurd same method⟩
  cases delivery with
  | accepted =>
      refine (written (some secret)
        { watched.secrets.objects object with pushed := some secret, wait := firstRetry }
        rfl rfl).setCall known (ends _ ?_)
      cases order <;> exact nofun
  | failed providerError stored =>
      refine (written (if stored then some secret else watched.secrets.held)
        (if providerError then (watched.secrets.objects object).retryLater (clock 0)
          else watched.secrets.objects object) ?_ ?_).setCall known (ends _ ?_)
      · split <;> rfl
      · split <;> rfl
      · split <;> exact nofun

omit [DecidableEq ι] in
/-- An object that `setdefault` gives has the background task that it had. -/
theorem fetching_setdefault (fresh : Fresh eraOf born watched) (now : ℤ) :
    ((watched.secrets.setdefault now).1.objects (watched.secrets.setdefault now).2).fetching =
      (watched.secrets.objects (watched.secrets.setdefault now).2).fetching := by
  unfold Secrets.setdefault
  split
  · rfl
  · cases busy : (watched.secrets.objects watched.secrets.created).fetching with
    | none => simp [Secrets.make]
    | some running => exact absurd (fresh.background busy).1 (Nat.lt_irrefl _)

theorem begin_current (fresh : Fresh eraOf born watched)
    (idle : watched.secrets.calls task = none) (needsValue : Bool) (clock : ℕ → ℤ) :
    ∃ eraOf born, Fresh eraOf born
      { watched.note task .current with
        secrets := watched.secrets.begin needsValue task clock .current } := by
  obtain ⟨eraOf, born, found, cached⟩ := (fresh.note .current idle).setdefault (clock 0)
  refine ⟨eraOf, born, ?_⟩
  have known : (watched.note task .current).begun task = some (watched.noted .current) :=
    Function.update_self _ _ _
  have on : On eraOf born _ (watched.noted .current) _ := found.on_cached cached rfl rfl rfl
  have same := fresh.fetching_setdefault (clock 0)
  unfold Secrets.begin
  dsimp only
  split
  · next value valid =>
      obtain ⟨held, alive⟩ := Option.filter_eq_some_iff.mp valid
      obtain ⟨made, era, floor, latest⟩ := on
      refine (found.setObject ?_ fun running busy => ?_).setCall known ⟨?_, ?_⟩
      · split <;> rfl
      · have task_cases : (running = .created ∧
            (watched.secrets.objects (watched.secrets.setdefault (clock 0)).2).fetching = none) ∨
            ((watched.secrets.setdefault (clock 0)).1.objects
              (watched.secrets.setdefault (clock 0)).2).fetching = some running := by
          rw [← same]
          split at busy
          · exact RefreshableSecret.refreshInBackground_cases busy
          · exact .inr busy
        rcases task_cases with ⟨rfl, free⟩ | before
        · exact ⟨made, era.trans (if_pos free).symm, nofun⟩
        · exact found.background before
      · rintro _ _ ⟨⟩
        refine ⟨Nat.le_trans floor (found.value held).2, fun expiresAt expires => ?_⟩
        simpa [Secret.isValid, expires] using alive
      · exact fun method failing => ⟨(latest method failing).symm.trans held, alive⟩
  · exact found.refresh known on (iff_of_true rfl rfl) _ _

theorem begin_push (fresh : Fresh eraOf born watched)
    (idle : watched.secrets.calls task = none) (needsValue : Bool) (clock : ℕ → ℤ) :
    ∃ eraOf born, Fresh eraOf born
      { watched.note task .push with
        secrets := watched.secrets.begin needsValue task clock .push } := by
  obtain ⟨eraOf, born, found, cached⟩ := (fresh.note .push idle).setdefault (clock 0)
  refine ⟨eraOf, born, ?_⟩
  have known : (watched.note task .push).begun task = some (watched.noted .push) :=
    Function.update_self _ _ _
  have on : On eraOf born _ (watched.noted .push) _ := found.on_cached cached rfl rfl rfl
  unfold Secrets.begin
  dsimp only
  split
  · exact found.push known on nofun _ _ _
  · exact found.setCall known ⟨nofun, nofun⟩

theorem begin_refresh (fresh : Fresh eraOf born watched)
    (idle : watched.secrets.calls task = none) (needsValue : Bool) (clock : ℕ → ℤ) :
    ∃ eraOf born, Fresh eraOf born
      { watched.order.note task .refresh with
        secrets := watched.secrets.begin needsValue task clock .refresh } := by
  have noted := (fresh.renew watched.secrets.fetches (Nat.le_refl _)).note .refresh idle
  have made : ∃ eraOf born, Fresh eraOf born
      { watched.order.note task .refresh with secrets := watched.secrets.make (clock 0) } :=
    ⟨_, _, noted.make (clock 0) (fun object made era => nomatch (noted.era made).2 era) rfl⟩
  obtain ⟨eraOf, born, made⟩ := made
  refine ⟨eraOf, born, ?_⟩
  have known : (watched.order.note task .refresh).begun task =
    some (watched.order.noted .refresh) :=
    Function.update_self _ _ _
  have on : On eraOf born _ (watched.order.noted .refresh) watched.secrets.created :=
    made.on_cached rfl rfl rfl rfl
  unfold Secrets.begin
  dsimp only
  split
  · exact made.push known on nofun _ _ _
  · have other : (watched.order.noted .refresh).method = .current ↔
        Purpose.order watched.secrets.fetches = .current := iff_of_false nofun nofun
    exact made.refresh known on other _ _

/-- Every event keeps what the observer knows. -/
theorem next (fresh : Fresh eraOf born watched) {needsValue : Bool} {event : Event ι}
    {after : Watched ι} (step : (Watched.machine needsValue).next watched event = some after) :
    ∃ eraOf born, Fresh eraOf born after := by
  obtain ⟨secrets, moved, rfl⟩ := Option.map_eq_some_iff.mp step
  cases event with
  | begin task method clock =>
      simp only [Secrets.next] at moved
      split at moved
      · next idle =>
          obtain rfl := Option.some.inj moved
          cases method with
          | current => exact fresh.begin_current idle needsValue clock
          | push => exact fresh.begin_push idle needsValue clock
          | refresh => exact fresh.begin_refresh idle needsValue clock
      · cases moved
  | answer task answer clock =>
      simp only [Secrets.next] at moved
      split at moved
      · next waits =>
          obtain rfl := Option.some.inj moved
          exact ⟨eraOf, born, fresh.answered waits⟩
      · cases moved
  | deliver task delivery clock =>
      simp only [Secrets.next] at moved
      split at moved
      · next waits =>
          obtain rfl := Option.some.inj moved
          exact ⟨eraOf, born, fresh.delivered waits⟩
      · cases moved
  | wake object clock =>
      simp only [Secrets.next] at moved
      split at moved
      · next created =>
          obtain ⟨made, era, -⟩ := fresh.background created
          split at moved
          · obtain rfl := Option.some.inj moved
            have counted : Fresh eraOf born { watched with
                secrets := { watched.secrets with fetches := watched.secrets.fetches + 1 } } :=
              { fresh with
                floor := Nat.le_succ_of_le fresh.floor
                bounded := fun made => Nat.le_succ_of_le (fresh.bounded made) }
            refine ⟨eraOf, born, counted.setObject rfl fun running busy => ⟨made, era, ?_⟩⟩
            obtain rfl := Option.some.inj busy
            rintro _ ⟨⟩
            exact fresh.bounded made
          · obtain rfl := Option.some.inj moved
            refine ⟨eraOf, born, fresh.setObject rfl fun running busy => ⟨made, era, ?_⟩⟩
            obtain rfl := Option.some.inj busy
            exact nofun
      · cases moved
  | answerBackground object answer clock =>
      simp only [Secrets.next] at moved
      split at moved
      · next fetch fetching =>
          obtain rfl := Option.some.inj moved
          obtain ⟨made, era, later⟩ := fresh.background fetching
          have observed : watched.observe (.answerBackground object answer clock) =
              watched.hear (eraOf object) fetch answer := by
            simp only [Watched.observe, fetching, era]
          rw [observed]
          refine ⟨eraOf, born, fresh.landed made
            (later fetch rfl) rfl fun running busy => ⟨era, ?_⟩⟩
          obtain rfl := Option.some.inj busy
          exact nofun
      · cases moved
  | callback object =>
      simp only [Secrets.next] at moved
      split at moved
      · obtain rfl := Option.some.inj moved
        exact ⟨eraOf, born, fresh.setObject rfl nofun⟩
      · cases moved
  | forget =>
      obtain rfl := Option.some.inj moved
      exact ⟨eraOf, born, fresh.renew watched.floor fresh.floor⟩

end Fresh

/-- In every run, what `current` returns is no older than the latest order before the call, and has
not expired at the call's last look at the clock; and while every fetch raises `IssuerError`, a call
returns the latest value of its era as long as it is valid, and `IssuerUnavailableError` otherwise.
-/
theorem Watched.call_keeps (needsValue : Bool) (watched : Watched ι)
    (reach : (machine needsValue).Reaches (fun _ _ => True) {} watched) (task : ι) (begun : Begun)
    (noted : watched.begun task = some begun) (result : Result)
    (ended : watched.secrets.calls task = some (.ended result)) : begun.Keeps result := by
  obtain ⟨eraOf, born, fresh⟩ := reach.keeps (fun watched => ∃ eraOf born, Fresh eraOf born watched)
    (fun ⟨_, _, fresh⟩ _ step => fresh.next step) ⟨_, _, .initial⟩
  obtain ⟨known, same, keeps⟩ := fresh.call ended
  obtain rfl := Option.some.inj (noted.symm.trans same)
  exact keeps

/-- The value that an order fetches. -/
def orderedSecret : Secret where
  value := "b"
  expiresAt := some (seconds 200)

/-- An order replaces the first value, and then every fetch fails: that of the background task which
a stale hit sets off, and that of a call after the end of the value. -/
def failingRun : List (Event (Fin 4)) :=
  [.begin 0 .current fun _ => 0,
    .answer 0 (.secret { value := "a", expiresAt := some (seconds 100) }) fun _ => 0,
    .begin 1 .refresh fun _ => seconds 40,
    .answer 1 (.secret orderedSecret) fun _ => seconds 41,
    .begin 2 .current fun _ => seconds 190,
    .wake 1 fun _ => seconds 190,
    .answerBackground 1 .issuerError fun _ => seconds 191,
    .callback 1,
    .begin 3 .current fun _ => seconds 300,
    .answer 3 .issuerError fun _ => seconds 301]

theorem Watched.call_keeps_ordered :
    ∃ watched : Watched (Fin 4), ∃ served failed,
      (machine false).Reaches (fun _ _ => True) {} watched ∧
      watched.begun 2 = some served ∧ served.failing ∧ served.floor = 1 ∧
      served.Keeps (.served { secret := orderedSecret, fetch := 1 } (seconds 190)) ∧
      watched.begun 3 = some failed ∧ failed.failing ∧
      failed.fetched = some { secret := orderedSecret, fetch := 1 } ∧
      failed.Keeps (.unavailable (some (seconds 301))) :=
  have reach : (machine false).Reaches (fun _ _ => True) ({} : Watched (Fin 4)) _ :=
    Machine.reaches_of_run failingRun (fun _ _ _ => trivial) rfl
  ⟨_, _, _, reach, rfl, rfl, rfl, call_keeps false _ reach 2 _ rfl _ rfl, rfl, rfl, rfl,
    call_keeps false _ reach 3 _ rfl _ rfl⟩

/-- A background task that was set off before a refresh order asks the issuer after it. -/
def lateWake : List (Event (Fin 4)) :=
  [.begin 0 .current fun _ => 0,
    .answer 0 (.secret { value := "a", expiresAt := some (seconds 100) }) fun _ => 0,
    .begin 1 .current fun _ => seconds 50,
    .begin 2 .refresh fun _ => seconds 51,
    .wake 0 fun _ => seconds 51,
    .answer 2 .issuerError fun _ => seconds 52,
    .answerBackground 0 (.secret { value := "b", expiresAt := some (seconds 1000) }) fun _ =>
      seconds 52,
    .begin 3 .current fun _ => seconds 60,
    .answer 3 .issuerError fun _ => seconds 61]

/-- Then the next call raises, although a valid value was fetched since the order. -/
theorem Watched.call_misses_heard :
    ∃ watched : Watched (Fin 4), ∃ begun result,
      (machine false).Reaches (fun _ _ => True) {} watched ∧ watched.begun 3 = some begun ∧
        watched.secrets.calls 3 = some (.ended result) ∧ begun.method = .current ∧
          begun.failing ∧ ¬ result.Answers begun.heard := by
  have reach : (machine false).Reaches (fun _ _ => True) ({} : Watched (Fin 4)) _ :=
    Machine.reaches_of_run lateWake (fun _ _ _ => trivial) rfl
  refine ⟨_, _, .unavailable (some (seconds 61)), reach, rfl, rfl, rfl, rfl, fun answers => ?_⟩
  exact answers { secret := { value := "b", expiresAt := some (seconds 1000) }, fetch := 2 } rfl
    (by decide)

end Drukbox.SecretsExchange
