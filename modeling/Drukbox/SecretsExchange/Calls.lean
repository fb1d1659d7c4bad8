import Drukbox.SecretsExchange.Secrets

/-!
# The calls on one entry

Who a section of an entry belongs to, and what a push of the timer has left.
-/

namespace Drukbox.SecretsExchange

/-- The call that an event of an entry belongs to. -/
def Event.caller {ι : Type} : Event ι → Option ι
  | begin task _ _ | answer task _ _ | deliver task _ _ => some task
  | wake _ _ | answerBackground _ _ _ | callback _ | forget => none

/-- The sections that a call may still need. -/
def Call.left : Call → ℕ
  | fetching _ _ _ => 2
  | delivering _ _ _ => 1
  | ended _ => 0

/-- A call that the timer makes. -/
def Call.ofTimer : Call → Bool
  | fetching _ _ (.push _ none) | delivering _ _ none | ended .pushed | ended .raised => true
  | fetching _ _ _ | delivering _ _ _ | ended _ => false

namespace Secrets

section Calls

variable {ι : Type} [DecidableEq ι] {secrets after : Secrets ι} {task other : ι}
  {needsValue : Bool}

theorem calls_setCall (secrets : Secrets ι) (task : ι) (call : Call) :
    (secrets.setCall task call).calls task = some call :=
  Function.update_self _ _ _

theorem calls_setCall_of_ne (secrets : Secrets ι) (call : Call) (different : other ≠ task) :
    (secrets.setCall task call).calls other = secrets.calls other :=
  Function.update_of_ne different _ _

omit [DecidableEq ι] in
@[simp] theorem calls_setdefault (secrets : Secrets ι) (now : ℤ) :
    (secrets.setdefault now).1.calls = secrets.calls := by
  cases cached : secrets.cached with
  | none => simp [setdefault, cached, make]
  | some object => simp [setdefault, cached]

theorem calls_refresh_of_ne (secrets : Secrets ι) (object : ℕ) (purpose : Purpose) (now later : ℤ)
    (different : other ≠ task) :
    (secrets.refresh task object purpose now later).calls other = secrets.calls other := by
  rw [refresh]
  split
  · exact calls_setCall_of_ne _ _ different
  · exact calls_setCall_of_ne _ _ different

theorem calls_push_of_ne (secrets : Secrets ι) (object : ℕ) (order : Option ℕ) (now later : ℤ)
    (different : other ≠ task) :
    (secrets.push task object order now later).calls other = secrets.calls other := by
  rw [push]
  split
  · exact calls_refresh_of_ne _ _ _ _ _ different
  · exact calls_setCall_of_ne _ _ different

theorem calls_begin_of_ne (clock : ℕ → ℤ) (method : Method) (different : other ≠ task) :
    (secrets.begin needsValue task clock method).calls other = secrets.calls other := by
  cases method with
  | current =>
      simp only [begin]
      split
      · rw [calls_setCall_of_ne _ _ different]
        exact congrFun (calls_setdefault secrets _) other
      · rw [calls_refresh_of_ne _ _ _ _ _ different, calls_setdefault]
  | push =>
      simp only [begin]
      split
      · rw [calls_push_of_ne _ _ _ _ _ different, calls_setdefault]
      · rw [calls_setCall_of_ne _ _ different, calls_setdefault]
  | refresh =>
      simp only [begin]
      split
      · rw [calls_push_of_ne _ _ _ _ _ different, make]
      · rw [calls_refresh_of_ne _ _ _ _ _ different, make]

theorem calls_next_of_ne {event : Event ι} (ran : secrets.next needsValue event = some after)
    (different : event.caller ≠ some other) : after.calls other = secrets.calls other := by
  cases event with
  | begin task method clock =>
      have apart : other ≠ task := fun same => different (congrArg some same.symm)
      simp only [next] at ran
      split at ran
      · obtain rfl := Option.some.inj ran
        exact calls_begin_of_ne clock method apart
      · contradiction
  | answer task answer clock =>
      have apart : other ≠ task := fun same => different (congrArg some same.symm)
      simp only [next] at ran
      split at ran
      · obtain rfl := Option.some.inj ran
        rw [answered]
        split
        · rw [calls_setCall_of_ne _ _ apart, setObject]
        · rw [calls_setCall_of_ne _ _ apart, setObject]
      · contradiction
  | deliver task delivery clock =>
      have apart : other ≠ task := fun same => different (congrArg some same.symm)
      simp only [next] at ran
      split at ran
      · obtain rfl := Option.some.inj ran
        rw [delivered.eq_def]
        split
        · rw [calls_setCall_of_ne _ _ apart, setObject]
        · rw [calls_setCall_of_ne _ _ apart, setObject]
      · contradiction
  | wake object clock =>
      simp only [next] at ran
      split at ran
      · split at ran
        · obtain rfl := Option.some.inj ran
          rw [setObject]
        · obtain rfl := Option.some.inj ran
          rw [setObject]
      · contradiction
  | answerBackground object answer clock =>
      simp only [next] at ran
      split at ran
      · obtain rfl := Option.some.inj ran
        rw [setObject]
      · contradiction
  | callback object =>
      simp only [next] at ran
      split at ran
      · obtain rfl := Option.some.inj ran
        rw [setObject]
      · contradiction
  | forget =>
      obtain rfl := Option.some.inj ran
      rfl

omit [DecidableEq ι] in
/-- A push of the timer behind its fetch. -/
theorem resume_ofTimer (secrets : Secrets ι) (object : ℕ) (began now : ℤ) :
    (secrets.resume object (.push began none) now).ofTimer = true ∧
      (secrets.resume object (.push began none) now).left ≤ 1 := by
  simp only [resume]
  split
  · exact ⟨rfl, Nat.le_refl 1⟩
  · exact ⟨rfl, Nat.zero_le 1⟩

theorem refresh_ofTimer (secrets : Secrets ι) (task : ι) (object : ℕ) (began now later : ℤ) :
    ∃ call, (secrets.refresh task object (.push began none) now later).calls task = some call ∧
      call.ofTimer = true ∧ call.left ≤ 2 := by
  rw [refresh]
  split
  · exact ⟨_, calls_setCall _ _ _, rfl, Nat.le_refl 2⟩
  · obtain ⟨mine, short⟩ := resume_ofTimer secrets object began later
    exact ⟨_, calls_setCall _ _ _, mine, by omega⟩

theorem begin_ofTimer (needsValue : Bool) (secrets : Secrets ι) (task : ι) (clock : ℕ → ℤ) :
    ∃ call, (secrets.begin needsValue task clock .push).calls task = some call ∧
      call.ofTimer = true ∧ call.left ≤ 2 := by
  simp only [begin]
  split
  · rw [push]
    split
    · exact refresh_ofTimer _ _ _ _ _ _
    · obtain ⟨mine, short⟩ := resume_ofTimer (secrets.setdefault (clock 0)).1
        (secrets.setdefault (clock 0)).2 (clock 2) (clock 3)
      exact ⟨_, calls_setCall _ _ _, mine, by omega⟩
  · exact ⟨_, calls_setCall _ _ _, rfl, Nat.zero_le 2⟩

/-- Each answer brings a push of the timer on. -/
theorem next_ofTimer {event : Event ι} {call : Call}
    (ran : secrets.next needsValue event = some after) (caller : event.caller = some task)
    (called : secrets.calls task = some call) (mine : call.ofTimer = true) :
    ∃ later, after.calls task = some later ∧ later.ofTimer = true ∧ later.left < call.left := by
  cases event with
  | begin owner method clock =>
      obtain rfl := Option.some.inj caller
      simp [next, called] at ran
  | answer owner answer clock =>
      obtain rfl := Option.some.inj caller
      simp only [next, called] at ran
      cases call with
      | fetching object fetch purpose =>
          obtain rfl := Option.some.inj ran
          cases purpose with
          | current | order => contradiction
          | push began order =>
          cases order with
          | some since => contradiction
          | none =>
          rw [answered]
          split
          · exact ⟨_, calls_setCall _ _ _, rfl, Nat.zero_lt_two⟩
          · obtain ⟨own, short⟩ := resume_ofTimer
              (secrets.setObject object
                ((secrets.objects object).refreshed fetch answer (clock 0))) object began (clock 1)
            exact ⟨_, calls_setCall _ _ _, own, Nat.lt_succ_of_le short⟩
      | delivering | ended => contradiction
  | deliver owner delivery clock =>
      obtain rfl := Option.some.inj caller
      simp only [next, called] at ran
      cases call with
      | delivering object secret order =>
          obtain rfl := Option.some.inj ran
          cases order with
          | some since => contradiction
          | none =>
          rw [delivered.eq_def]
          split
          · exact ⟨_, calls_setCall _ _ _, rfl, Nat.zero_lt_one⟩
          · next providerError stored =>
              cases providerError with
              | false => exact ⟨_, calls_setCall _ _ _, rfl, Nat.zero_lt_one⟩
              | true => exact ⟨_, calls_setCall _ _ _, rfl, Nat.zero_lt_one⟩
      | fetching | ended => contradiction
  | wake | answerBackground | callback | forget => contradiction

/-- The answer that a push in flight awaits. -/
theorem exists_next {call : Call} (needsValue : Bool) (called : secrets.calls task = some call)
    (flying : 0 < call.left) :
    ∃ event : Event ι, event.caller = some task ∧ (secrets.next needsValue event).isSome := by
  cases call with
  | fetching object fetch purpose =>
      exact ⟨.answer task .issuerError fun _ => 0, rfl, by simp [next, called]⟩
  | delivering object secret order =>
      exact ⟨.deliver task .accepted fun _ => 0, rfl, by simp [next, called]⟩
  | ended result => contradiction

end Calls

end Secrets

end Drukbox.SecretsExchange
