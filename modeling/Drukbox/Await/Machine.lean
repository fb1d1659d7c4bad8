import Mathlib.Algebra.GroupWithZero.Nat
import Mathlib.Data.Nat.Notation
import Mathlib.Logic.Relation

/-!
# Machines

A machine is a partial step function: an event either cannot happen or leads to one state.  A
condition says which events a run may take, and an invariant of the steps holds throughout every
run.
-/

namespace Await

variable {σ η : Type}

/-- A partial step function. -/
structure Machine (σ η : Type) where
  /-- The state after an event, if it can happen. -/
  next : σ → η → Option σ

namespace Machine

variable {machine : Machine σ η} {condition : σ → η → Prop} {before after : σ}

/-- One event that the condition allows. -/
def Step (machine : Machine σ η) (condition : σ → η → Prop) (event : η) (before after : σ) : Prop :=
  condition before event ∧ machine.next before event = some after

/-- Reachability by steps that the condition allows. -/
def Reaches (machine : Machine σ η) (condition : σ → η → Prop) : σ → σ → Prop :=
  Relation.ReflTransGen fun before after => ∃ event, machine.Step condition event before after

def run (machine : Machine σ η) (state : σ) (events : List η) : Option σ :=
  events.foldlM machine.next state

/-- What every step keeps holds throughout a run. -/
theorem Reaches.keeps (reach : machine.Reaches condition before after) (inv : σ → Prop)
    (step : ∀ {event before after}, inv before → condition before event →
      machine.next before event = some after → inv after)
    (initial : inv before) : inv after := by
  induction reach with
  | refl => exact initial
  | tail _ moved ih =>
      obtain ⟨event, allowed, stepped⟩ := moved
      exact step ih allowed stepped

theorem Reaches.mono {weaker : σ → η → Prop} (reach : machine.Reaches condition before after)
    (weakens : ∀ state event, condition state event → weaker state event) :
    machine.Reaches weaker before after := by
  induction reach with
  | refl => exact .refl
  | tail _ moved ih =>
      obtain ⟨event, allowed, stepped⟩ := moved
      exact ih.tail ⟨event, weakens _ _ allowed, stepped⟩

/-- A schedule each of whose events a run may take is a run. -/
theorem reaches_of_run (events : List η)
    (allowed : ∀ state, ∀ event ∈ events, condition state event)
    (executed : machine.run before events = some after) :
    machine.Reaches condition before after := by
  induction events generalizing before with
  | nil =>
      obtain rfl : before = after := by simpa [run] using executed
      exact .refl
  | cons event events ih =>
      simp only [run, List.foldlM_cons] at executed
      obtain ⟨middle, first, rest⟩ := Option.bind_eq_some_iff.mp executed
      have next := allowed before event List.mem_cons_self
      exact .head ⟨event, next, first⟩
        (ih (fun state other member => allowed state other (List.mem_cons_of_mem _ member)) rest)

/-- Where each event costs no more than it takes from what is left to do and what it adds, a
schedule costs no more than there was to do and its events added. -/
theorem cost_le_of_run {allowed : η → Prop} {inv : σ → Prop} {left : σ → ℕ} {cost gain : η → ℕ}
    (events : List η)
    (step : ∀ {event before after}, inv before → allowed event →
      machine.next before event = some after →
      inv after ∧ left after + cost event ≤ left before + gain event)
    (initial : inv before) (each : ∀ event ∈ events, allowed event)
    (executed : machine.run before events = some after) :
    inv after ∧ left after + (events.map cost).sum ≤ left before + (events.map gain).sum := by
  induction events generalizing before with
  | nil =>
      obtain rfl : before = after := by simpa [run] using executed
      exact ⟨initial, Nat.le_refl _⟩
  | cons event events ih =>
      simp only [run, List.foldlM_cons] at executed
      obtain ⟨middle, first, rest⟩ := Option.bind_eq_some_iff.mp executed
      obtain ⟨kept, less⟩ := step initial (each event List.mem_cons_self) first
      obtain ⟨final, bound⟩ :=
        ih kept (fun other member => each other (List.mem_cons_of_mem _ member)) rest
      refine ⟨final, ?_⟩
      simp only [List.map_cons, List.sum_cons]
      omega

/-- A schedule each of whose events leaves less to do is no longer than what there was to do. -/
theorem length_le_of_run {own : η → Prop} {inv : σ → Prop} {left : σ → ℕ} (events : List η)
    (step : ∀ {event before after}, inv before → own event →
      machine.next before event = some after → inv after ∧ left after < left before)
    (initial : inv before) (each : ∀ event ∈ events, own event)
    (executed : machine.run before events = some after) :
    inv after ∧ left after + events.length ≤ left before := by
  have kept : inv after ∧ left after + (events.map fun _ => 1).sum ≤
      left before + (events.map fun _ => 0).sum :=
    cost_le_of_run events step initial each executed
  simpa [List.map_const', List.sum_replicate_nat] using kept

/-- Execute a schedule, where a check may refuse each event. -/
def runChecked (machine : Machine σ η) (check : σ → η → Bool) (state : σ) (events : List η) :
    Option σ :=
  events.foldlM (fun state event => if check state event then machine.next state event else none)
    state

/-- A schedule whose events pass a check for the condition is a run. -/
theorem reaches_of_runChecked (check : σ → η → Bool)
    (sound : ∀ state event, check state event → condition state event) (events : List η)
    (executed : machine.runChecked check before events = some after) :
    machine.Reaches condition before after := by
  induction events generalizing before with
  | nil =>
      obtain rfl : before = after := by simpa [runChecked] using executed
      exact .refl
  | cons event events ih =>
      simp only [runChecked, List.foldlM_cons] at executed
      obtain ⟨middle, first, rest⟩ := Option.bind_eq_some_iff.mp executed
      split at first
      · next passed => exact .head ⟨event, sound before event passed, first⟩ (ih rest)
      · contradiction

end Machine

end Await
