import Mathlib.Logic.Function.Basic

/-!
# Ledgers of exclusive ownership

A history of transfers is in order where a key is taken only while nobody owns it, and given back
only by its owner.  Then nobody takes a key that another has taken and not given back.
-/

namespace Await

variable {ι κ : Type}

/-- What a step does to the ownership of keys. -/
inductive Transfer (ι κ : Type) where
  | take (owner : ι) (key : κ)
  | give (owner : ι) (key : κ)
  | pass

namespace Ledger

variable [DecidableEq ι] [DecidableEq κ] {owners final : κ → Option ι}

/-- The owners after a transfer, if it is in order. -/
def step (owners : κ → Option ι) : Transfer ι κ → Option (κ → Option ι)
  | .take owner key =>
      if owners key = none then some (Function.update owners key (some owner)) else none
  | .give owner key =>
      if owners key = none ∨ owners key = some owner then some (Function.update owners key none)
      else none
  | .pass => some owners

/-- The owners after a history that is in order. -/
def run (owners : κ → Option ι) (history : List (Transfer ι κ)) : Option (κ → Option ι) :=
  history.foldlM step owners

theorem run_append (history : List (Transfer ι κ)) (transfer : Transfer ι κ) :
    run owners (history ++ [transfer]) =
      (run owners history).bind fun owners => step owners transfer := by
  simp [run, List.foldlM_append]

theorem step_keeps {owner : ι} {key : κ} {transfer : Transfer ι κ}
    (inOrder : step owners transfer = some final) (owned : owners key = some owner)
    (kept : transfer ≠ .give owner key) : final key = some owner := by
  cases transfer with
  | pass =>
      obtain rfl : owners = final := Option.some.inj inOrder
      exact owned
  | take other taken =>
      simp only [step, Option.ite_none_right_eq_some, Option.some.injEq] at inOrder
      obtain ⟨free, rfl⟩ := inOrder
      have different : key ≠ taken := by
        rintro rfl
        rw [owned] at free
        cases free
      rw [Function.update_of_ne different, owned]
  | give other given =>
      simp only [step, Option.ite_none_right_eq_some, Option.some.injEq] at inOrder
      obtain ⟨free, rfl⟩ := inOrder
      have different : key ≠ given := by
        rintro rfl
        rw [owned] at free
        obtain rfl : owner = other := by simpa using free
        exact kept rfl
      rw [Function.update_of_ne different, owned]

theorem run_keeps {owner : ι} {key : κ} (history : List (Transfer ι κ))
    (inOrder : run owners history = some final) (owned : owners key = some owner)
    (kept : .give owner key ∉ history) : final key = some owner := by
  induction history generalizing owners with
  | nil =>
      obtain rfl : owners = final := by simpa [run] using inOrder
      exact owned
  | cons transfer rest ih =>
      simp only [run, List.foldlM_cons] at inOrder
      obtain ⟨middle, first, later⟩ := Option.bind_eq_some_iff.mp inOrder
      have still := step_keeps first owned fun same => kept (same ▸ List.mem_cons_self)
      exact ih later still fun member => kept (List.mem_cons_of_mem _ member)

/-- Between two takings of a key, its first owner gave it back. -/
theorem given_between {owner other : ι} {key : κ} {front middle back : List (Transfer ι κ)}
    (inOrder :
      (run owners (front ++ .take owner key :: middle ++ .take other key :: back)).isSome) :
    .give owner key ∈ middle := by
  by_contra kept
  obtain ⟨final, inOrder⟩ := Option.isSome_iff_exists.mp inOrder
  simp only [run, List.append_assoc, List.cons_append, List.foldlM_append,
    List.foldlM_cons] at inOrder
  obtain ⟨before, -, inOrder⟩ := Option.bind_eq_some_iff.mp inOrder
  obtain ⟨taken, first, inOrder⟩ := Option.bind_eq_some_iff.mp inOrder
  obtain ⟨later, between, inOrder⟩ := Option.bind_eq_some_iff.mp inOrder
  obtain ⟨retaken, second, -⟩ := Option.bind_eq_some_iff.mp inOrder
  simp only [step, Option.ite_none_right_eq_some, Option.some.injEq] at first second
  obtain ⟨-, rfl⟩ := first
  have owned := run_keeps middle between (Function.update_self key (some owner) before) kept
  rw [owned] at second
  cases second.1

end Ledger

end Await
