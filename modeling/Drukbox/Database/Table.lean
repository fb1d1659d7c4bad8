import Mathlib.Data.Finset.Card
import Mathlib.Logic.Function.Basic

/-!
# Finite tables

A table gives each key at most one row and knows the finite set of its keys, so that a query can
count its rows.
-/

/-- Rows by key, with the finite set of keys that have one. -/
structure Table (κ ρ : Type) where
  /-- The row of a key. -/
  get : κ → Option ρ
  /-- The keys that have a row. -/
  keys : Finset κ
  /-- Exactly the listed keys have a row. -/
  mem_keys : ∀ key, key ∈ keys ↔ (get key).isSome

namespace Table

variable {κ ρ : Type} [DecidableEq κ]

def empty : Table κ ρ where
  get _ := none
  keys := ∅
  mem_keys := by simp

/-- Insert a row, or replace the row of its key. -/
def insert (table : Table κ ρ) (key : κ) (row : ρ) : Table κ ρ where
  get := Function.update table.get key (some row)
  keys := Insert.insert key table.keys
  mem_keys other := by
    by_cases same : other = key
    · simp [same]
    · simp [same, table.mem_keys]

def erase (table : Table κ ρ) (key : κ) : Table κ ρ where
  get := Function.update table.get key none
  keys := table.keys.erase key
  mem_keys other := by
    by_cases same : other = key
    · simp [same]
    · simp [same, table.mem_keys]

omit [DecidableEq κ] in
/-- Change every row in place. -/
def map (table : Table κ ρ) (change : ρ → ρ) : Table κ ρ where
  get key := (table.get key).map change
  keys := table.keys
  mem_keys key := by simp [table.mem_keys]

/-- Change the row of one key in place, if it has one. -/
def modify (table : Table κ ρ) (key : κ) (change : ρ → ρ) : Table κ ρ where
  get := Function.update table.get key ((table.get key).map change)
  keys := table.keys
  mem_keys other := by
    by_cases same : other = key
    · simp [same, table.mem_keys]
    · simp [same, table.mem_keys]

/-- Keep the rows that satisfy a predicate. -/
def filter (table : Table κ ρ) (keep : ρ → Bool) : Table κ ρ where
  get key := (table.get key).filter keep
  keys := table.keys.filter fun key => ((table.get key).filter keep).isSome
  mem_keys key := by
    cases row : table.get key <;> simp [row, table.mem_keys]

def any (table : Table κ ρ) (good : ρ → Bool) : Bool :=
  decide (∃ key ∈ table.keys, (table.get key).any good)

/-- The number of rows that satisfy a predicate. -/
def count (table : Table κ ρ) (good : ρ → Bool) : ℕ :=
  (table.keys.filter fun key => (table.get key).any good).card

variable (table : Table κ ρ) (key other : κ) (row : ρ) (change : ρ → ρ) (good : ρ → Bool)

omit [DecidableEq κ] in
@[simp] theorem get_empty : (empty : Table κ ρ).get key = none := rfl

@[simp] theorem get_insert_self : (table.insert key row).get key = some row := by
  simp [insert]

theorem get_insert : (table.insert key row).get other =
    if other = key then some row else table.get other := by
  simp [insert, Function.update_apply]

@[simp] theorem get_erase_self : (table.erase key).get key = none := by
  simp [erase]

theorem get_erase : (table.erase key).get other =
    if other = key then none else table.get other := by
  simp [erase, Function.update_apply]

omit [DecidableEq κ] in
@[simp] theorem get_map : (table.map change).get key = (table.get key).map change := rfl

@[simp] theorem get_modify_self :
    (table.modify key change).get key = (table.get key).map change := by
  simp [modify]

theorem get_modify : (table.modify key change).get other =
    if other = key then (table.get key).map change else table.get other := by
  simp [modify, Function.update_apply]

omit [DecidableEq κ] in
@[simp] theorem get_filter : (table.filter good).get key = (table.get key).filter good := rfl

variable {table key other row change good}

omit [DecidableEq κ] in
theorem any_iff : table.any good = true ↔ ∃ key row, table.get key = some row ∧ good row := by
  simp only [any, decide_eq_true_eq, Option.any_eq_true]
  constructor
  · rintro ⟨key, _, row, present, holds⟩
    exact ⟨key, row, present, holds⟩
  · rintro ⟨key, row, present, holds⟩
    exact ⟨key, (table.mem_keys key).mpr (by simp [present]), row, present, holds⟩

omit [DecidableEq κ] in
/-- A table whose counted rows all had a counted row before counts no more. -/
theorem count_le {before : Table κ ρ} {better : ρ → Bool}
    (counted : ∀ key row, table.get key = some row → good row →
      ∃ old, before.get key = some old ∧ better old) :
    table.count good ≤ before.count better := by
  refine Finset.card_le_card fun key member => ?_
  simp only [Finset.mem_filter, Option.any_eq_true] at member ⊢
  obtain ⟨_, row, present, holds⟩ := member
  obtain ⟨old, present_before, held⟩ := counted key row present holds
  exact ⟨(before.mem_keys key).mpr (by simp [present_before]), old, present_before, held⟩

/-- With one exceptional key, it counts at most one more. -/
theorem count_le_succ {before : Table κ ρ} {better : ρ → Bool} (key : κ)
    (counted : ∀ other row, other ≠ key → table.get other = some row → good row →
      ∃ old, before.get other = some old ∧ better old) :
    table.count good ≤ before.count better + 1 := by
  refine le_trans (Finset.card_le_card (t := Insert.insert key
    (before.keys.filter fun key => (before.get key).any better)) fun other member => ?_)
    (Finset.card_insert_le _ _)
  simp only [Finset.mem_filter, Option.any_eq_true] at member
  obtain ⟨_, row, present, holds⟩ := member
  by_cases same : other = key
  · simp [same]
  · obtain ⟨old, present_before, held⟩ := counted other row same present holds
    simp only [Finset.mem_insert, Finset.mem_filter, Option.any_eq_true]
    exact .inr ⟨(before.mem_keys other).mpr (by simp [present_before]), old, present_before, held⟩

theorem count_erase (table : Table κ ρ) (key : κ) (good : ρ → Bool) :
    (table.erase key).count good + (if (table.get key).any good then 1 else 0) =
      table.count good := by
  have others : (table.erase key).keys.filter
    (fun other => ((table.erase key).get other).any good) =
      (table.keys.filter fun other => (table.get other).any good).erase key := by
    ext other
    by_cases same : other = key
    · simp [same]
    · simp only [Finset.mem_filter, Finset.mem_erase, get_erase, if_neg same]
      simp [erase, same]
  rw [count, others]
  split
  · next counted =>
      refine Finset.card_erase_add_one
        (Finset.mem_filter.mpr ⟨(table.mem_keys key).mpr ?_, counted⟩)
      obtain ⟨row, present, -⟩ := (Option.any_eq_true _ _).mp counted
      rw [present]
      rfl
  · next uncounted =>
      have absent : key ∉ table.keys.filter fun other => (table.get other).any good :=
        fun member => uncounted (Finset.mem_filter.mp member).2
      rw [Finset.erase_eq_of_notMem absent]
      rfl

theorem count_foldl_erase (keys : List κ) (unique : keys.Nodup) (table : Table κ ρ)
    (good : ρ → Bool) :
    (keys.foldl Table.erase table).count good +
        (keys.filter fun key => (table.get key).any good).length = table.count good := by
  induction keys generalizing table with
  | nil => rfl
  | cons key rest ih =>
      obtain ⟨fresh, unique⟩ := List.nodup_cons.mp unique
      have later := ih unique (table.erase key)
      have same : (rest.filter fun other => ((table.erase key).get other).any good) =
          rest.filter fun other => (table.get other).any good := by
        refine List.filter_congr fun other member => ?_
        have different : other ≠ key := fun same => fresh (same ▸ member)
        rw [get_erase, if_neg different]
      have first := table.count_erase key good
      rw [same] at later
      rw [List.foldl_cons, List.filter_cons]
      split at first
      · rw [if_pos ‹_›, List.length_cons]
        omega
      · rw [if_neg ‹_›]
        omega

end Table
