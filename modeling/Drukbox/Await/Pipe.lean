import Mathlib.Data.List.Basic

/-!
# Pipes

A pipe gives its reader what was written to it, in the order of the writes and in pieces of any
size.  At its end it gives an empty piece.
-/

namespace Await

variable {α : Type}

/-- A pipe, with what its reader has taken. -/
structure Pipe (α : Type) where
  taken : List α := []
  pending : List α := []
  /-- Nothing more is written. -/
  ended : Bool := false
  deriving DecidableEq, Repr

namespace Pipe

/-- All that was written. -/
def sent (pipe : Pipe α) : List α :=
  pipe.taken ++ pipe.pending

/-- The reader has all of it. -/
def Drained (pipe : Pipe α) : Prop :=
  pipe.ended = true ∧ pipe.pending = []

/-- `none` for a pipe at its end. -/
def write (pipe : Pipe α) (items : List α) : Option (Pipe α) :=
  if pipe.ended then none else some { pipe with pending := pipe.pending ++ items }

def close (pipe : Pipe α) : Pipe α :=
  { pipe with ended := true }

/-- Read a piece of this length.  `none` while the reader is suspended, and for a length that the
pipe does not have. -/
def receive (pipe : Pipe α) (count : ℕ) : Option (List α × Pipe α) :=
  if pipe.pending = [] then
    if pipe.ended then some ([], pipe) else none
  else if 0 < count ∧ count ≤ pipe.pending.length then
    some (pipe.pending.take count,
      { pipe with
        taken := pipe.taken ++ pipe.pending.take count
        pending := pipe.pending.drop count })
  else none

variable {pipe after : Pipe α} {items piece : List α} {count : ℕ}

theorem taken_prefix (pipe : Pipe α) : pipe.taken <+: pipe.sent :=
  List.prefix_append _ _

theorem Drained.taken_eq (drained : pipe.Drained) : pipe.taken = pipe.sent := by
  rw [sent, drained.2, List.append_nil]

theorem write_taken (written : pipe.write items = some after) :
    after.taken = pipe.taken ∧ after.sent = pipe.sent ++ items := by
  rw [write] at written
  split at written
  · contradiction
  · obtain rfl := Option.some.inj written
    exact ⟨rfl, (List.append_assoc _ _ _).symm⟩

theorem not_drained_of_write (written : pipe.write items = some after) : ¬ pipe.Drained := by
  rintro ⟨ended, -⟩
  rw [write, if_pos ended] at written
  contradiction

theorem Drained.close (drained : pipe.Drained) : pipe.close.Drained :=
  ⟨rfl, drained.2⟩

/-- A piece is what the reader has then, and nothing is written by it. -/
theorem receive_taken (received : pipe.receive count = some (piece, after)) :
    after.taken = pipe.taken ++ piece ∧ after.sent = pipe.sent ∧ after.ended = pipe.ended := by
  rw [receive] at received
  split at received
  · split at received
    · obtain ⟨rfl, rfl⟩ := Prod.mk.inj (Option.some.inj received)
      exact ⟨(List.append_nil _).symm, rfl, rfl⟩
    · contradiction
  · split at received
    · obtain ⟨rfl, rfl⟩ := Prod.mk.inj (Option.some.inj received)
      refine ⟨rfl, ?_, rfl⟩
      rw [sent, sent, List.append_assoc, List.take_append_drop]
    · contradiction

theorem receive_nil (received : pipe.receive count = some ([], after)) :
    after = pipe ∧ pipe.Drained := by
  rw [receive] at received
  split at received
  · next empty =>
      split at received
      · next ended => exact ⟨(Prod.mk.inj (Option.some.inj received)).2.symm, ended, empty⟩
      · contradiction
  · next pending =>
      split at received
      · next fits =>
          have none := (Prod.mk.inj (Option.some.inj received)).1
          rcases List.take_eq_nil_iff.mp none with zero | empty
          · exact absurd zero (Nat.ne_of_gt fits.1)
          · exact absurd empty pending
      · contradiction

theorem receive_of_drained (drained : pipe.Drained) (count : ℕ) :
    pipe.receive count = some ([], pipe) := by
  rw [receive, if_pos drained.2, if_pos drained.1]

theorem receive_pending (received : pipe.receive count = some (piece, after))
    (some_ : piece ≠ []) : after.pending.length < pipe.pending.length := by
  have whole := (receive_taken received).2.1
  have lengths := congrArg List.length whole
  have taken := congrArg List.length (receive_taken received).1
  have positive := List.length_pos_iff.mpr some_
  simp only [sent, List.length_append] at lengths taken
  omega

theorem exists_receive (ended : pipe.ended = true) : ∃ found, pipe.receive 1 = some found := by
  by_cases empty : pipe.pending = []
  · exact ⟨_, receive_of_drained ⟨ended, empty⟩ 1⟩
  · rw [receive, if_neg empty, if_pos ⟨Nat.one_pos, List.length_pos_iff.mpr empty⟩]
    exact ⟨_, rfl⟩

end Pipe

end Await
