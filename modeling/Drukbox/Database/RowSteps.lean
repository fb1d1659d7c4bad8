import Drukbox.Database.Effects

/-!
# What one step makes of a host row

A row that is there after a step was there before, as it is or before the one update, claim or
lease stamp that the step was; or the step inserted it.
-/

namespace Drukbox

variable {ι : Type} [DecidableEq ι] {deployment : Deployment} {task : ι} {state after : State ι}
  {op : Op} {answer : op.Answer} {id : HostId} {row : Host}

/-- How a row came to be as it is after a step of a task. -/
inductive RowStep (task : ι) (state : State ι) (id : HostId) : (op : Op) → op.Answer → Host → Prop
  | kept {op : Op} {answer : op.Answer} {row : Host} (was : state.hosts.get id = some row) :
      RowStep task state id op answer row
  | update {place : HostCommit} {columns : HostColumns} {old : Host}
      (was : state.hosts.get id = some old) (free : State.Free task (state.hostLock id)) :
      RowStep task state id (.hosts (.update place id columns)) true (old.set columns)
  | claim {serviceAccount : Option String} {now : ℤ} {expiresAt : Option ℤ} {old : Host}
      (was : state.hosts.get id = some old) (free : State.Free task (state.hostLock id))
      (unclaimed : old.claimedAt = none) :
      RowStep task state id (.hosts (.claim id serviceAccount now expiresAt))
        (some (old.set (Host.claimColumns serviceAccount now expiresAt)))
        (old.set (Host.claimColumns serviceAccount now expiresAt))
  | stamp {initial : ℤ} {expiresAt : Option ℤ} {updatedAt : ℤ} {old : Host}
      (was : state.hosts.get id = some old) (free : state.hostLock id = none)
      (matched : old.expiresAt = some initial) :
      RowStep task state id (.hosts (.stamp id initial expiresAt updatedAt)) ()
        (old.set { expiresAt := some expiresAt, updatedAt })
  | insert {row : Host} {lease : Option TemplateLease} (same : row.id = id)
      (absent : state.hosts.get id = none) :
      RowStep task state id (.hosts (.insert row lease)) (.ok ()) row

theorem HostQuery.Outcome.rowStep {query : HostQuery} {answer : query.Answer}
    (outcome : query.Outcome task state answer after)
    (present : after.hosts.get id = some row) :
    RowStep task state id (.hosts query) answer row := by
  rw [outcome.get] at present
  cases query with
  | get | lock | expired | warm | excess | count | candidate => exact .kept present
  | claim target serviceAccount now expiresAt =>
      cases answer with
      | none => exact .kept present
      | some claimed =>
          simp only [effect] at present
          split at present
          · next same =>
              subst same
              obtain ⟨free, old, was, unclaimed, rfl, -⟩ := outcome
              obtain rfl := Option.some.inj present
              exact .claim was free unclaimed
          · exact .kept present
  | insert host lease =>
      cases answer with
      | error failure => exact .kept present
      | ok =>
          simp only [effect] at present
          split at present
          · next same =>
              obtain ⟨-, -, absent, -⟩ := outcome
              obtain rfl := Option.some.inj present
              exact .insert same.symm (same ▸ absent)
          · exact .kept present
  | update place target columns =>
      cases answer with
      | false => exact .kept present
      | true =>
          simp only [effect] at present
          split at present
          · next same =>
              subst same
              obtain ⟨old, was, rfl⟩ := Option.map_eq_some_iff.mp present
              exact .update was outcome.1
          · exact .kept present
  | stamp target initial expiresAt updatedAt =>
      simp only [effect] at present
      split at present
      · next same =>
          subst same
          obtain ⟨old, was, rfl⟩ := Option.map_eq_some_iff.mp present
          split
          · next matched =>
              rcases outcome with ⟨free, -⟩ | ⟨missed, -⟩
              · exact .stamp was free matched
              · exact absurd matched (missed old was)
          · exact .kept was
      · exact .kept present
  | delete target =>
      simp only [effect] at present
      split at present
      · cases present
      · exact .kept present

theorem Op.Outcome.rowStep (outcome : op.Outcome deployment task state answer after)
    (present : after.hosts.get id = some row) : RowStep task state id op answer row := by
  cases op with
  | hosts query => exact HostQuery.Outcome.rowStep outcome present
  | clock | uuid7 | advisoryLock | rollback | keys | templates | outside | vm =>
      rw [outcome.hosts_get] at present
      exact .kept present

namespace RowStep

omit [DecidableEq ι]

variable (step : RowStep task state id op answer row)
include step

/-- Unless the step inserted it, the row is a version of one that was there. -/
theorem origin : (∃ old, state.hosts.get id = some old ∧ row.SameOrigin old) ∨
    ∃ lease, op = .hosts (.insert row lease) ∧ HEq answer (.ok () : Except Failure Unit) ∧
      row.id = id ∧ state.hosts.get id = none := by
  cases step with
  | kept was => exact .inl ⟨_, was, .refl _⟩
  | update was => exact .inl ⟨_, was, .set _ _⟩
  | claim was => exact .inl ⟨_, was, .set _ _⟩
  | stamp was => exact .inl ⟨_, was, .set _ _⟩
  | insert same absent => exact .inr ⟨_, rfl, .rfl, same, absent⟩

end RowStep

end Drukbox
