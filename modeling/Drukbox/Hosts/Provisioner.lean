import Drukbox.Await.Contract
import Drukbox.Database.Effects
import Drukbox.Hosts.Service

/-!
# The contract of the host service

What a task of the host service may do, given its own steps so far.  Only the task that inserted a
row moves its status; a claim takes a warm host that is active; a lease stamp or a disposal meets a
host whose provision has ended; a status reaches an early one only from an early one. -/

namespace Drukbox

open Await

/-- What a task knows from its own steps. -/
structure Provisioner where
  /-- Its clock readings. -/
  readings : List ℤ := []
  /-- A UUID that it drew and has not used. -/
  drawn : Option HostId := none
  /-- The row that it inserted, with its own updates. -/
  own : Option Host := none
  /-- Its `create_vm` call is out. -/
  creating : Bool := false
  /-- The warm host that it found. -/
  candidate : Option Host := none
  /-- The host that it claimed, or created to the end. -/
  obtained : Option Host := none

namespace Provisioner

/-- The steps on `hosts` that a task may take. -/
def allowsHosts (deployment : Deployment) (phase : Provisioner) : HostQuery → Prop
  | .insert host _ =>
      phase.drawn = some host.id ∧ host.status = .provisioning ∧ host.claimedAt = none ∧
        host.createdAt ∈ phase.readings ∧
        ∃ expiresAt, host.expiresAt = some expiresAt ∧
          host.createdAt + seconds deployment.settings.provisioningGraceSeconds ≤ expiresAt
  | .update .progress id columns =>
      phase.creating = false ∧
        (∃ mine, phase.own = some mine ∧ mine.id = id ∧ mine.status.settled = false ∧
          ∀ status, columns.status = some status →
            status ≠ .error ∧ (status.deleteBlocked → mine.status.deleteBlocked)) ∧
        columns.expiresAt = none ∧ columns.claimedAt = none ∧ columns.serviceAccount = none
  | .update .failure id columns =>
      phase.creating = false ∧
        (∃ mine, phase.own = some mine ∧ mine.id = id ∧ mine.status.settled = false) ∧
        columns.status = some .error ∧ columns.claimedAt = none ∧ columns.serviceAccount = none ∧
        ∃ now ∈ phase.readings, columns.expiresAt = some (some now)
  | .update .renewal _ columns =>
      columns.status = none ∧ columns.claimedAt = none ∧ columns.serviceAccount = none
  | .update .disposal id columns =>
      columns.status = none ∧ (∃ host, phase.obtained = some host ∧ host.id = id) ∧
        (columns.claimedAt = some none ∨
          columns.claimedAt = none ∧ ∃ now ∈ phase.readings, columns.expiresAt = some (some now))
  | .update .deviceRelease _ columns =>
      columns.status = none ∧ columns.claimedAt = none ∧ columns.serviceAccount = none ∧
        columns.expiresAt = none
  | .claim id _ now _ =>
      now ∈ phase.readings ∧ ∃ row, phase.candidate = some row ∧ row.id = id
  | .stamp id initial _ _ =>
      ∃ mine, phase.own = some mine ∧ mine.id = id ∧ mine.status = .active ∧
        mine.expiresAt = some initial
  | .get _ | .lock _ | .expired _ | .warm _ | .excess _ _ _ | .count _ _ | .candidate _ _ _
  | .delete _ => True

/-- The rows that a task counts on. -/
def expectsHosts (phase : Provisioner) : (query : HostQuery) → query.Answer → Prop
  | .get id, some row =>
      row.id = id ∧
        (∀ mine, phase.own = some mine → mine.id = id →
          row.SameOrigin mine ∧ row.status = mine.status) ∧
        ∀ host, phase.obtained = some host → host.id = id → row.SameOrigin host
  | .lock id, some row => row.id = id
  | .candidate provider now createdFrom, some row => row.claimable provider now createdFrom
  | .claim id _ _ _, some row =>
      row.id = id ∧ ∀ warm, phase.candidate = some warm → row.SameOrigin warm
  | _, _ => True

/-- What a statement on `hosts` teaches its task. -/
def nextHosts (phase : Provisioner) : (query : HostQuery) → query.Answer → Provisioner
  | .candidate _ _ _, row => { phase with candidate := row }
  | .claim _ _ _ _, some row => { phase with obtained := some row }
  | .insert host _, .ok () => { phase with drawn := none, own := some host }
  | .update .progress _ columns, true => { phase with own := phase.own.map (·.set columns) }
  | .update .failure _ columns, true => { phase with own := phase.own.map (·.set columns) }
  | .stamp _ _ _ _, () => { phase with obtained := phase.own }
  | .get _, _ | .lock _, _ | .expired _, _ | .warm _, _ | .excess _ _ _, _ | .count _ _, _
  | .claim _ _ _ _, none
  | .insert _ _, .error _ | .update _ _ _, _ | .delete _, _ => phase

/-- The contract of every task of the host service. -/
def contract (deployment : Deployment) : Contract Op.Answer Provisioner where
  allows phase
    | .hosts query => phase.allowsHosts deployment query
    | .vm (.start host _ _) =>
        phase.creating = false ∧
          ∃ mine, phase.own = some mine ∧ host.SameOrigin mine ∧ mine.status = .creatingVm
    | .vm .finish => phase.creating = true
    | .clock | .uuid7 | .advisoryLock _ | .rollback | .keys _ | .templates _ | .outside _
    | .vm (.delete _) => True
  expects phase
    | .hosts query => phase.expectsHosts query
    | .clock | .uuid7 | .advisoryLock _ | .rollback | .keys _ | .templates _ | .outside _
    | .vm _ => fun _ => True
  next phase
    | .clock => fun now => { phase with readings := now :: phase.readings }
    | .uuid7 => fun id => { phase with drawn := some id }
    | .hosts query => phase.nextHosts query
    | .vm (.start _ _ _) => fun _ => { phase with creating := true }
    | .vm .finish => fun _ => { phase with creating := false }
    | .advisoryLock _ | .rollback | .keys _ | .templates _ | .outside _ | .vm (.delete _) =>
        fun _ => phase

/-- The row that a task inserted changes only in the columns that updates set. -/
theorem next_own (deployment : Deployment) {op : Op} {answer : op.Answer}
    {actor : Provisioner} {mine : Host}
    (owns : ((contract deployment).next actor op answer).own = some mine) :
    (∃ old, actor.own = some old ∧ mine.SameOrigin old) ∨
      ∃ lease, op = .hosts (.insert mine lease) ∧ HEq answer (.ok () : Except Failure Unit) := by
  have kept (owns : actor.own = some mine) : ∃ old, actor.own = some old ∧ mine.SameOrigin old :=
    ⟨mine, owns, .refl mine⟩
  have moved {columns : HostColumns} (owns : actor.own.map (·.set columns) = some mine) :
      ∃ old, actor.own = some old ∧ mine.SameOrigin old := by
    obtain ⟨old, owned, rfl⟩ := Option.map_eq_some_iff.mp owns
    exact ⟨old, owned, .set _ _⟩
  cases op with
  | hosts query =>
      cases query with
      | update place =>
          cases place <;> cases answer <;> first | exact .inl (kept owns) | exact .inl (moved owns)
      | claim => cases answer <;> exact .inl (kept owns)
      | insert host lease =>
          cases answer with
          | error failure => exact .inl (kept owns)
          | ok =>
              obtain rfl : host = mine := Option.some.inj owns
              exact .inr ⟨lease, rfl, .rfl⟩
      | get | lock | expired | warm | excess | count | candidate | stamp | delete =>
          exact .inl (kept owns)
  | vm call => cases call <;> exact .inl (kept owns)
  | clock | uuid7 | advisoryLock | rollback | keys | templates | outside => exact .inl (kept owns)

end Provisioner

end Drukbox
