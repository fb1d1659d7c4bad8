import Drukbox.Await.History
import Drukbox.Hosts.Claimant

/-!
# When a warm host is selected

A task selects a warm host right after it read the clock, and by that reading.
-/

namespace Drukbox

open Await Program HostService

/-- The operation selects no warm host. -/
def Op.unselecting : Op → Prop
  | .hosts (.candidate _ _ _) => False
  | _ => True

theorem Op.unselecting_of {kind : Op → Prop}
    (refuses : ∀ provider now createdFrom, ¬ kind (.hosts (.candidate provider now createdFrom)))
    {op : Op} (holds : kind op) : op.unselecting := by
  cases op with
  | hosts query =>
      cases query with
      | candidate provider now createdFrom => exact refuses provider now createdFrom holds
      | get | lock | expired | warm | excess | count | claim | insert | update | stamp
      | delete => trivial
  | clock | uuid7 | advisoryLock | rollback | keys | templates | outside | vm => trivial

theorem Op.unselecting_of_common {op : Op} (common : op.common) : op.unselecting :=
  unselecting_of (fun _ _ _ => id) common

theorem Op.unselecting_of_creates {op : Op} (creates : op.creates) : op.unselecting :=
  unselecting_of (fun _ _ _ => id) creates

namespace Selection

/-- A selection follows a reading of the clock.  The phase is the last call. -/
def contract : Contract Op.Answer (Option (Σ op : Op, op.Answer)) where
  allows last
    | .hosts (.candidate _ now _) => last = some ⟨.clock, now⟩
    | _ => True
  next _ op answer := some ⟨op, answer⟩

variable {deployment : Deployment} {request : HostRequest} {α : Type}
  {phase : Option (Σ op : Op, op.Answer)}

theorem allows_of_unselecting {op : Op} (unselecting : op.unselecting) :
    contract.allows phase op := by
  cases op with
  | hosts query =>
      cases query with
      | candidate => cases unselecting
      | get | lock | expired | warm | excess | count | claim | insert | update | stamp
      | delete => trivial
  | clock | uuid7 | advisoryLock | rollback | keys | templates | outside | vm => trivial

theorem follows_of_all {program : Task α} (all : program.All Op.unselecting) :
    Follows contract (fun _ (_ : Except Failure α) => True) phase program :=
  Follows.of_all all (fun _ => True) trivial fun _ _ unselecting _ =>
    ⟨allows_of_unselecting unselecting, fun _ _ => trivial⟩

theorem returns_of_all {program : Task α} (all : program.All Op.unselecting) :
    Follows contract (Returns fun _ _ => True) phase program :=
  (follows_of_all all).any

theorem tryClaimPoolHost_follows {provider : String} :
    Follows contract (Returns fun _ _ => True) phase
      (tryClaimPoolHost deployment request provider) := by
  refine .step trivial fun now _ => ?_
  cases deployment.getVmProvider (some provider) with
  | error failure => trivial
  | ok vm =>
  simp only [ofExcept_ok, bind_eq_bind, done_bind]
  refine .step rfl fun found _ => ?_
  cases found with
  | none => trivial
  | some candidate =>
      refine .seq (returns_of_all ?_) fun _ _ _ => ⟨trivial, fun _ _ => trivial⟩
      exact (requestedLease_reads _ _).mono fun _ reads =>
        Op.unselecting_of_creates (Op.creates_of_reads reads)

theorem obtainHost_follows :
    Follows contract (Returns fun _ _ => True) phase (obtainHost deployment request) := by
  have warm : Follows contract (Returns fun _ _ => True) phase (warmHost deployment request) := by
    unfold warmHost
    dsimp only
    split
    · exact tryClaimPoolHost_follows
    · trivial
  refine .seq warm fun _ found _ => ?_
  cases found with
  | some host => trivial
  | none => exact returns_of_all (createHost_creates.mono fun _ => Op.unselecting_of_creates)

theorem getOrCreateHost_follows :
    Follows contract (Returns fun _ _ => True) phase (getOrCreateHost deployment request) := by
  have looks {later : Option (Σ op : Op, op.Answer)} (key : String) :
      Follows contract (Returns fun _ _ => True) later
        (lookupIdempotencyKey key request.serviceAccount) :=
    returns_of_all ((Claimant.lookupIdempotencyKey_common _ _).mono fun _ =>
      Op.unselecting_of_common)
  have limits {later : Option (Σ op : Op, op.Answer)} :
      Follows contract (Returns fun _ _ => True) later
        (checkAccountLimit deployment request.serviceAccount) :=
    returns_of_all ((checkAccountLimit_reads _).mono fun _ reads =>
      Op.unselecting_of_creates (Op.creates_of_reads reads))
  unfold getOrCreateHost
  cases checkProvider deployment request.provider with
  | error failure => trivial
  | ok _ =>
  simp only [ofExcept_ok, bind_eq_bind, done_bind]
  split
  · exact .seq limits fun _ _ _ => obtainHost_follows
  · refine .seq (looks _) fun _ existing _ => ?_
    cases existing with
    | some existing => trivial
    | none =>
    refine .seq limits fun _ _ _ => .seq obtainHost_follows fun _ host _ =>
      .step trivial fun now _ => .step trivial fun recorded _ => ?_
    split
    · trivial
    · refine .seq (returns_of_all (releaseIdempotencyLoser_all trivial (fun _ => trivial)
        fun _ _ => trivial)) fun _ _ _ => .seq (looks _) fun _ winner _ => ?_
      cases winner <;> trivial

theorem topUp_all (batch : List String) (failures created : ℕ) :
    (Pool.topUp deployment batch failures created).All Op.unselecting :=
  (topUp_fills batch failures created).mono fun _ => Op.unselecting_of fun _ _ _ => id

theorem maintainPool_all : (Pool.maintainPool deployment).All Op.unselecting := by
  unfold Pool.maintainPool
  dsimp only
  split
  · trivial
  · refine .step trivial fun now => .bind ?_ fun _ => .step trivial fun shuffled =>
      .bind (topUp_all _ _ _) fun created => .bind ?_ fun removed => trivial
    · have surveyed : (Pool.survey deployment.settings.getPoolTargets now).All Op.common :=
        inSession_common (.step trivial fun _ => .bind (excessIds_common _ _ _ _) fun _ => trivial)
      exact surveyed.mono fun _ => Op.unselecting_of_common
    · exact (shedEach_common _ _).mono fun _ => Op.unselecting_of_common

theorem program_follows (call : HostCall) :
    Follows contract (fun _ (_ : Except Failure Reply) => True) phase
      (call.program deployment) := by
  cases call with
  | getOrCreate request =>
      refine .bind (.closing (getOrCreateHost_follows.weaken fun _ outcome _ =>
        ⟨trivial, fun _ _ => ?_⟩))
      cases outcome <;> trivial
  | create request poolMember =>
      refine follows_of_all (.bind (.closing ?_ ⟨trivial, fun _ => trivial⟩) fun _ => trivial)
      exact createHost_creates.mono fun _ => Op.unselecting_of_creates
  | renew id expiresAt =>
      refine follows_of_all (.bind (.closing ?_ ⟨trivial, fun _ => trivial⟩) fun _ => trivial)
      exact renewHost_common.mono fun _ => Op.unselecting_of_common
  | delete id flags =>
      refine follows_of_all (.bind (.closing ?_ ⟨trivial, fun _ => trivial⟩) fun _ => trivial)
      exact deleteHost_common.mono fun _ => Op.unselecting_of_common
  | reap =>
      refine follows_of_all (.bind (.step trivial fun _ => .step trivial fun _ => ?_)
        fun _ => trivial)
      exact (reapEach_common _).mono fun _ => Op.unselecting_of_common
  | maintain => exact follows_of_all (.bind maintainPool_all fun _ => trivial)

end Selection

end Drukbox
