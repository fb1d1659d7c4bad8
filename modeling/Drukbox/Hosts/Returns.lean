import Drukbox.Await.Replay
import Drukbox.Hosts.Vocabulary

/-!
# What the operations on hosts return

A create returns the row that it reads right after its lease stamp, a renewal the row that it reads
right after its commit, and a claim the row of its `UPDATE`.
-/

namespace Drukbox

open Await Program

namespace HostService

variable {deployment : Deployment} {request : HostRequest}
  {calls : List (Σ op : Op, op.Answer)}

/-- The last two answers are this one and the row that was read right after it. -/
def ReadAfter (calls : List (Σ op : Op, op.Answer)) (id : HostId) (host : Host) (op : Op)
    (answer : op.Answer) : Prop :=
  ∃ front, calls = front ++ [⟨op, answer⟩, ⟨.hosts (.get id), some host⟩]

theorem refresh_follows {id : HostId} :
    Follows recording
      (Returns fun later row => later = calls ++ [⟨.hosts (.get id), some row⟩]) calls
      (refresh id) := by
  refine .step trivial fun row _ => ?_
  cases row with
  | none => trivial
  | some row => rfl

/-- The stamp is of the row that was read before it. -/
theorem createHost_readAfter {poolMember : Bool} :
    Follows recording
      (Returns fun later host => ∃ id provisioned initial expiresAt updatedAt,
        ⟨.hosts (.get id), some provisioned⟩ ∈ later ∧
          ReadAfter later id host
            (.hosts (.stamp provisioned.id initial expiresAt updatedAt)) ()) calls
      (createHost deployment request poolMember) := by
  unfold createHost
  cases deployment.getVmProvider request.provider with
  | error failure => trivial
  | ok vm =>
  simp only [ofExcept_ok, bind_eq_bind, done_bind]
  cases checkRequest deployment request vm with
  | error failure => trivial
  | ok _ =>
  simp only [ofExcept_ok, done_bind]
  refine .seq recording_follows fun _ image _ => .step trivial fun id _ =>
    .step trivial fun now _ => .seq recording_follows fun _ _ _ =>
      .step trivial fun inserted _ => ?_
  cases inserted with
  | error failure => trivial
  | ok _ =>
  simp only [ofExcept_ok, done_bind]
  refine .seq recording_follows fun _ host _ => .seq recording_follows fun before _ _ =>
    .seq refresh_follows ?_
  rintro _ provisioned rfl
  split
  · trivial
  · refine .bind (.bind (recording_follows.weaken ?_))
    rintro _ (failure | expiresAt) grown
    · trivial
    · obtain ⟨more, rfl⟩ := grown
      refine .step trivial fun updatedAt _ => .step trivial ?_
      rintro ⟨⟩ -
      refine refresh_follows.returns ?_
      rintro _ row rfl
      refine ⟨id, provisioned, _, _, updatedAt, ?_, _, List.append_assoc ..⟩
      simp [recording]

theorem renewHost_readAfter {id : HostId} {expiresAt : Option ℤ} :
    Follows recording
      (Returns fun later host => ∃ columns,
        ReadAfter later id host (.hosts (.update .renewal id columns)) true) calls
      (renewHost deployment id expiresAt) := by
  refine .step trivial fun locked _ => ?_
  cases locked with
  | none => trivial
  | some host =>
  dsimp only
  split
  · trivial
  split
  · trivial
  cases deployment.getVmProvider (some host.provider) with
  | error failure => trivial
  | ok vm =>
  simp only [ofExcept_ok, bind_eq_bind, done_bind]
  refine .seq recording_follows fun _ expiresAt _ => .step trivial fun updatedAt _ =>
    .bind (.step trivial fun matched _ => ?_)
  cases matched with
  | false => trivial
  | true =>
      refine refresh_follows.returns ?_
      rintro _ row rfl
      exact ⟨_, _, List.append_assoc ..⟩

/-- A claim that finds a warm host returns the row of its `UPDATE`. -/
theorem tryClaimPoolHost_claims {provider : String} :
    Follows recording
      (Returns fun later found => ∀ host, found = some host →
        ∃ front id serviceAccount now expiresAt,
        later = front ++ [⟨.hosts (.claim id serviceAccount now expiresAt), some host⟩]) calls
      (tryClaimPoolHost deployment request provider) := by
  refine .step trivial fun now _ => ?_
  cases deployment.getVmProvider (some provider) with
  | error failure => trivial
  | ok vm =>
  simp only [ofExcept_ok, bind_eq_bind, done_bind]
  refine .step trivial fun found _ => ?_
  cases found with
  | none => simp
  | some candidate =>
      refine .seq recording_follows fun before expiresAt _ => ⟨trivial, fun claimed _ => ?_⟩
      rintro host rfl
      exact ⟨before, _, _, _, _, rfl⟩

/-- A session that returned a host ran its program first. -/
theorem session_replays {ι σ χ ω : Type} [DecidableEq ι] {system : System ι Op.Answer σ χ ω}
    {condition : Condition ι Op.Answer σ ω} {before after : Config ι Op.Answer σ Failure Reply}
    (reach : system.Reaches condition before after) (fresh : before.world.log = []) {task : ι}
    {program : Task Host} (starts : before.tasks task = some (.host <$> inSession program))
    {host : Host} (returned : after.tasks task = some (.done (.host host))) :
    ∃ answers back, callsOf task after.world.log = [] ++ answers ++ back ∧
      program.Replays answers (.done host) := by
  obtain ⟨first, result, _, called, session, ended⟩ :=
    (reach.replays fresh starts returned).bind_done
  obtain ⟨answers, closing, rfl, replays⟩ := session.closing_done
  cases ended
  exact ⟨answers, closing, by rw [called, List.nil_append, List.append_nil], replays⟩

end HostService

end Drukbox
