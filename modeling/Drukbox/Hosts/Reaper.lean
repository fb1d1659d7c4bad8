import Drukbox.Hosts.Deleter

/-!
# The contract of the janitor

A task whose deletes are forced locks only hosts that it selected.
-/

namespace Drukbox

open Await Program HostService

/-- What a task knows of the hosts that it may delete by force. -/
structure Reaper where
  /-- Its deletes are forced. -/
  forced : Bool := false
  /-- Its clock readings. -/
  readings : List ℤ := []
  /-- The hosts whose lease was over when it selected them. -/
  lapsed : List HostId := []

namespace Reaper

/-- The contract of every task that may delete hosts by force. -/
def contract : Contract Op.Answer Reaper where
  allows phase
    | .hosts (.lock id) => phase.forced → id ∈ phase.lapsed
    | .hosts (.expired now) => phase.forced → now ∈ phase.readings
    | .clock | .uuid7 | .advisoryLock _ | .rollback | .keys _ | .templates _ | .outside _ | .vm _
    | .hosts _ => True
  expects _
    | .clock | .uuid7 | .advisoryLock _ | .rollback | .keys _ | .templates _ | .outside _ | .vm _
    | .hosts _ => fun _ => True
  next phase
    | .clock => fun now => { phase with readings := now :: phase.readings }
    | .hosts (.expired _) => fun ids => { phase with lapsed := ids }
    | .uuid7 | .advisoryLock _ | .rollback | .keys _ | .templates _ | .outside _ | .vm _
    | .hosts _ => fun _ => phase

variable {deployment : Deployment} {phase : Reaper}

theorem next_forced (phase : Reaper) (op : Op) (answer : op.Answer) :
    (contract.next phase op answer).forced = phase.forced := by
  cases op with
  | hosts query => cases query <;> rfl
  | clock | uuid7 | advisoryLock | rollback | keys | templates | outside | vm => rfl

theorem unforced_follows {α : Type} (program : Task α) (unforced : phase.forced = false) :
    Follows contract (fun _ (_ : Except Failure α) => True) phase program := by
  induction program generalizing phase with
  | done value => trivial
  | raise error => trivial
  | call op resume ih =>
      constructor
      · cases op with
        | hosts query =>
            cases query with
            | lock | expired => simp [contract, unforced]
            | get | warm | excess | count | candidate | claim | insert | update | stamp | delete =>
                trivial
        | clock | uuid7 | advisoryLock | rollback | keys | templates | outside | vm => trivial
      · intro answer _
        exact ih answer ((next_forced phase op answer).trans unforced)

theorem deletes_follows {α : Type} {program : Task α} {id : HostId}
    (all : program.All (Op.deletes id)) (selected : id ∈ phase.lapsed) :
    Follows contract (fun later (_ : Except Failure α) => later.lapsed = phase.lapsed) phase
      program := by
  apply Follows.of_all all (fun later : Reaper => later.lapsed = phase.lapsed) rfl
  intro op later deletes same
  cases op with
  | hosts query =>
      cases query with
      | lock target =>
          obtain rfl : target = id := deletes
          exact ⟨fun _ => same ▸ selected, fun _ _ => same⟩
      | update | delete => exact ⟨trivial, fun _ _ => same⟩
      | get | expired | warm | excess | count | candidate | claim | insert | stamp => cases deletes
  | clock | rollback | outside | vm => exact ⟨trivial, fun _ _ => same⟩
  | uuid7 | advisoryLock | keys | templates => cases deletes

theorem reapEach_follows (ids : List HostId) (selected : ids ⊆ phase.lapsed) :
    Follows contract (Returns fun _ _ => True) phase (reapEach deployment ids) := by
  induction ids generalizing phase with
  | nil => trivial
  | cons id rest ih =>
      have deletes : Follows contract
          (fun later (_ : Except Failure Bool) => later.lapsed = phase.lapsed) phase
          (inSession (deleteHost deployment id { force := true, expiredOnly := true })) :=
        deletes_follows (.closing deleteHost_deletes ⟨trivial, fun _ => trivial⟩)
          (selected List.mem_cons_self)
      apply Follows.seq (.attempt (deletes.weaken fun _ _ same => same))
      intro later deleted same
      have stays : rest ⊆ later.lapsed :=
        fun _ member => same ▸ selected (List.mem_cons_of_mem _ member)
      apply Follows.seq (ih stays)
      intro _ _ _
      split <;> trivial

theorem program_follows (deployment : Deployment) (call : HostCall)
    (unforced : ∀ id flags, call = .delete id flags → flags.force = false) :
    Follows contract (fun _ (_ : Except Failure Reply) => True)
      { forced := call.deleteFlags.force } (call.program deployment) := by
  cases call with
  | delete id flags => exact unforced_follows _ (unforced id flags rfl)
  | getOrCreate | create | renew | maintain => exact unforced_follows _ rfl
  | reap =>
      have reaps : Follows contract (Returns fun _ _ => True) { forced := true }
          (reapExpiredHosts deployment) :=
        .step trivial fun now _ => .step (fun _ => List.mem_cons_self) fun expired _ =>
          reapEach_follows _ fun _ => id
      apply Follows.bind
      apply reaps.weaken
      intro _ outcome _
      cases outcome <;> trivial

end Reaper

end Drukbox
