import Drukbox.Await.History

/-!
# Replays

A program replays on the answers that it got.  The program of a task replays on the task's own part
of the log, and a function that it calls on a segment of that part.
-/

namespace Await

variable {ι Op : Type} {Ans : Op → Type} {σ χ ω ε δ α β : Type}

/-- On these answers the program comes to what is left of it. -/
inductive Program.Replays : Program Ans ε α → List (Σ op, Ans op) → Program Ans ε α → Prop
  | refl {program : Program Ans ε α} : Replays program [] program
  | call {op : Op} {resume : Ans op → Program Ans ε α} {answer : Ans op}
      {calls : List (Σ op, Ans op)} {rest : Program Ans ε α}
      (after : Replays (resume answer) calls rest) :
      Replays (.call op resume) (⟨op, answer⟩ :: calls) rest

namespace Program.Replays

variable {program : Program Ans ε α} {calls : List (Σ op, Ans op)}

theorem snoc {op : Op} {resume : Ans op → Program Ans ε α}
    (replays : program.Replays calls (.call op resume)) (answer : Ans op) :
    program.Replays (calls ++ [⟨op, answer⟩]) (resume answer) := by
  generalize ends : Program.call op resume = rest at replays
  induction replays with
  | refl =>
      subst ends
      exact .call .refl
  | call _ ih => exact .call (ih ends)

theorem bind_done {next : α → Program Ans ε β} {value : β}
    (replays : (program.bind next).Replays calls (.done value)) :
    ∃ first result rest, calls = first ++ rest ∧ program.Replays first (.done result) ∧
      (next result).Replays rest (.done value) := by
  induction program generalizing calls with
  | done result => exact ⟨[], result, calls, rfl, .refl, replays⟩
  | raise error => cases replays
  | call op resume ih =>
      cases replays with
      | call after =>
          obtain ⟨first, result, rest, rfl, replayed, following⟩ := ih _ after
          exact ⟨_ :: first, result, rest, rfl, .call replayed, following⟩

theorem attempt_done {program : Program Ans δ α} {value : α}
    (replays : (program.attempt : Program Ans ε (Except δ α)).Replays calls (.done (.ok value))) :
    program.Replays calls (.done value) := by
  induction program generalizing calls with
  | done result =>
      cases replays
      exact .refl
  | raise error => cases replays
  | call op resume ih =>
      cases replays with
      | call after => exact .call (ih _ after)

/-- A program that returned before its cleanup did so on the answers before those of the cleanup. -/
theorem closing_done {cleanup : Program Ans ε Unit} {value : α}
    (replays : (program.closing cleanup).Replays calls (.done value)) :
    ∃ first rest, calls = first ++ rest ∧ program.Replays first (.done value) := by
  obtain ⟨first, outcome, rest, rfl, attempted, closed⟩ := replays.bind_done
  obtain ⟨_, _, last, rfl, -, ended⟩ := closed.bind_done
  cases outcome with
  | error error => cases ended
  | ok result =>
  cases ended
  exact ⟨first, _, rfl, attempted.attempt_done⟩

end Program.Replays

/-- The contract that records the answers. -/
def recording : Contract Ans (List (Σ op, Ans op)) where
  allows _ _ := True
  next calls op answer := calls ++ [⟨op, answer⟩]

theorem recording_follows {program : Program Ans ε α} {recorded : List (Σ op, Ans op)} :
    Follows recording (Returns fun later _ =>
      ∃ more, later = recorded ++ more) recorded program := by
  induction program generalizing recorded with
  | done => exact ⟨[], (List.append_nil _).symm⟩
  | raise => trivial
  | call op resume ih =>
      refine ⟨trivial, fun answer _ => (ih answer).returns ?_⟩
      rintro _ _ ⟨more, rfl⟩
      exact ⟨⟨op, answer⟩ :: more, by simp [recording]⟩

/-- What the record says of a return, it says of the answers of every replay that returns. -/
theorem Follows.replays {post : List (Σ op, Ans op) → Except ε α → Prop} {program : Program Ans ε α}
    {calls : List (Σ op, Ans op)} {value : α} (follows : Follows recording post [] program)
    (replays : program.Replays calls (.done value)) : post calls (.ok value) := by
  suffices ended : ∀ recorded, Follows recording post recorded program →
      post (recorded ++ calls) (.ok value) from ended [] follows
  clear follows
  intro recorded follows
  induction program generalizing recorded calls with
  | done result =>
      cases replays
      rw [List.append_nil]
      exact follows
  | raise error => cases replays
  | call op resume ih =>
      cases replays with
      | @call _ _ answer calls _ after =>
          have ended := ih answer after _ (follows.2 answer trivial)
          rw [recording, List.append_assoc, List.singleton_append] at ended
          exact ended

section Calls

variable [DecidableEq ι] {task other : ι} {op : Op} {answer : Ans op} {log : List (Entry ι Ans)}

/-- The answers of one task. -/
def callsOf (task : ι) (log : List (Entry ι Ans)) : List (Σ op, Ans op) :=
  log.filterMap fun
    | .answered other op answer => if other = task then some ⟨op, answer⟩ else none
    | .abandoned _ => none

theorem callsOf_self :
    callsOf task (log ++ [.answered task op answer]) = callsOf task log ++ [⟨op, answer⟩] := by
  simp [callsOf]

theorem callsOf_other (different : other ≠ task) :
    callsOf task (log ++ [.answered other op answer]) = callsOf task log := by
  simp [callsOf, different]

theorem callsOf_abandoned : callsOf task (log ++ [.abandoned other]) = callsOf task log := by
  simp [callsOf]

/-- An answer of the task in the log, with the answers before and after it. -/
theorem callsOf_split {front back : List (Σ op, Ans op)} {call : Σ op, Ans op}
    (split : callsOf task log = front ++ call :: back) :
    ∃ earlier later, log = earlier ++ .answered task call.1 call.2 :: later ∧
      callsOf task earlier = front ∧ callsOf task later = back := by
  obtain ⟨earlier, rest, rfl, rfl, behind⟩ := List.filterMap_eq_append_iff.mp split
  obtain ⟨skipped, entry, later, rfl, others, own, rfl⟩ := List.filterMap_eq_cons_iff.mp behind
  cases entry with
  | abandoned owner => contradiction
  | answered owner op answer =>
      obtain ⟨rfl, same⟩ := Option.ite_none_right_eq_some.mp own
      obtain rfl := Option.some.inj same
      refine ⟨earlier ++ skipped, later, by simp, ?_, rfl⟩
      rw [callsOf, List.filterMap_append, List.filterMap_eq_nil_iff.mpr others, List.append_nil]

theorem mem_of_callsOf (called : ⟨op, answer⟩ ∈ callsOf task log) :
    .answered task op answer ∈ log := by
  obtain ⟨front, back, split⟩ := List.append_of_mem called
  obtain ⟨earlier, later, rfl, -⟩ := callsOf_split split
  simp

theorem lastCall_eq : lastCall task log = (callsOf task log).getLast? := by
  induction log using List.reverseRecOn with
  | nil => rfl
  | append_singleton log entry ih =>
      cases entry with
      | abandoned owner => rw [lastCall_abandoned, callsOf_abandoned, ih]
      | answered owner op answer =>
          by_cases mine : owner = task
          · subst mine
            rw [lastCall_self, callsOf_self, List.getLast?_concat]
          · rw [lastCall_other mine, callsOf_other mine, ih]

theorem lastCall_split (last : lastCall task log = some ⟨op, answer⟩) :
    ∃ front back, log = front ++ .answered task op answer :: back ∧ callsOf task back = [] := by
  rw [lastCall_eq] at last
  obtain ⟨front, split⟩ := List.getLast?_eq_some_iff.mp last
  obtain ⟨earlier, later, rfl, -, behind⟩ := callsOf_split split
  exact ⟨earlier, later, rfl, behind⟩

end Calls

/-- In every run the program of a task replays on the task's answers. -/
theorem System.Reaches.replays [DecidableEq ι] {system : System ι Ans σ χ ω}
    {condition : Condition ι Ans σ ω} {before after : Config ι Ans σ ε α}
    (reach : system.Reaches condition before after) (fresh : before.world.log = [])
    {task : ι} {program rest : Program Ans ε α} (starts : before.tasks task = some program)
    (left : after.tasks task = some rest) :
    program.Replays (callsOf task after.world.log) rest := by
  induction reach generalizing rest with
  | refl =>
      obtain rfl := Option.some.inj (starts.symm.trans left)
      rw [fresh]
      exact .refl
  | tail _ step ih =>
      obtain ⟨event, -, stepped⟩ := step
      rcases System.next_cases stepped with
        ⟨owner, choice, op, resume, answer, later, -, waits, answered, rfl⟩ |
        ⟨owner, op, resume, -, waits, rfl⟩ | ⟨move, state, -, -, rfl⟩
      · obtain ⟨-, log⟩ := System.answer_eq_some.mp answered
        dsimp only at left ⊢
        rw [log]
        by_cases mine : owner = task
        · subst mine
          obtain rfl : resume answer = rest := by simpa using left
          rw [callsOf_self]
          exact (ih waits).snoc answer
        · rw [Function.update_of_ne (Ne.symm mine)] at left
          rw [callsOf_other mine]
          exact ih left
      · dsimp only at left ⊢
        rw [System.abandoned, callsOf_abandoned]
        by_cases mine : owner = task
        · simp [mine] at left
        · rw [Function.update_of_ne (Ne.symm mine)] at left
          exact ih left
      · exact ih left

end Await
