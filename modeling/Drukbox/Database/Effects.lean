import Drukbox.Database.Query

/-!
# What one step does

For each statement, what its answer says about the state before and what the state is after.  Every
proof about a run reads the steps through these lemmas.
-/

namespace Drukbox

open Await

variable {ι : Type} [DecidableEq ι] {deployment : Deployment} {task : ι} {choice : Choice}
  {state after : State ι}

namespace HostQuery

/-- What an answered statement says: what held before, and the state after. -/
def Outcome (session : ι) (state : State ι) :
    (query : HostQuery) → query.Answer → State ι → Prop
  | get id, row, after => row = state.hosts.get id ∧ after = state
  | lock id, none, after => state.hosts.get id = none ∧ after = state
  | lock id, some host, after =>
      State.Free session (state.hostLock id) ∧ state.hosts.get id = some host ∧
        after = { state with hostLock := Function.update state.hostLock id (some session) }
  | expired now, ids, after =>
      (∀ id, id ∈ ids ↔ ∃ host, state.hosts.get id = some host ∧ host.expiredBefore now) ∧
        after = state
  | warm now, counts, after =>
      (∀ item ∈ counts, item.2 = state.hosts.count fun host =>
        host.provider == item.1 && host.warm now) ∧ after = state
  | excess provider now limit, ids, after =>
      Oldest state.hosts (fun host => host.provider == provider && host.warm now) limit ids ∧
        after = state
  | count scope now, live, after =>
      live = state.hosts.count (fun host => scope.counts host && host.live now) ∧ after = state
  | candidate provider now createdFrom, some host, after =>
      (∃ id, state.hosts.get id = some host) ∧ host.claimable provider now createdFrom ∧
        after = state
  | candidate _ _ _, none, after => after = state
  | claim id serviceAccount now expiresAt, some claimed, after =>
      State.Free session (state.hostLock id) ∧
        ∃ host, state.hosts.get id = some host ∧ host.claimedAt = none ∧
          claimed = host.set (Host.claimColumns serviceAccount now expiresAt) ∧
          after = { state with hosts := state.hosts.insert id claimed }.release session
  | claim id _ _ _, none, after =>
      (∀ host, state.hosts.get id = some host → host.claimedAt ≠ none) ∧
        after = state.release session
  | insert host lease, .ok (), after =>
      leaseWaits session state lease = false ∧ leaseLost state lease = false ∧
        state.hosts.get host.id = none ∧
        (∀ id other, state.hosts.get id = some other → other.name ≠ host.name) ∧
        after =
          { state with
            hosts := state.hosts.insert host.id host
            templates := leased state.templates lease }.release session
  | insert _ _, .error _, after => after = state
  | update _ id columns, true, after =>
      State.Free session (state.hostLock id) ∧
        ∃ host, state.hosts.get id = some host ∧
          after = { state with hosts := state.hosts.insert id (host.set columns) }.release session
  | update _ id _, false, after => state.hosts.get id = none ∧ after = state
  | stamp id initial expiresAt updatedAt, (), after =>
      (state.hostLock id = none ∧ ∃ host, state.hosts.get id = some host ∧
        host.expiresAt = some initial ∧
        after =
          { state with
            hosts :=
              state.hosts.insert id (host.set { expiresAt := some expiresAt, updatedAt }) }) ∨
      ((∀ host, state.hosts.get id = some host → host.expiresAt ≠ some initial) ∧ after = state)
  | delete id, (), after =>
      State.Free session (state.hostLock id) ∧
        after =
          { state with
            hosts := state.hosts.erase id
            keys := cascade state.keys id }.release session

theorem perform_outcome {query : HostQuery} {answer : query.Answer}
    (performed : query.perform task choice state = some (answer, after)) :
    Outcome task state query answer after := by
  cases query with
  | get id =>
      simp only [perform, Option.some.injEq, Prod.mk.injEq] at performed
      exact ⟨performed.1.symm, performed.2.symm⟩
  | lock id =>
      simp only [perform] at performed
      split at performed
      · next free =>
          split at performed
          · next row =>
              simp only [Option.some.injEq, Prod.mk.injEq] at performed
              obtain ⟨rfl, rfl⟩ := performed
              exact ⟨row, rfl⟩
          · next host row =>
              simp only [Option.some.injEq, Prod.mk.injEq] at performed
              obtain ⟨rfl, rfl⟩ := performed
              exact ⟨free, row, rfl⟩
      · contradiction
  | expired now =>
      simp only [perform] at performed
      split at performed
      · next ids =>
          split at performed
          · next listed =>
              simp only [Option.some.injEq, Prod.mk.injEq] at performed
              obtain ⟨rfl, rfl⟩ := performed
              refine ⟨fun id => ?_, rfl⟩
              rw [← List.mem_toFinset, listed.2, Finset.mem_filter, Option.any_eq_true,
                and_iff_right_iff_imp]
              rintro ⟨host, row, -⟩
              exact (state.hosts.mem_keys id).mpr (Option.isSome_of_eq_some row)
          · contradiction
      · contradiction
  | warm now =>
      simp only [perform] at performed
      split at performed
      · split at performed
        · simp only [Option.some.injEq, Prod.mk.injEq] at performed
          obtain ⟨rfl, rfl⟩ := performed
          refine ⟨fun item member => ?_, rfl⟩
          obtain ⟨provider, -, rfl⟩ := List.mem_map.mp member
          rfl
        · contradiction
      · contradiction
  | excess provider now limit =>
      simp only [perform] at performed
      split at performed
      · split at performed
        · next oldest =>
            simp only [Option.some.injEq, Prod.mk.injEq] at performed
            obtain ⟨rfl, rfl⟩ := performed
            exact ⟨oldest, rfl⟩
        · contradiction
      · contradiction
  | count scope now =>
      simp only [perform, Option.some.injEq, Prod.mk.injEq] at performed
      exact ⟨performed.1.symm, performed.2.symm⟩
  | candidate provider now createdFrom =>
      simp only [perform] at performed
      split at performed
      · next id =>
          split at performed
          · next host row =>
              split at performed
              · next best =>
                  simp only [Option.some.injEq, Prod.mk.injEq] at performed
                  obtain ⟨rfl, rfl⟩ := performed
                  exact ⟨⟨id, row⟩, best.1, rfl⟩
              · contradiction
          · contradiction
      · split at performed
        · contradiction
        · simp only [Option.some.injEq, Prod.mk.injEq] at performed
          obtain ⟨rfl, rfl⟩ := performed
          rfl
  | claim id serviceAccount now expiresAt =>
      simp only [perform] at performed
      split at performed
      · next free =>
          split at performed
          · next host row =>
              split at performed
              · next unclaimed =>
                  simp only [Option.some.injEq, Prod.mk.injEq] at performed
                  obtain ⟨rfl, rfl⟩ := performed
                  exact ⟨free, host, row, Option.isNone_iff_eq_none.mp unclaimed, rfl, rfl⟩
              · next claimed =>
                  simp only [Option.some.injEq, Prod.mk.injEq] at performed
                  obtain ⟨rfl, rfl⟩ := performed
                  refine ⟨fun other present => ?_, rfl⟩
                  obtain rfl : host = other := by simpa [row] using present
                  exact fun absent => claimed (by simp [absent])
          · next row =>
              simp only [Option.some.injEq, Prod.mk.injEq] at performed
              obtain ⟨rfl, rfl⟩ := performed
              exact ⟨by simp [row], rfl⟩
      · contradiction
  | insert host lease =>
      simp only [perform] at performed
      split at performed
      · contradiction
      · next waits =>
          split at performed
          · simp only [Option.some.injEq, Prod.mk.injEq] at performed
            obtain ⟨rfl, rfl⟩ := performed
            rfl
          · next lost =>
              split at performed
              · simp only [Option.some.injEq, Prod.mk.injEq] at performed
                obtain ⟨rfl, rfl⟩ := performed
                rfl
              · next unique =>
                  simp only [Option.some.injEq, Prod.mk.injEq] at performed
                  obtain ⟨rfl, rfl⟩ := performed
                  obtain ⟨absent, unnamed⟩ := not_or.mp unique
                  refine ⟨by simpa using waits, by simpa using lost, by simpa using absent,
                    fun id other present named => unnamed ?_, rfl⟩
                  exact Table.any_iff.mpr ⟨id, other, present, by simp [named]⟩
  | update place id columns =>
      simp only [perform] at performed
      split at performed
      · next free =>
          split at performed
          · next host row =>
              simp only [Option.some.injEq, Prod.mk.injEq] at performed
              obtain ⟨rfl, rfl⟩ := performed
              exact ⟨free, host, row, rfl⟩
          · next row =>
              simp only [Option.some.injEq, Prod.mk.injEq] at performed
              obtain ⟨rfl, rfl⟩ := performed
              exact ⟨row, rfl⟩
      · contradiction
  | stamp id initial expiresAt updatedAt =>
      simp only [perform] at performed
      split at performed
      · next unlocked =>
          split at performed
          · next host row =>
              split at performed
              · next matched =>
                  simp only [Option.some.injEq, Prod.mk.injEq] at performed
                  obtain ⟨-, rfl⟩ := performed
                  exact .inl ⟨unlocked, host, row, matched, rfl⟩
              · next moved =>
                  simp only [Option.some.injEq, Prod.mk.injEq] at performed
                  obtain ⟨-, rfl⟩ := performed
                  refine .inr ⟨fun other present => ?_, rfl⟩
                  obtain rfl : host = other := by simpa [row] using present
                  exact moved
          · next row =>
              simp only [Option.some.injEq, Prod.mk.injEq] at performed
              obtain ⟨-, rfl⟩ := performed
              exact .inr ⟨by simp [row], rfl⟩
      · contradiction
  | delete id =>
      simp only [perform] at performed
      split at performed
      · next free =>
          simp only [Option.some.injEq, Prod.mk.injEq] at performed
          obtain ⟨-, rfl⟩ := performed
          exact ⟨free, rfl⟩
      · contradiction

end HostQuery

namespace KeyQuery

/-- What an answered statement says: what held before, and the state after. -/
def Outcome (state : State ι) : (query : KeyQuery) → query.Answer → State ι → Prop
  | get key, record, after => record = state.keys.get key ∧ after = state
  | delete key, (), after => after = { state with keys := state.keys.erase key }
  | insert record, true, after =>
      state.hostLock record.hostId = none ∧ state.keys.get record.key = none ∧
        (state.hosts.get record.hostId).isSome ∧
        after = { state with keys := state.keys.insert record.key record }
  | insert record, false, after =>
      ((state.keys.get record.key).isSome ∨ state.hosts.get record.hostId = none) ∧ after = state

omit [DecidableEq ι] in
theorem perform_outcome {query : KeyQuery} {answer : query.Answer}
    (performed : query.perform state = some (answer, after)) :
    Outcome state query answer after := by
  cases query with
  | get key =>
      simp only [perform, Option.some.injEq, Prod.mk.injEq] at performed
      exact ⟨performed.1.symm, performed.2.symm⟩
  | delete key =>
      simp only [perform, Option.some.injEq, Prod.mk.injEq] at performed
      exact performed.2.symm
  | insert record =>
      simp only [perform] at performed
      split at performed
      · next unlocked =>
          split at performed
          · next free =>
              simp only [Option.some.injEq, Prod.mk.injEq] at performed
              obtain ⟨rfl, rfl⟩ := performed
              exact ⟨unlocked, by simpa using free.1, free.2, rfl⟩
          · next taken =>
              simp only [Option.some.injEq, Prod.mk.injEq] at performed
              obtain ⟨rfl, rfl⟩ := performed
              refine ⟨?_, rfl⟩
              by_cases recorded : (state.keys.get record.key).isSome
              · exact .inl recorded
              · refine .inr (Option.not_isSome_iff_eq_none.mp fun present => taken ⟨?_, present⟩)
                simpa using recorded
      · contradiction

end KeyQuery

namespace TemplateQuery

variable {settings : Settings}

/-- What a row lock says: what held before, and the state after. -/
def Locked (session : ι) (state : State ι) (id : TemplateId) : Option Template → State ι → Prop
  | none, after => state.templates.get id = none ∧ after = state
  | some template, after =>
      State.Free session (state.templateLock id) ∧ state.templates.get id = some template ∧
        after =
          { state with templateLock := Function.update state.templateLock id (some session) }

theorem lockRow_locked {id : TemplateId} {answer : Option Template}
    (performed : lockRow task state id = some (answer, after)) :
    Locked task state id answer after := by
  simp only [lockRow] at performed
  split at performed
  · next free =>
      split at performed
      · next row =>
          simp only [Option.some.injEq, Prod.mk.injEq] at performed
          obtain ⟨rfl, rfl⟩ := performed
          exact ⟨row, rfl⟩
      · next template row =>
          simp only [Option.some.injEq, Prod.mk.injEq] at performed
          obtain ⟨rfl, rfl⟩ := performed
          exact ⟨free, row, rfl⟩
  · contradiction

/-- What an answered statement says: what held before, and the state after. -/
def Outcome (settings : Settings) (session : ι) (state : State ι) :
    (query : TemplateQuery) → query.Answer → State ι → Prop
  | get id, row, after => row = state.templates.get id ∧ after = state
  | lock id, row, after => Locked session state id row after
  | lockKey key, some template, after =>
      template.toTemplateKey = key ∧ ∃ id, Locked session state id (some template) after
  | lockKey _, none, after => after = state
  | reapable now, ids, after =>
      (∀ id ∈ ids, ∃ row, state.templates.get id = some row ∧ row.reapable settings now) ∧
        after = state
  | isReapable id now, still, after =>
      still = (state.templates.get id).any (·.reapable settings now) ∧ after = state
  | touch lease, true, after =>
      if lease.changed then ∃ template, Locked session state lease.template (some template) after
      else after = state
  | touch _, false, after => after = state
  | insert template, true, after =>
      state.templates.get template.id = none ∧
        (∀ id other, state.templates.get id = some other →
          other.toTemplateKey ≠ template.toTemplateKey) ∧
        after = { state with templates := state.templates.insert template.id template }
  | insert _, false, after => after = state
  | restart id updatedAt, (), after =>
      State.Free session (state.templateLock id) ∧
        after =
          { state with
            templates :=
              state.templates.modify id fun row =>
                row.set { status := some .building, updatedAt := some updatedAt } }.release
            session
  | finish id columns, true, after =>
      (columns.isEmpty ∧ after = state.release session) ∨
        (State.Free session (state.templateLock id) ∧
          ∃ template, state.templates.get id = some template ∧
            after =
              { state with
                templates := state.templates.insert id (template.set columns) }.release session)
  | finish _ _, false, after => after = state
  | abandon before lastError updatedAt, (), after =>
      (∀ id row, state.templates.get id = some row → abandonable before row →
        State.Free session (state.templateLock id)) ∧
        after =
          { state with
            templates :=
              state.templates.map fun row =>
                if abandonable before row then
                  row.set
                    { status := some .failed
                      lastError := some lastError
                      updatedAt := some updatedAt }
                else
                  row }
  | delete id, (), after =>
      State.Free session (state.templateLock id) ∧
        after = { state with templates := state.templates.erase id }.release session

theorem perform_outcome {query : TemplateQuery} {answer : query.Answer}
    (performed : query.perform settings task choice state = some (answer, after)) :
    Outcome settings task state query answer after := by
  cases query with
  | get id =>
      simp only [perform, Option.some.injEq, Prod.mk.injEq] at performed
      exact ⟨performed.1.symm, performed.2.symm⟩
  | lock id => exact lockRow_locked performed
  | lockKey key =>
      simp only [perform] at performed
      split at performed
      · next id =>
          split at performed
          · next keyed =>
              have locked := lockRow_locked performed
              cases answer with
              | none => exact locked.2
              | some template =>
                  refine ⟨?_, id, locked⟩
                  simpa [locked.2.1] using keyed
          · contradiction
      · split at performed
        · contradiction
        · simp only [Option.some.injEq, Prod.mk.injEq] at performed
          obtain ⟨rfl, rfl⟩ := performed
          rfl
  | reapable now =>
      simp only [perform] at performed
      split at performed
      · next ids =>
          split at performed
          · next listed =>
              simp only [Option.some.injEq, Prod.mk.injEq] at performed
              obtain ⟨rfl, rfl⟩ := performed
              refine ⟨fun id member => ?_, rfl⟩
              have found := listed.2 ▸ List.mem_toFinset.mpr member
              simpa [Option.any_eq_true] using (Finset.mem_filter.mp found).2
          · contradiction
      · contradiction
  | isReapable id now =>
      simp only [perform, Option.some.injEq, Prod.mk.injEq] at performed
      exact ⟨performed.1.symm, performed.2.symm⟩
  | touch lease =>
      simp only [perform] at performed
      split at performed
      · next changed =>
          simp only [Option.map_eq_some_iff, Prod.exists, Prod.mk.injEq] at performed
          obtain ⟨row, later, locked, rfl, rfl⟩ := performed
          have found := lockRow_locked locked
          cases row with
          | none => exact found.2
          | some template =>
              simp only [Option.isSome_some, Outcome, changed, if_true]
              exact ⟨template, found⟩
      · next unchanged =>
          simp only [Option.some.injEq, Prod.mk.injEq] at performed
          obtain ⟨rfl, rfl⟩ := performed
          simp [Outcome, unchanged]
  | insert template =>
      simp only [perform] at performed
      split at performed
      · next free =>
          simp only [Option.some.injEq, Prod.mk.injEq] at performed
          obtain ⟨rfl, rfl⟩ := performed
          refine ⟨by simpa using free.1, fun id other present keyed => free.2 ?_, rfl⟩
          exact Table.any_iff.mpr ⟨id, other, present, by simp [keyed]⟩
      · simp only [Option.some.injEq, Prod.mk.injEq] at performed
        obtain ⟨rfl, rfl⟩ := performed
        rfl
  | restart id updatedAt =>
      simp only [perform] at performed
      split at performed
      · next free =>
          simp only [Option.some.injEq, Prod.mk.injEq] at performed
          exact ⟨free, performed.2.symm⟩
      · contradiction
  | finish id columns =>
      simp only [perform] at performed
      split at performed
      · next empty =>
          simp only [Option.some.injEq, Prod.mk.injEq] at performed
          obtain ⟨rfl, rfl⟩ := performed
          exact .inl ⟨empty, rfl⟩
      · split at performed
        · next free =>
            split at performed
            · next template row =>
                simp only [Option.some.injEq, Prod.mk.injEq] at performed
                obtain ⟨rfl, rfl⟩ := performed
                exact .inr ⟨free, template, row, rfl⟩
            · simp only [Option.some.injEq, Prod.mk.injEq] at performed
              obtain ⟨rfl, rfl⟩ := performed
              rfl
        · contradiction
  | abandon before lastError updatedAt =>
      simp only [perform] at performed
      split at performed
      · next free =>
          simp only [Option.some.injEq, Prod.mk.injEq] at performed
          refine ⟨fun id row present overdue => ?_, performed.2.symm⟩
          exact free id ((state.templates.mem_keys id).mpr (by simp [present]))
            (by simpa [present] using overdue)
      · contradiction
  | delete id =>
      simp only [perform] at performed
      split at performed
      · next free =>
          simp only [Option.some.injEq, Prod.mk.injEq] at performed
          exact ⟨free, performed.2.symm⟩
      · contradiction

end TemplateQuery

namespace VMCall

/-- What an answered call says: what held before, and the state after. -/
def Outcome (task : ι) (state : State ι) : (call : VMCall) → call.Answer → State ι → Prop
  | start host _ _, (), after =>
      after =
        { state with
          creating :=
            Function.update state.creating task
              (some { host := host.id, name := host.name, createdAt := host.createdAt }) }
  | finish, _, after =>
      after = { state with creating := Function.update state.creating task none }
  | delete host, .ok (), after => after = { state with vms := state.vms.erase host.name }
  | delete host, .error failure, after =>
      (failure.kind = .providerNotFound → host.name ∉ state.vms) ∧ after = state

theorem perform_outcome {call : VMCall} {answer : call.Answer}
    (performed : call.perform task choice state = some (answer, after)) :
    Outcome task state call answer after := by
  cases call with
  | start host environment setupScript =>
      simp only [perform, Option.some.injEq, Prod.mk.injEq] at performed
      exact performed.2.symm
  | finish =>
      simp only [perform] at performed
      split at performed
      · split at performed
        · simp only [Option.some.injEq, Prod.mk.injEq] at performed
          exact performed.2.symm
        · contradiction
      · simp only [Option.some.injEq, Prod.mk.injEq] at performed
        exact performed.2.symm
      · contradiction
  | delete host =>
      simp only [perform] at performed
      split at performed
      · simp only [Option.some.injEq, Prod.mk.injEq] at performed
        obtain ⟨rfl, rfl⟩ := performed
        rfl
      · next failure =>
          split at performed
          · contradiction
          · next possible =>
              simp only [Option.some.injEq, Prod.mk.injEq] at performed
              obtain ⟨rfl, rfl⟩ := performed
              exact ⟨fun missing present => possible ⟨missing, present⟩, rfl⟩
      · contradiction

end VMCall

/-- What an answered operation says: what held before, and the state after. -/
def Op.Outcome (deployment : Deployment) (task : ι) (state : State ι) :
    (op : Op) → op.Answer → State ι → Prop
  | .clock, now, after => now = state.now ∧ after = state
  | .uuid7, id, after =>
      id ∉ state.issued ∧ after = { state with issued := insert id state.issued }
  | .advisoryLock key, (), after =>
      State.Free task (state.advisory (deployment.hashtext key)) ∧
        after =
          { state with
            advisory := Function.update state.advisory (deployment.hashtext key) (some task) }
  | .rollback, (), after => after = state.release task
  | .hosts query, answer, after => query.Outcome task state answer after
  | .keys query, answer, after => query.Outcome state answer after
  | .templates query, answer, after => query.Outcome deployment.settings task state answer after
  | .outside _, _, after => after = state
  | .vm call, answer, after => call.Outcome task state answer after

theorem Deployment.perform_outcome {op : Op} {answer : op.Answer}
    (performed : deployment.perform task op choice state = some (answer, after)) :
    op.Outcome deployment task state answer after := by
  cases op with
  | clock =>
      simp only [perform, Option.some.injEq, Prod.mk.injEq] at performed
      exact ⟨performed.1.symm, performed.2.symm⟩
  | uuid7 =>
      simp only [perform] at performed
      split at performed
      · split at performed
        · contradiction
        · next fresh =>
            simp only [Option.some.injEq, Prod.mk.injEq] at performed
            obtain ⟨rfl, rfl⟩ := performed
            exact ⟨fresh, rfl⟩
      · contradiction
  | advisoryLock key =>
      simp only [perform] at performed
      split at performed
      · next free =>
          simp only [Option.some.injEq, Prod.mk.injEq] at performed
          exact ⟨free, performed.2.symm⟩
      · contradiction
  | rollback =>
      simp only [perform, Option.some.injEq, Prod.mk.injEq] at performed
      exact performed.2.symm
  | hosts query => exact HostQuery.perform_outcome performed
  | keys query => exact KeyQuery.perform_outcome performed
  | templates query => exact TemplateQuery.perform_outcome performed
  | outside call =>
      simp only [perform, Option.map_eq_some_iff, Prod.mk.injEq] at performed
      obtain ⟨_, _, _, rfl⟩ := performed
      rfl
  | vm call => exact VMCall.perform_outcome performed

omit [DecidableEq ι] in
/-- The outside world moves the clock forward and decides which VMs exist. -/
theorem Deployment.nature_frame {move : Nature ι} (moved : nature move state = some after) :
    ∃ now vms, state.now ≤ now ∧ after = { state with now, vms } := by
  cases move with
  | tick microseconds =>
      obtain rfl := Option.some.inj moved
      exact ⟨_, _, Int.le_add_of_nonneg_right (Int.natCast_nonneg _), rfl⟩
  | appears task =>
      obtain ⟨creation, -, rfl⟩ := Option.map_eq_some_iff.mp moved
      exact ⟨_, _, le_refl _, rfl⟩
  | vanishes name =>
      obtain rfl := Option.some.inj moved
      exact ⟨_, _, le_refl _, rfl⟩

namespace HostQuery

/-- What an answered statement makes of one row. -/
def effect : (query : HostQuery) → query.Answer → HostId → Option Host → Option Host
  | claim target _ _ _, some claimed, id, row => if id = target then some claimed else row
  | insert host _, .ok (), id, row => if id = host.id then some host else row
  | update _ target columns, true, id, row =>
      if id = target then row.map (·.set columns) else row
  | stamp target initial expiresAt updatedAt, (), id, row =>
      if id = target then
        row.map fun host =>
          if host.expiresAt = some initial then host.set { expiresAt := some expiresAt, updatedAt }
          else host
      else
        row
  | delete target, (), id, row => if id = target then none else row
  | get _, _, _, row | lock _, _, _, row | expired _, _, _, row | warm _, _, _, row
  | excess _ _ _, _, _, row | count _ _, _, _, row
  | candidate _ _ _, _, _, row | claim _ _ _ _, none, _, row | insert _ _, .error _, _, row
  | update _ _ _, false, _, row => row

theorem Outcome.get {query : HostQuery} {answer : query.Answer}
    (outcome : query.Outcome task state answer after) (id : HostId) :
    after.hosts.get id = query.effect answer id (state.hosts.get id) := by
  cases query with
  | get target => obtain ⟨-, rfl⟩ := outcome; rfl
  | lock target =>
      cases answer with
      | none => obtain ⟨-, rfl⟩ := outcome; rfl
      | some host => obtain ⟨-, -, rfl⟩ := outcome; rfl
  | expired now => obtain ⟨-, rfl⟩ := outcome; rfl
  | warm now => obtain ⟨-, rfl⟩ := outcome; rfl
  | excess provider now limit => obtain ⟨-, rfl⟩ := outcome; rfl
  | count scope now => obtain ⟨-, rfl⟩ := outcome; rfl
  | candidate provider now createdFrom =>
      cases answer with
      | none => obtain rfl := outcome; rfl
      | some host => obtain ⟨-, -, rfl⟩ := outcome; rfl
  | claim target serviceAccount now expiresAt =>
      cases answer with
      | none => obtain ⟨-, rfl⟩ := outcome; rfl
      | some claimed =>
          obtain ⟨-, host, -, -, -, rfl⟩ := outcome
          simp [effect, Table.get_insert]
  | insert host lease =>
      cases answer with
      | error failure => obtain rfl := outcome; rfl
      | ok =>
          obtain ⟨-, -, -, -, rfl⟩ := outcome
          simp [effect, Table.get_insert]
  | update place target columns =>
      cases answer with
      | false => obtain ⟨-, rfl⟩ := outcome; rfl
      | true =>
          obtain ⟨-, host, row, rfl⟩ := outcome
          simp only [State.release_hosts, Table.get_insert, effect]
          split
          · next same => simp [same, row]
          · rfl
  | stamp target initial expiresAt updatedAt =>
      rcases outcome with ⟨-, host, row, matched, rfl⟩ | ⟨moved, rfl⟩
      · simp only [Table.get_insert, effect]
        split
        · next same => simp [same, row, matched]
        · rfl
      · simp only [effect]
        split
        · next same =>
            subst same
            cases row : after.hosts.get id with
            | none => rfl
            | some host => simp [moved host row]
        · rfl
  | delete target =>
      obtain ⟨-, rfl⟩ := outcome
      simp [effect, Table.get_erase]

end HostQuery

/-- What an answered operation makes of one host row. -/
def Op.hostEffect : (op : Op) → op.Answer → HostId → Option Host → Option Host
  | .hosts query, answer => query.effect answer
  | .clock, _ | .uuid7, _ | .advisoryLock _, _ | .rollback, _ | .keys _, _ | .templates _, _
  | .outside _, _ | .vm _, _ => fun _ row => row

/-- What a statement can change: the committed rows and the locks of its session. -/
inductive Access (session : ι) (state : State ι) : State ι → Prop
  | read : Access session state state
  /-- Writes in the session of the task, which end its transaction. -/
  | commit (hosts keys templates) :
      Access session state ({ state with hosts, keys, templates }.release session)
  /-- Writes in a session of their own. -/
  | write (hosts keys templates) : Access session state { state with hosts, keys, templates }
  | hostLock (id : HostId) (free : State.Free session (state.hostLock id)) :
      Access session state
        { state with hostLock := Function.update state.hostLock id (some session) }
  | templateLock (id : TemplateId) (free : State.Free session (state.templateLock id)) :
      Access session state
        { state with templateLock := Function.update state.templateLock id (some session) }

theorem HostQuery.Outcome.access {query : HostQuery} {answer : query.Answer}
    (outcome : query.Outcome task state answer after) : Access task state after := by
  cases query with
  | get id => obtain ⟨-, rfl⟩ := outcome; exact .read
  | lock id =>
      cases answer with
      | none => obtain ⟨-, rfl⟩ := outcome; exact .read
      | some host => obtain ⟨free, -, rfl⟩ := outcome; exact .hostLock id free
  | expired now => obtain ⟨-, rfl⟩ := outcome; exact .read
  | warm now => obtain ⟨-, rfl⟩ := outcome; exact .read
  | excess provider now limit => obtain ⟨-, rfl⟩ := outcome; exact .read
  | count scope now => obtain ⟨-, rfl⟩ := outcome; exact .read
  | candidate provider now createdFrom =>
      cases answer with
      | none => obtain rfl := outcome; exact .read
      | some host => obtain ⟨-, -, rfl⟩ := outcome; exact .read
  | claim id serviceAccount now expiresAt =>
      cases answer with
      | none => obtain ⟨-, rfl⟩ := outcome; exact .commit _ _ _
      | some claimed => obtain ⟨-, host, -, -, -, rfl⟩ := outcome; exact .commit _ _ _
  | insert host lease =>
      cases answer with
      | error failure => obtain rfl := outcome; exact .read
      | ok => obtain ⟨-, -, -, -, rfl⟩ := outcome; exact .commit _ _ _
  | update place id columns =>
      cases answer with
      | false => obtain ⟨-, rfl⟩ := outcome; exact .read
      | true => obtain ⟨-, host, -, rfl⟩ := outcome; exact .commit _ _ _
  | stamp id initial expiresAt updatedAt =>
      rcases outcome with ⟨-, host, -, -, rfl⟩ | ⟨-, rfl⟩
      · exact .write _ _ _
      · exact .read
  | delete id => obtain ⟨-, rfl⟩ := outcome; exact .commit _ _ _

theorem KeyQuery.Outcome.access {query : KeyQuery} {answer : query.Answer}
    (outcome : query.Outcome state answer after) : Access task state after := by
  cases query with
  | get key => obtain ⟨-, rfl⟩ := outcome; exact .read
  | delete key => obtain rfl := outcome; exact .write _ _ _
  | insert record =>
      cases answer with
      | true => obtain ⟨-, -, -, rfl⟩ := outcome; exact .write _ _ _
      | false => obtain ⟨-, rfl⟩ := outcome; exact .read

omit [DecidableEq ι] in
theorem KeyQuery.Outcome.frame {query : KeyQuery} {answer : query.Answer}
    (outcome : query.Outcome state answer after) : ∃ keys, after = { state with keys } := by
  cases query with
  | get key => exact ⟨_, outcome.2⟩
  | delete key => exact ⟨_, outcome⟩
  | insert record =>
      cases answer with
      | true => exact ⟨_, outcome.2.2.2⟩
      | false => exact ⟨_, outcome.2⟩

theorem TemplateQuery.Locked.access {id : TemplateId} {row : Option Template}
    (locked : Locked task state id row after) :
    Access task state after ∧ after.hosts = state.hosts ∧ after.keys = state.keys := by
  cases row with
  | none => obtain ⟨-, rfl⟩ := locked; exact ⟨.read, rfl, rfl⟩
  | some template => obtain ⟨free, -, rfl⟩ := locked; exact ⟨.templateLock id free, rfl, rfl⟩

theorem TemplateQuery.Outcome.touch_frame {settings : Settings} {lease : TemplateLease}
    {answer : Bool} (outcome : (touch lease).Outcome settings task state answer after) :
    ∃ templateLock, after = { state with templateLock } := by
  cases answer with
  | false => exact ⟨_, outcome⟩
  | true =>
      simp only [Outcome] at outcome
      split at outcome
      · obtain ⟨template, -, -, same⟩ := outcome
        exact ⟨_, same⟩
      · exact ⟨_, outcome⟩

theorem TemplateQuery.Outcome.access {settings : Settings} {query : TemplateQuery}
    {answer : query.Answer} (outcome : query.Outcome settings task state answer after) :
    Access task state after ∧ after.hosts = state.hosts ∧ after.keys = state.keys := by
  cases query with
  | get id => obtain ⟨-, rfl⟩ := outcome; exact ⟨.read, rfl, rfl⟩
  | lock id => exact Locked.access outcome
  | lockKey key =>
      cases answer with
      | none => obtain rfl := outcome; exact ⟨.read, rfl, rfl⟩
      | some template => obtain ⟨-, id, locked⟩ := outcome; exact locked.access
  | reapable now => obtain ⟨-, rfl⟩ := outcome; exact ⟨.read, rfl, rfl⟩
  | isReapable id now => obtain ⟨-, rfl⟩ := outcome; exact ⟨.read, rfl, rfl⟩
  | touch lease =>
      cases answer with
      | false => obtain rfl := outcome; exact ⟨.read, rfl, rfl⟩
      | true =>
          simp only [Outcome] at outcome
          split at outcome
          · obtain ⟨template, locked⟩ := outcome
            exact locked.access
          · obtain rfl := outcome
            exact ⟨.read, rfl, rfl⟩
  | insert template =>
      cases answer with
      | false => obtain rfl := outcome; exact ⟨.read, rfl, rfl⟩
      | true => obtain ⟨-, -, rfl⟩ := outcome; exact ⟨.write _ _ _, rfl, rfl⟩
  | restart id updatedAt => obtain ⟨-, rfl⟩ := outcome; exact ⟨.commit _ _ _, rfl, rfl⟩
  | finish id columns =>
      cases answer with
      | false => obtain rfl := outcome; exact ⟨.read, rfl, rfl⟩
      | true =>
          rcases outcome with ⟨-, rfl⟩ | ⟨-, template, -, rfl⟩ <;>
            exact ⟨.commit _ _ _, rfl, rfl⟩
  | abandon before lastError updatedAt =>
      obtain ⟨-, rfl⟩ := outcome; exact ⟨.write _ _ _, rfl, rfl⟩
  | delete id => obtain ⟨-, rfl⟩ := outcome; exact ⟨.commit _ _ _, rfl, rfl⟩

/-- Only a delete of a host takes idempotency records with it. -/
theorem HostQuery.Outcome.keys {query : HostQuery} {answer : query.Answer}
    (outcome : query.Outcome task state answer after) (kept : ∀ id, query ≠ .delete id) :
    after.keys = state.keys := by
  cases query with
  | get id => rw [outcome.2]
  | lock id =>
      cases answer with
      | none => rw [outcome.2]
      | some host => rw [outcome.2.2]
  | expired now => rw [outcome.2]
  | warm now => rw [outcome.2]
  | excess provider now limit => rw [outcome.2]
  | count scope now => rw [outcome.2]
  | candidate provider now createdFrom =>
      cases answer with
      | none => rw [show after = state from outcome]
      | some host => rw [outcome.2.2]
  | claim id serviceAccount now expiresAt =>
      cases answer with
      | none => rw [outcome.2]; rfl
      | some claimed => obtain ⟨-, host, -, -, -, rfl⟩ := outcome; rfl
  | insert host lease =>
      cases answer with
      | error failure => rw [show after = state from outcome]
      | ok => obtain ⟨-, -, -, -, rfl⟩ := outcome; rfl
  | update place id columns =>
      cases answer with
      | false => rw [outcome.2]
      | true => obtain ⟨-, host, -, rfl⟩ := outcome; rfl
  | stamp id initial expiresAt updatedAt =>
      rcases outcome with ⟨-, host, -, -, rfl⟩ | ⟨-, rfl⟩ <;> rfl
  | delete id => exact absurd rfl (kept id)

/-- The parts of the shared state that one operation can change. -/
inductive Change (task : ι) (state : State ι) : State ι → Prop
  | access {after : State ι} (access : Access task state after) : Change task state after
  | issue (id : ℕ) (fresh : id ∉ state.issued) :
      Change task state { state with issued := insert id state.issued }
  | advisory (lock : ℤ) (free : State.Free task (state.advisory lock)) :
      Change task state
        { state with advisory := Function.update state.advisory lock (some task) }
  | provider (vms creating) : Change task state { state with vms, creating }

theorem VMCall.Outcome.change {call : VMCall} {answer : call.Answer}
    (outcome : call.Outcome task state answer after) : Change task state after := by
  cases call with
  | start host environment setupScript => obtain rfl := outcome; exact .provider _ _
  | finish => obtain rfl := outcome; exact .provider _ _
  | delete host =>
      cases answer with
      | ok => obtain rfl := outcome; exact .provider _ _
      | error failure => obtain ⟨-, rfl⟩ := outcome; exact .access .read

namespace Op.Outcome

variable {op : Op} {answer : op.Answer}

theorem hosts_get (outcome : op.Outcome deployment task state answer after) (id : HostId) :
    after.hosts.get id = op.hostEffect answer id (state.hosts.get id) := by
  cases op with
  | clock => obtain ⟨-, rfl⟩ := outcome; rfl
  | uuid7 => obtain ⟨-, rfl⟩ := outcome; rfl
  | advisoryLock key => obtain ⟨-, rfl⟩ := outcome; rfl
  | rollback => obtain rfl := outcome; rfl
  | hosts query => exact HostQuery.Outcome.get outcome id
  | keys query =>
      obtain ⟨keys, rfl⟩ := KeyQuery.Outcome.frame outcome
      rfl
  | templates query =>
      rw [(TemplateQuery.Outcome.access outcome).2.1]
      rfl
  | outside call => obtain rfl := outcome; rfl
  | vm call =>
      cases call with
      | start host environment setupScript => obtain rfl := outcome; rfl
      | finish => obtain rfl := outcome; rfl
      | delete host =>
          cases answer with
          | ok => obtain rfl := outcome; rfl
          | error failure => obtain ⟨-, rfl⟩ := outcome; rfl

theorem keys (outcome : op.Outcome deployment task state answer after)
    (kept : ∀ id, op ≠ .hosts (.delete id)) (other : ∀ query, op ≠ .keys query) :
    after.keys = state.keys := by
  cases op with
  | clock => rw [outcome.2]
  | uuid7 => rw [outcome.2]
  | advisoryLock key => rw [outcome.2]
  | rollback => rw [show after = state.release task from outcome]; rfl
  | hosts query => exact HostQuery.Outcome.keys outcome fun id same => kept id (by rw [same])
  | keys query => exact absurd rfl (other query)
  | templates query => exact (TemplateQuery.Outcome.access outcome).2.2
  | outside call => rw [show after = state from outcome]
  | vm call =>
      cases call with
      | start host environment setupScript => obtain rfl := outcome; rfl
      | finish => obtain rfl := outcome; rfl
      | delete host =>
          cases answer with
          | ok => obtain rfl := outcome; rfl
          | error failure => rw [outcome.2]

theorem change (outcome : op.Outcome deployment task state answer after) :
    Change task state after := by
  cases op with
  | clock => obtain ⟨-, rfl⟩ := outcome; exact .access .read
  | uuid7 => obtain ⟨fresh, rfl⟩ := outcome; exact .issue _ fresh
  | advisoryLock key => obtain ⟨free, rfl⟩ := outcome; exact .advisory _ free
  | rollback => obtain rfl := outcome; exact .access (.commit _ _ _)
  | hosts query => exact .access (HostQuery.Outcome.access outcome)
  | keys query => exact .access (KeyQuery.Outcome.access outcome)
  | templates query => exact .access (TemplateQuery.Outcome.access outcome).1
  | outside call => obtain rfl := outcome; exact .access .read
  | vm call => exact VMCall.Outcome.change outcome

end Op.Outcome

namespace Access

variable {other : ι}

theorem now (access : Access task state after) : after.now = state.now := by
  cases access <;> rfl

theorem issued (access : Access task state after) : after.issued = state.issued := by
  cases access <;> rfl

theorem vms (access : Access task state after) : after.vms = state.vms := by
  cases access <;> rfl

theorem creating (access : Access task state after) : after.creating = state.creating := by
  cases access <;> rfl

theorem lockOf (access : Access task state after) (different : other ≠ task) (id : HostId) :
    after.hostLock id = some other ↔ state.hostLock id = some other := by
  cases access with
  | hostLock locked free =>
      simp only [Function.update_apply]
      split
      · next same =>
          subst same
          rcases free with free | free <;> simp [free, Ne.symm different]
      · rfl
  | commit => simp [State.drop_eq_some, different]
  | read | write | templateLock => rfl

theorem advisoryOf (access : Access task state after) (different : other ≠ task) (key : ℤ) :
    after.advisory key = some other ↔ state.advisory key = some other := by
  cases access with
  | commit => simp [State.drop_eq_some, different]
  | read | write | hostLock | templateLock => rfl

end Access

namespace Change

variable {other : ι}

theorem now (change : Change task state after) : after.now = state.now := by
  cases change with
  | access access => exact access.now
  | issue | advisory | provider => rfl

theorem issued (change : Change task state after) : state.issued ⊆ after.issued := by
  cases change with
  | access access => rw [access.issued]
  | issue id fresh => exact Finset.subset_insert id state.issued
  | advisory | provider => exact Finset.Subset.refl _

theorem lockOf (change : Change task state after) (different : other ≠ task) (id : HostId) :
    after.hostLock id = some other ↔ state.hostLock id = some other := by
  cases change with
  | access access => exact access.lockOf different id
  | issue | advisory | provider => rfl

theorem advisoryOf (change : Change task state after) (different : other ≠ task) (key : ℤ) :
    after.advisory key = some other ↔ state.advisory key = some other := by
  cases change with
  | access access => exact access.advisoryOf different key
  | advisory lock free =>
      simp only [Function.update_apply]
      split
      · next same =>
          subst same
          rcases free with free | free <;> simp [free, Ne.symm different]
      · rfl
  | issue | provider => rfl

end Change

end Drukbox
