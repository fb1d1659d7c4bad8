import Drukbox.Hosts.Ownership
import Drukbox.Templates.Service

/-!
# What one step does to template rows

For each operation, what its answer makes of one template row, and what becomes of the row locks of
other sessions.
-/

namespace Drukbox

open Await

variable {ι : Type} [DecidableEq ι] {deployment : Deployment} {task other : ι} {op : Op}
  {answer : op.Answer} {state later : State ι} {before after : Deployment.World ι}
  {id : TemplateId} {row : Template}

@[simp] theorem Template.set_toTemplateKey (columns : TemplateColumns) :
    (row.set columns).toTemplateKey = row.toTemplateKey := rfl

@[simp] theorem Template.set_id (columns : TemplateColumns) : (row.set columns).id = row.id := rfl

@[simp] theorem Template.set_status (columns : TemplateColumns) :
    (row.set columns).status = columns.status.getD row.status := rfl

@[simp] theorem Template.set_image (columns : TemplateColumns) :
    (row.set columns).image = columns.image.getD row.image := rfl

@[simp] theorem Template.set_lastError (columns : TemplateColumns) :
    (row.set columns).lastError = columns.lastError.getD row.lastError := rfl

theorem Template.set_of_isEmpty {columns : TemplateColumns} (empty : columns.isEmpty) :
    row.set columns = row := by
  obtain ⟨image, status, lastError, updatedAt⟩ := columns
  simp only [TemplateColumns.isEmpty, Bool.and_eq_true, Option.isNone_iff_eq_none] at empty
  obtain ⟨⟨⟨rfl, rfl⟩, rfl⟩, rfl⟩ := empty
  rfl

namespace TemplateQuery

/-- The columns of the janitor's `UPDATE` of abandoned builds. -/
def abandonColumns (lastError : String) (updatedAt : ℤ) : TemplateColumns where
  status := some .failed
  lastError := some lastError
  updatedAt := some updatedAt

/-- The columns of a restart. -/
def restartColumns (updatedAt : ℤ) : TemplateColumns where
  status := some .building
  updatedAt := some updatedAt

/-- What an answered statement makes of one row. -/
def effect : (query : TemplateQuery) → query.Answer → TemplateId → Option Template → Option Template
  | insert template, true, id, row => if id = template.id then some template else row
  | restart target updatedAt, (), id, row =>
      if id = target then row.map (·.set (restartColumns updatedAt)) else row
  | finish target columns, true, id, row =>
      if id = target then row.map (·.set columns) else row
  | abandon before lastError updatedAt, (), _, row =>
      row.map fun row =>
        if abandonable before row then row.set (abandonColumns lastError updatedAt) else row
  | delete target, (), id, row => if id = target then none else row
  | get _, _, _, row | lock _, _, _, row | lockKey _, _, _, row | reapable _, _, _, row
  | isReapable _ _, _, _, row | touch _, _, _, row | insert _, false, _, row
  | finish _ _, false, _, row => row

omit [DecidableEq ι] in
theorem Locked.templates {answer : Option Template}
    (locked : Locked task state id answer later) : later.templates = state.templates := by
  cases answer with
  | none => rw [locked.2]
  | some row => rw [locked.2.2]

theorem Outcome.get {settings : Settings} {query : TemplateQuery} {answer : query.Answer}
    (outcome : query.Outcome settings task state answer later) (id : TemplateId) :
    later.templates.get id = query.effect answer id (state.templates.get id) := by
  cases query with
  | get target => rw [outcome.2]; rfl
  | lock target => rw [Locked.templates outcome]; rfl
  | lockKey key =>
      cases answer with
      | none => rw [show later = state from outcome]; rfl
      | some row =>
          obtain ⟨-, target, locked⟩ := outcome
          rw [locked.templates]
          rfl
  | reapable now => rw [outcome.2]; rfl
  | isReapable target now => rw [outcome.2]; rfl
  | touch lease => obtain ⟨locks, rfl⟩ := outcome.touch_frame; rfl
  | insert template =>
      cases answer with
      | false => rw [show later = state from outcome]; rfl
      | true =>
          obtain ⟨-, -, rfl⟩ := outcome
          simp [effect, Table.get_insert]
  | restart target updatedAt =>
      obtain ⟨-, rfl⟩ := outcome
      simp only [State.release_templates, Table.get_modify, effect, restartColumns]
      split
      · next same => rw [same]
      · rfl
  | finish target columns =>
      cases answer with
      | false => rw [show later = state from outcome]; rfl
      | true =>
          rcases outcome with ⟨empty, rfl⟩ | ⟨-, template, present, rfl⟩
          · cases row : state.templates.get id <;>
              simp [effect, row, Template.set_of_isEmpty empty]
          · simp only [State.release_templates, Table.get_insert, effect]
            split
            · next same => simp [same, present]
            · rfl
  | abandon limit lastError updatedAt => obtain ⟨-, rfl⟩ := outcome; rfl
  | delete target =>
      obtain ⟨-, rfl⟩ := outcome
      simp [effect, Table.get_erase]

end TemplateQuery

/-- What the `UPDATE` of a lease makes of one row. -/
def TemplateLease.effect (lease : TemplateLease) (id : TemplateId) (row : Option Template) :
    Option Template :=
  if lease.changed ∧ id = lease.template then
    row.map fun row => { row with lastUsedAt := some lease.usedAt }
  else
    row

/-- What an answered operation makes of one template row. -/
def Op.templateEffect : (op : Op) → op.Answer → TemplateId → Option Template → Option Template
  | .templates query, answer, id, row => query.effect answer id row
  | .hosts (.insert _ (some lease)), .ok (), id, row => lease.effect id row
  | .hosts _, _, _, row | .clock, _, _, row | .uuid7, _, _, row | .advisoryLock _, _, _, row
  | .rollback, _, _, row | .keys _, _, _, row | .outside _, _, _, row | .vm _, _, _, row => row

/-- Only an accepted insert of a host with a lease writes a template. -/
theorem HostQuery.Outcome.templates {query : HostQuery} {answer : query.Answer}
    (outcome : query.Outcome task state answer later)
    (unleased : ∀ host lease, query ≠ .insert host (some lease)) :
    later.templates = state.templates := by
  cases query with
  | get target => rw [outcome.2]
  | lock target =>
      cases answer with
      | none => rw [outcome.2]
      | some host => rw [outcome.2.2]
  | expired now => rw [outcome.2]
  | warm now => rw [outcome.2]
  | excess provider now limit => rw [outcome.2]
  | count scope now => rw [outcome.2]
  | candidate provider now createdFrom =>
      cases answer with
      | none => rw [show later = state from outcome]
      | some host => rw [outcome.2.2]
  | claim target serviceAccount now expiresAt =>
      cases answer with
      | none => rw [outcome.2]; rfl
      | some claimed => obtain ⟨-, host, -, -, -, rfl⟩ := outcome; rfl
  | insert host lease =>
      cases answer with
      | error failure => rw [show later = state from outcome]
      | ok =>
          cases lease with
          | none => obtain ⟨-, -, -, -, rfl⟩ := outcome; rfl
          | some lease => exact absurd rfl (unleased host lease)
  | update place target columns =>
      cases answer with
      | false => rw [outcome.2]
      | true => obtain ⟨-, host, -, rfl⟩ := outcome; rfl
  | stamp target initial expiresAt updatedAt =>
      rcases outcome with ⟨-, host, -, -, rfl⟩ | ⟨-, rfl⟩ <;> rfl
  | delete target => obtain ⟨-, rfl⟩ := outcome; rfl

theorem Op.Outcome.templates_get (outcome : op.Outcome deployment task state answer later)
    (id : TemplateId) :
    later.templates.get id = op.templateEffect answer id (state.templates.get id) := by
  cases op with
  | clock => rw [outcome.2]; rfl
  | uuid7 => rw [outcome.2]; rfl
  | advisoryLock key => rw [outcome.2]; rfl
  | rollback => rw [show later = state.release task from outcome]; rfl
  | hosts query =>
      have outcome : query.Outcome task state answer later := outcome
      cases query with
      | insert host lease =>
          cases lease with
          | none =>
              rw [outcome.templates (by simp)]
              rfl
          | some lease =>
              cases answer with
              | error failure => rw [show later = state from outcome]; rfl
              | ok =>
                  obtain ⟨-, -, -, -, rfl⟩ := outcome
                  simp only [State.release_templates, HostQuery.leased, templateEffect,
                    TemplateLease.effect]
                  by_cases changed : lease.changed
                  · simp only [changed, if_true, Table.get_modify, true_and]
                    split
                    · next same => rw [same]
                    · rfl
                  · simp [changed]
      | get | lock | expired | warm | excess | count | candidate | claim | update | stamp
      | delete =>
          rw [outcome.templates (by simp)]
          rfl
  | keys query =>
      obtain ⟨keys, rfl⟩ := KeyQuery.Outcome.frame outcome
      rfl
  | templates query => exact TemplateQuery.Outcome.get outcome id
  | outside call => rw [show later = state from outcome]; rfl
  | vm call =>
      cases call with
      | start host environment setupScript => rw [show later = _ from outcome]; rfl
      | finish => rw [show later = _ from outcome]; rfl
      | delete host =>
          cases answer with
          | ok => rw [show later = _ from outcome]; rfl
          | error failure => rw [outcome.2]; rfl

theorem Access.templateLockOf (access : Access task state later) (different : other ≠ task)
    (id : TemplateId) :
    later.templateLock id = some other ↔ state.templateLock id = some other := by
  cases access with
  | templateLock locked free =>
      simp only [Function.update_apply]
      split
      · next same =>
          subst same
          rcases free with free | free <;> simp [free, Ne.symm different]
      · rfl
  | commit => simp [State.drop_eq_some, different]
  | read | write | hostLock => rfl

theorem Change.templateLockOf (change : Change task state later) (different : other ≠ task)
    (id : TemplateId) :
    later.templateLock id = some other ↔ state.templateLock id = some other := by
  cases change with
  | access access => exact access.templateLockOf different id
  | issue | advisory | provider => rfl

omit [DecidableEq ι] in
theorem State.not_free {lock : Option ι} (held : lock = some other) (different : other ≠ task) :
    ¬ State.Free task lock := by
  rintro (free | free) <;> simp_all

namespace Deployment.Answered

variable (answered : deployment.Answered task op answer before after)
include answered

theorem templates_get (id : TemplateId) :
    after.state.templates.get id =
      op.templateEffect answer id (before.state.templates.get id) :=
  answered.outcome.templates_get id

theorem locked_template (different : other ≠ task)
    (lock : before.state.templateLock id = some other)
    (present : before.state.templates.get id = some row) :
    after.state.templates.get id = some row := by
  have held : ¬ State.Free task (before.state.templateLock id) := State.not_free lock different
  rw [answered.templates_get, present]
  cases op with
  | clock | uuid7 | advisoryLock | rollback | keys | outside | vm => rfl
  | hosts query =>
      cases query with
      | insert host lease =>
          cases lease with
          | none => rfl
          | some lease =>
              cases answer with
              | error failure => rfl
              | ok =>
                  simp only [Op.templateEffect, TemplateLease.effect]
                  split
                  · next same =>
                      obtain ⟨changed, rfl⟩ := same
                      obtain ⟨waits, -⟩ := answered.outcome
                      simp [HostQuery.leaseWaits, changed] at waits
                      exact absurd waits held
                  · rfl
      | get | lock | expired | warm | excess | count | candidate | claim | update | stamp
      | delete => rfl
  | templates query =>
      cases query with
      | get | lock | lockKey | reapable | isReapable | touch => rfl
      | insert template =>
          cases answer with
          | false => rfl
          | true =>
              obtain ⟨absent, -⟩ := answered.outcome
              simp only [Op.templateEffect, TemplateQuery.effect]
              split
              · next same =>
                  subst same
                  rw [absent] at present
                  contradiction
              · rfl
      | restart target updatedAt =>
          simp only [Op.templateEffect, TemplateQuery.effect]
          split
          · next same => exact absurd (same ▸ answered.outcome.1) held
          · rfl
      | finish target columns =>
          cases answer with
          | false => rfl
          | true =>
              simp only [Op.templateEffect, TemplateQuery.effect]
              split
              · next same =>
                  rcases answered.outcome with ⟨empty, -⟩ | ⟨free, -⟩
                  · simp [Template.set_of_isEmpty empty]
                  · exact absurd (same ▸ free) held
              · rfl
      | abandon limit lastError updatedAt =>
          simp only [Op.templateEffect, TemplateQuery.effect, Option.map_some]
          split
          · next overdue => exact absurd (answered.outcome.1 id row present overdue) held
          · rfl
      | delete target =>
          simp only [Op.templateEffect, TemplateQuery.effect]
          split
          · next same => exact absurd (same ▸ answered.outcome.1) held
          · rfl

end Deployment.Answered

end Drukbox
