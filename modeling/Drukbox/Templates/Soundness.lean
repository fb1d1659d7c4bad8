import Drukbox.Await.History
import Drukbox.Templates.Registry

/-!
# Errors and images of template rows

An available template has an image and no error, a failed one has an error.  The janitor writes both
columns at once; a build writes only those that differ from the row that it loaded, so it keeps the
law where the others still have in the row what the build loaded.
-/

namespace Drukbox

open Await

/-- The law of a committed template. -/
structure Template.Sound (row : Template) : Prop where
  available : row.status = .available → row.image ≠ "" ∧ row.lastError = ""
  failed : row.status = .failed → row.lastError ≠ ""

theorem Template.sound_of_building {row : Template} (building : row.status = .building) :
    row.Sound :=
  ⟨by simp [building], by simp [building]⟩

section Changes

variable {row loaded assigned : Template}

/-- A column that the ORM leaves out still has the assigned value, if it has the loaded one. -/
theorem Template.set_changes_status
    (current : (Template.changes loaded assigned).status = none → row.status = loaded.status) :
    (row.set (Template.changes loaded assigned)).status = assigned.status := by
  by_cases same : loaded.status = assigned.status
  · have unwritten : (Template.changes loaded assigned).status = none := by
      simp [Template.changes, same]
    simp [unwritten, current unwritten, same]
  · simp [Template.changes, same]

theorem Template.set_changes_lastError
    (current : (Template.changes loaded assigned).lastError = none →
      row.lastError = loaded.lastError) :
    (row.set (Template.changes loaded assigned)).lastError = assigned.lastError := by
  by_cases same : loaded.lastError = assigned.lastError
  · have unwritten : (Template.changes loaded assigned).lastError = none := by
      simp [Template.changes, same]
    simp [unwritten, current unwritten, same]
  · simp [Template.changes, same]

/-- A build that succeeds leaves an image. -/
theorem Template.set_changes_image (assigned : Template) (later : loaded.Continues row)
    (built : assigned.image ≠ "") :
    (row.set (Template.changes loaded assigned)).image ≠ "" := by
  by_cases same : loaded.image = assigned.image
  · have kept := later.image (same ▸ built)
    simpa [Template.changes, same] using kept
  · simpa [Template.changes, same] using built

end Changes

variable {ι : Type} [DecidableEq ι]

namespace Builder

/-- What the answers in a log told a task. -/
def ofLog (task : ι) (log : List (Entry ι Op.Answer)) : Builder :=
  (contract False True).replay task {} log

/-- The row still has what a build loaded in the columns that its `UPDATE` leaves out. -/
def Current (loaded row : Template) (columns : TemplateColumns) : Prop :=
  (columns.status = none → row.status = loaded.status) ∧
    (columns.lastError = none → row.lastError = loaded.lastError)

/-- No `UPDATE` of a build leaves out a status or an error that has changed since it loaded them. -/
def finishesCurrent : Condition ι Op.Answer (State ι) (Nature ι) where
  perform task op world := ∀ id columns loaded row, op = .templates (.finish id columns) →
    (ofLog task world.log).seen = some loaded → world.state.templates.get id = some row →
      Current loaded row columns

variable {kept posted : Prop} {deployment : Deployment} {task : ι} {op : Op} {answer : op.Answer}
  {before after : Deployment.World ι} {phase : Builder}

/-- A step of a task that follows its contract keeps the law. -/
theorem sound_step (answered : deployment.Answered task op answer before after)
    (known : phase.Standing kept task before)
    (allowed : (contract kept posted).allows phase op)
    (current : ∀ id columns loaded row, op = .templates (.finish id columns) →
      phase.seen = some loaded → before.state.templates.get id = some row →
        Current loaded row columns)
    (sound : ∀ id row, before.state.templates.get id = some row → row.Sound)
    (id : TemplateId) (row : Template) (present : after.state.templates.get id = some row) :
    row.Sound := by
  rw [answered.templates_get] at present
  cases op with
  | clock | uuid7 | rollback | outside => exact sound id row present
  | advisoryLock | hosts | keys | vm => cases allowed
  | templates query =>
  cases query with
  | get | lock | lockKey | reapable | isReapable => exact sound id row present
  | touch => cases allowed
  | insert template =>
      cases answer with
      | false => exact sound id row present
      | true =>
          simp only [Op.templateEffect, TemplateQuery.effect] at present
          split at present
          · obtain rfl : template = row := by simpa using present
            exact Template.sound_of_building allowed.2.2.1
          · exact sound id row present
  | restart target updatedAt =>
      simp only [Op.templateEffect, TemplateQuery.effect] at present
      split at present
      · obtain ⟨old, -, rfl⟩ := Option.map_eq_some_iff.mp present
        exact Template.sound_of_building rfl
      · exact sound id row present
  | finish target columns =>
      cases answer with
      | false => exact sound id row present
      | true =>
          simp only [Op.templateEffect, TemplateQuery.effect] at present
          split at present
          · next same =>
              subst same
              obtain ⟨old, was, rfl⟩ := Option.map_eq_some_iff.mp present
              obtain ⟨loaded, updatedAt, outcome, seen, row_id, -, named, rfl⟩ := allowed
              obtain ⟨status, error⟩ := current id _ loaded old rfl seen was
              have later : loaded.Continues old :=
                (known.seen loaded seen).continues old (row_id.symm ▸ was)
              have status := Template.set_changes_status status
              have error := Template.set_changes_lastError error
              cases outcome with
              | ok name =>
                  have image := Template.set_changes_image
                    (TemplateService.built loaded updatedAt (.ok name)) later (named name rfl)
                  exact ⟨fun _ => ⟨image, error⟩, fun failed => by
                    rw [status] at failed
                    contradiction⟩
              | error failure =>
                  refine ⟨fun available => ?_, fun _ => ?_⟩
                  · rw [status] at available
                    contradiction
                  · rw [error]
                    exact failure.describe_ne_empty
          · exact sound id row present
  | abandon limit lastError updatedAt =>
      obtain ⟨old, was, same⟩ := Option.map_eq_some_iff.mp present
      split at same
      · subst same
        refine ⟨?_, fun _ => allowed⟩
        rintro ⟨⟩
      · subst same
        exact sound id old was
  | delete target =>
      simp only [Op.templateEffect, TemplateQuery.effect] at present
      split at present
      · contradiction
      · exact sound id row present

end Builder

/-- Any number of tasks of the template service, over any committed rows. -/
def Deployment.startTemplates (deployment : Deployment) (state : State ι)
    (calls : ι → Option TemplateCall) : Config ι Op.Answer (State ι) Failure Reply where
  world := { state, log := [] }
  tasks task := (calls task).map (TemplateCall.program deployment)

open Builder in
/-- The law holds throughout every run in which each build finds the status and the error that it
leaves out as it loaded them. -/
theorem TemplateService.rows_sound (deployment : Deployment) (state : State ι) (filed : state.Filed)
    (sound : ∀ id row, state.templates.get id = some row → row.Sound)
    (calls : ι → Option TemplateCall) (config : Config ι _ _ _ _)
    (reach : deployment.system.Reaches finishesCurrent (deployment.startTemplates state calls)
      config)
    (id : TemplateId) (row : Template)
    (present : config.world.state.templates.get id = some row) : row.Sound := by
  have upheld := (Builder.upheld deployment False True (finishesCurrent : Condition ι _ _ _)
    fun _ _ _ _ keeps => keeps.elim).history fun _ => {}
  have kept := upheld.also
    (fun world => ∀ id row, world.state.templates.get id = some row → row.Sound)
    (fun {task phase op choice answer before after} allowed _ sound stands allows chosen => by
      rw [stands.2] at allowed
      exact sound_step (Deployment.answered chosen) (stands.2 ▸ stands.1) allowed allows sound)
    (fun _ sound => sound)
    (fun {move before state} _ sound moved => by
      obtain ⟨now, vms, -, rfl⟩ := Deployment.nature_frame moved
      exact sound)
  have upholds : Upholds (contract False True) _ _ (fun _ _ _ => True) config :=
    Upholds.reaches kept ⟨⟨⟨filed.registry, Contract.obeyed_nil⟩, sound⟩,
      fun {task program} started => by
      obtain ⟨call, called, rfl⟩ := Option.map_eq_some_iff.mp started
      exact ⟨{}, ⟨.initial False true task _, rfl⟩, call.builds deployment True⟩⟩ reach
  exact upholds.inv.2 id row present

/-- Whether `finishesCurrent` allows an event. -/
def Builder.isCurrent (config : Config Bool Op.Answer (State Bool) Failure Reply) :
    Event Bool Choice (Nature Bool) → Bool
  | .perform task _ =>
      match config.tasks task with
      | some (.call (.templates (.finish id columns)) _) =>
          (ofLog task config.world.log).seen.all fun loaded =>
            (config.world.state.templates.get id).all fun row =>
              (columns.status.isSome || row.status == loaded.status) &&
                (columns.lastError.isSome || row.lastError == loaded.lastError)
      | _ => true
  | _ => true

theorem Builder.isCurrent_sound (config : Config Bool Op.Answer (State Bool) Failure Reply)
    (event : Event Bool Choice (Nature Bool)) (passes : isCurrent config event) :
    finishesCurrent.Allows config event := by
  cases event with
  | abandon | world => trivial
  | perform task choice =>
      rintro op resume program id columns loaded row rfl seen present
      simp only [isCurrent, program, seen, present, Option.all_some, Bool.and_eq_true,
        Bool.or_eq_true, beq_iff_eq] at passes
      refine ⟨fun unwritten => ?_, fun unwritten => ?_⟩
      · simpa [unwritten] using passes.1
      · simpa [unwritten] using passes.2

/-- A `POST /templates` beside a run of the janitor. -/
def buildCalls : Bool → Option TemplateCall
  | true => some (.create { setupScript := "apt-get install -y git" })
  | false => some .reap

/-- The call inserts its row, and its build loads it. -/
def buildStarts : List (Event Bool Choice (Nature Bool)) :=
  [.perform true (.text "ubuntu@sha256:1"), .perform true .go, .perform true (.number 1)] ++
    .replicate 4 (.perform true .go)

/-- The build ends. -/
def buildEnds : List (Event Bool Choice (Nature Bool)) :=
  [.perform true (.text "drukbox-template:1"), .perform true .go, .perform true .go]

/-- The janitor marks builds failed that began more than half an hour ago. -/
def janitorAbandons : List (Event Bool Choice (Nature Bool)) :=
  .world (.tick 1800000001) :: .replicate 3 (.perform false .go)

/-- A build that ends before the janitor comes. -/
theorem TemplateService.rows_sound_build :
    ∃ config row, Deployment.sample.system.Reaches Builder.finishesCurrent
        (Deployment.sample.startTemplates emptyState buildCalls) config ∧
      config.world.state.templates.get 1 = some row ∧ row.status = .available ∧ row.Sound := by
  have executed : (Deployment.sample.system.runChecked Builder.isCurrent
      (Deployment.sample.startTemplates emptyState buildCalls)
      (buildStarts ++ buildEnds ++ janitorAbandons)).isSome := rfl
  have reach := System.reaches_runChecked Builder.isCurrent Builder.isCurrent_sound _ executed
  have sound : ∀ id row, emptyState.templates.get id = some row → row.Sound := by
    simp [emptyState, State.resting]
  exact ⟨_, _, reach, rfl, rfl, TemplateService.rows_sound Deployment.sample emptyState
    emptyState_filed sound buildCalls _ reach 1 _ rfl⟩

/-- A build that ends after the janitor marked it failed leaves the janitor's error. -/
theorem TemplateService.rows_keep_stale_error :
    ∃ config row, Deployment.sample.system.Reaches {}
        (Deployment.sample.startTemplates emptyState buildCalls) config ∧
      config.world.state.templates.get 1 = some row ∧ ¬ row.Sound :=
  ⟨_, _, System.reaches_run (buildStarts ++ janitorAbandons ++ buildEnds) rfl, rfl,
    fun sound => absurd (sound.available rfl).2 (by decide)⟩

end Drukbox
