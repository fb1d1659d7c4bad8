import Drukbox.Templates.Builder

/-!
# Who writes a template row

Every row has a UUID that was drawn once, and keeps its key.  So what a task read of a row stays
true of the committed row, whatever the other tasks do, and a row that it locked stays as it is.
-/

namespace Drukbox

open Await Registry

/-- A later version of a row. -/
structure Template.Continues (row now : Template) : Prop where
  id : now.id = row.id
  key : now.toTemplateKey = row.toTemplateKey
  /-- An image that was once built is not forgotten. -/
  image : row.image ≠ "" → now.image ≠ ""

theorem Template.Continues.refl (row : Template) : row.Continues row :=
  ⟨rfl, rfl, fun built => built⟩

theorem Template.Continues.trans {row now later : Template} (first : row.Continues now)
    (rest : now.Continues later) : row.Continues later :=
  ⟨rest.id.trans first.id, rest.key.trans first.key, fun built => rest.image (first.image built)⟩

theorem Template.Continues.set {columns : TemplateColumns} (row : Template)
    (named : ∀ image, columns.image = some image → image ≠ "") :
    row.Continues (row.set columns) := by
  refine ⟨rfl, rfl, fun built => ?_⟩
  cases image : columns.image with
  | none => simpa [image] using built
  | some name => simpa [image] using named name image

/-- A build writes the image that its provider named. -/
theorem Template.changes_image {row : Template} {updatedAt : ℤ} {outcome : Except Failure String}
    {image : String}
    (written :
      (Template.changes row (TemplateService.built row updatedAt outcome)).image = some image) :
    outcome = .ok image := by
  cases outcome with
  | error failure => simp [Template.changes, TemplateService.built] at written
  | ok name =>
      by_cases same : row.image = name
      · simp [Template.changes, TemplateService.built, same] at written
      · obtain rfl : name = image := by
          simpa [Template.changes, TemplateService.built, same] using written
        rfl

variable {ι : Type} [DecidableEq ι]

namespace TemplateRegistry

/-- A template with the id was inserted. -/
def Filed (id : TemplateId) (world : Deployment.World ι) : Prop :=
  ∃ task template, template.id = id ∧
    Entry.answered task (.templates (.insert template)) true ∈ world.log

/-- The id was used before the run, or a template was inserted with it. -/
def Taken (id : TemplateId) (world : Deployment.World ι) : Prop :=
  id ∈ world.state.issued ∧ ∀ task, Drew task id world → Filed id world

/-- The committed row, if it is still there, is a later version of this one; where rows are kept it
is there. -/
structure Known (kept : Prop) (row : Template) (world : Deployment.World ι) : Prop where
  taken : Taken row.id world
  continues : ∀ now, world.state.templates.get row.id = some now → row.Continues now
  stays : kept → (world.state.templates.get row.id).isSome

end TemplateRegistry

open TemplateRegistry

/-- What holds of the templates between any two steps. -/
structure TemplateRegistry (world : Deployment.World ι) : Prop where
  template_id : ∀ {id row}, world.state.templates.get id = some row → row.id = id
  unique : ∀ {id other row rival}, world.state.templates.get id = some row →
    world.state.templates.get other = some rival →
      row.toTemplateKey = rival.toTemplateKey → id = other
  taken : ∀ {id row}, world.state.templates.get id = some row → Taken id world
  drew_issued : ∀ {task id}, Drew task id world → id ∈ world.state.issued
  filed_issued : ∀ {id}, Filed id world → id ∈ world.state.issued
  drew_unique : ∀ {task other id}, Drew task id world → Drew other id world → task = other

structure Builder.Standing (kept : Prop) (task : ι) (phase : Builder)
    (world : Deployment.World ι) : Prop where
  drawn : ∀ id, phase.drawn = some id → Drew task id world ∧ ¬ Filed id world
  resolved : ∀ reference, phase.reference = some reference → ∃ image,
    Entry.answered task (.outside (.refreshBaseImage image)) (.ok reference) ∈ world.log
  seen : ∀ row, phase.seen = some row → Known kept row world
  held : phase.held → ∀ row, phase.seen = some row →
    world.state.templateLock row.id = some task ∧ world.state.templates.get row.id = some row
  made : ∀ row, phase.made = some row → Known kept row world

variable {kept posted : Prop} {deployment : Deployment} {task other : ι} {op : Op}
  {answer : op.Answer} {choice : Choice} {before after : Deployment.World ι}
  {phase standing : Builder} {id : TemplateId} {row : Template}

namespace Deployment.Answered

variable (answered : deployment.Answered task op answer before after)
include answered

theorem filed (filed : Filed id before) : Filed id after := by
  obtain ⟨owner, template, same, logged⟩ := filed
  exact ⟨owner, template, same, answered.mem_log.mpr (.inl logged)⟩

/-- Only its own insert files a template. -/
theorem filed_cases (filed : Filed id after) :
    Filed id before ∨ ∃ template, template.id = id ∧ op = .templates (.insert template) ∧
      HEq answer true := by
  obtain ⟨owner, template, same, logged⟩ := filed
  rcases answered.mem_log.mp logged with old | new
  · exact .inl ⟨owner, template, same, old⟩
  · obtain ⟨-, rfl, accepted⟩ := Entry.answered.inj new
    exact .inr ⟨template, same, rfl, accepted.symm⟩

theorem taken (taken : Taken id before) : Taken id after := by
  refine ⟨answered.outcome.change.issued taken.1, fun owner drew => ?_⟩
  rcases answered.drew_cases drew with old | ⟨-, fresh, -⟩
  · exact answered.filed (taken.2 owner old)
  · exact absurd taken.1 fresh

theorem template_cases (allowed : (Builder.contract kept posted).allows phase op)
    (present : after.state.templates.get id = some row) :
    (∃ old, before.state.templates.get id = some old ∧ old.Continues row) ∨
      (row.id = id ∧ op = .templates (.insert row) ∧ HEq answer true) := by
  rw [answered.templates_get] at present
  cases op with
  | clock | uuid7 | rollback | outside => exact .inl ⟨row, present, .refl row⟩
  | advisoryLock | hosts | keys | vm => cases allowed
  | templates query =>
  cases query with
  | get | lock | lockKey | reapable | isReapable => exact .inl ⟨row, present, .refl row⟩
  | touch => cases allowed
  | insert template =>
      cases answer with
      | false => exact .inl ⟨row, present, .refl row⟩
      | true =>
          simp only [Op.templateEffect, TemplateQuery.effect] at present
          split at present
          · next same =>
              obtain rfl : template = row := by simpa using present
              exact .inr ⟨same.symm, rfl, .rfl⟩
          · exact .inl ⟨row, present, .refl row⟩
  | restart target updatedAt =>
      simp only [Op.templateEffect, TemplateQuery.effect] at present
      split at present
      · obtain ⟨old, was, rfl⟩ := Option.map_eq_some_iff.mp present
        exact .inl ⟨old, was, .set old (by simp [TemplateQuery.restartColumns])⟩
      · exact .inl ⟨row, present, .refl row⟩
  | finish target columns =>
      cases answer with
      | false => exact .inl ⟨row, present, .refl row⟩
      | true =>
          simp only [Op.templateEffect, TemplateQuery.effect] at present
          split at present
          · obtain ⟨old, was, rfl⟩ := Option.map_eq_some_iff.mp present
            obtain ⟨loaded, updatedAt, outcome, -, -, -, named, rfl⟩ := allowed
            exact .inl ⟨old, was, .set old fun image written =>
              named image (Template.changes_image written)⟩
          · exact .inl ⟨row, present, .refl row⟩
  | abandon limit lastError updatedAt =>
      obtain ⟨old, was, same⟩ := Option.map_eq_some_iff.mp present
      refine .inl ⟨old, was, ?_⟩
      split at same
      · subst same
        exact .set old (by simp [TemplateQuery.abandonColumns])
      · subst same
        exact .refl old
  | delete target =>
      simp only [Op.templateEffect, TemplateQuery.effect] at present
      split at present
      · contradiction
      · exact .inl ⟨row, present, .refl row⟩

/-- A template stays until its delete. -/
theorem template_stays (allowed : (Builder.contract kept posted).allows phase op)
    (undeleted : op ≠ .templates (.delete id))
    (present : (before.state.templates.get id).isSome) :
    (after.state.templates.get id).isSome := by
  rw [answered.templates_get]
  cases op with
  | clock | uuid7 | rollback | outside => exact present
  | advisoryLock | hosts | keys | vm => cases allowed
  | templates query =>
  cases query with
  | get | lock | lockKey | reapable | isReapable => exact present
  | touch => cases allowed
  | insert template =>
      cases answer with
      | false => exact present
      | true =>
          simp only [Op.templateEffect, TemplateQuery.effect]
          split
          · rfl
          · exact present
  | restart target updatedAt =>
      simp only [Op.templateEffect, TemplateQuery.effect]
      split <;> simpa using present
  | finish target columns =>
      cases answer with
      | false => exact present
      | true =>
          simp only [Op.templateEffect, TemplateQuery.effect]
          split <;> simpa using present
  | abandon limit lastError updatedAt =>
      simpa [Op.templateEffect, TemplateQuery.effect] using present
  | delete target =>
      simp only [Op.templateEffect, TemplateQuery.effect]
      split
      · next same => exact absurd (same ▸ rfl) undeleted
      · exact present

variable (known : phase.Standing kept task before)
  (allowed : (Builder.contract kept posted).allows phase op)
  (undeleted : kept → ∀ id, op ≠ .templates (.delete id))
include known allowed undeleted

/-- What is known of a row survives every step. -/
theorem row_known (held : Known kept row before) : Known kept row after where
  taken := answered.taken held.taken
  continues now present := by
    rcases answered.template_cases allowed present with ⟨old, was, later⟩ | ⟨same, rfl, -⟩
    · exact (held.continues old was).trans later
    · obtain ⟨drew, unfiled⟩ := known.drawn now.id allowed.2.1
      exact absurd (same ▸ held.taken.2 task (same ▸ drew)) unfiled
  stays keeps :=
    answered.template_stays allowed (undeleted keeps _) (held.stays keeps)

omit undeleted in
theorem template_registry (registry : TemplateRegistry before) : TemplateRegistry after where
  template_id present := by
    rcases answered.template_cases allowed present with ⟨old, was, later⟩ | ⟨same, -⟩
    · exact later.id.trans (registry.template_id was)
    · exact same
  unique {first second row rival} present present_too keyed := by
    have fresh {row : Template} (inserts : op = .templates (.insert row))
      (accepted : HEq answer true)
        {id : TemplateId} {old : Template} (was : before.state.templates.get id = some old) :
        old.toTemplateKey ≠ row.toTemplateKey := by
      subst inserts
      obtain rfl := eq_of_heq accepted
      exact answered.outcome.2.1 id old was
    rcases answered.template_cases allowed present with
      ⟨old, was, later⟩ | ⟨same, inserts, accepted⟩
    · rcases answered.template_cases allowed present_too with
        ⟨old', was', later'⟩ | ⟨same', inserts', accepted'⟩
      · exact registry.unique was was' (later.key.symm.trans (keyed.trans later'.key))
      · exact absurd (later.key.symm.trans keyed) (fresh inserts' accepted' was)
    · rcases answered.template_cases allowed present_too with
        ⟨old', was', later'⟩ | ⟨same', inserts', accepted'⟩
      · exact absurd (later'.key.symm.trans keyed.symm) (fresh inserts accepted was')
      · rw [inserts] at inserts'
        obtain rfl : row = rival := by simpa using inserts'
        exact same.symm.trans same'
  taken {id row} present := by
    rcases answered.template_cases allowed present with ⟨old, was, -⟩ | ⟨same, rfl, accepted⟩
    · exact answered.taken (registry.taken was)
    · obtain rfl := eq_of_heq accepted
      obtain ⟨drew, -⟩ := known.drawn row.id allowed.2.1
      exact ⟨answered.outcome.change.issued (same ▸ registry.drew_issued drew),
        fun _ _ => ⟨task, row, same, answered.mem_log.mpr (.inr rfl)⟩⟩
  drew_issued drew := by
    rcases answered.drew_cases drew with old | ⟨-, -, issued⟩
    · exact answered.outcome.change.issued (registry.drew_issued old)
    · exact issued
  filed_issued filed := by
    refine answered.outcome.change.issued ?_
    rcases answered.filed_cases filed with old | ⟨template, same, rfl, -⟩
    · exact registry.filed_issued old
    · exact registry.drew_issued (same ▸ (known.drawn _ allowed.2.1).1)
  drew_unique drew drew_too := by
    rcases answered.drew_cases drew with old | ⟨rfl, unissued, -⟩ <;>
    rcases answered.drew_cases drew_too with old_too | ⟨rfl, unissued_too, -⟩
    · exact registry.drew_unique old old_too
    · exact absurd (registry.drew_issued old) unissued_too
    · exact absurd (registry.drew_issued old_too) unissued
    · rfl

theorem builder_other (registry : TemplateRegistry before) (different : other ≠ task)
    (stands : standing.Standing kept other before) : standing.Standing kept other after where
  drawn id drawn := by
    obtain ⟨drew, unfiled⟩ := stands.drawn id drawn
    refine ⟨answered.drew drew, fun filed => ?_⟩
    rcases answered.filed_cases filed with old | ⟨template, same, rfl, -⟩
    · exact unfiled old
    · exact different (registry.drew_unique drew (same ▸ (known.drawn _ allowed.2.1).1))
  resolved reference resolved := by
    obtain ⟨image, logged⟩ := stands.resolved reference resolved
    exact ⟨image, answered.mem_log.mpr (.inl logged)⟩
  seen row seen := answered.row_known known allowed undeleted (stands.seen row seen)
  held holds row seen := by
    obtain ⟨lock, present⟩ := stands.held holds row seen
    exact ⟨(answered.outcome.change.templateLockOf different row.id).mpr lock,
      answered.locked_template different lock present⟩
  made row made := answered.row_known known allowed undeleted (stands.made row made)

omit allowed undeleted in
theorem builder_expected (registry : TemplateRegistry before)
    (chosen : (Deployment.system deployment).answer task op choice before = some (answer, after)) :
    (Builder.contract kept posted).expects phase op answer := by
  cases op with
  | clock | uuid7 | rollback | advisoryLock | hosts | keys | vm => trivial
  | outside call =>
      cases call with
      | buildTemplateImage base script label =>
          rintro image rfl
          obtain ⟨performed, -⟩ := System.answer_eq_some.mp chosen
          simp only [Deployment.system, Deployment.perform, OutsideCall.answer] at performed
          split at performed
          · split at performed
            · contradiction
            · simp_all
          · simp at performed
          · contradiction
      | issueJoinCredentials | mintSecret | shuffle | fetchSecret | putSecret | waitForDevice
      | scanKnownHosts | releaseDevice | deleteSecrets | refreshBaseImage | deleteTemplateImage =>
          trivial
  | templates query =>
  cases query with
  | get id =>
      obtain ⟨rfl, -⟩ := answered.outcome
      refine ⟨fun template present => ⟨registry.template_id present, fun mine made same => ?_⟩,
        fun keeps mine made same => same ▸ (known.made mine made).stays keeps⟩
      exact ((known.made mine made).continues template (same ▸ present)).key
  | lock id =>
      rintro template rfl
      exact registry.template_id answered.outcome.2.1
  | lockKey key =>
      rintro template rfl
      exact answered.outcome.1
  | reapable | isReapable | touch | insert | restart | finish | abandon | delete => trivial

theorem builder_self (registry : TemplateRegistry before) :
    ((Builder.contract kept posted).next phase op answer).Standing kept task after := by
  have unheld {claim : Prop} (held : (false : Bool) = true) : claim :=
    absurd held Bool.false_ne_true
  have drawn (other : ∀ template, op ≠ .templates (.insert template)) (id : TemplateId)
      (drawn : phase.drawn = some id) : Drew task id after ∧ ¬ Filed id after := by
    obtain ⟨drew, unfiled⟩ := known.drawn id drawn
    refine ⟨answered.drew drew, fun filed => ?_⟩
    rcases answered.filed_cases filed with old | ⟨template, -, same, -⟩
    · exact unfiled old
    · exact other template same
  have resolved (reference : String) (resolved : phase.reference = some reference) :
      ∃ image, Entry.answered task (.outside (.refreshBaseImage image)) (.ok reference) ∈
        after.log := by
    obtain ⟨image, logged⟩ := known.resolved reference resolved
    exact ⟨image, answered.mem_log.mpr (.inl logged)⟩
  have seen (row : Template) (seen : phase.seen = some row) :=
    answered.row_known known allowed undeleted (known.seen row seen)
  have made (row : Template) (made : phase.made = some row) :=
    answered.row_known known allowed undeleted (known.made row made)
  have quiet (same : after.state = before.state)
      (other : ∀ template, op ≠ .templates (.insert template)) :
      phase.Standing kept task after := by
    refine ⟨drawn other, resolved, seen, fun holds row seen => ?_, made⟩
    rw [same]
    exact known.held holds row seen
  -- A row that a statement returned.
  have found {id : TemplateId} {row : Template}
      (present : before.state.templates.get id = some row)
      (other : ∀ template, op ≠ .templates (.insert template))
      (same : after.state.templates = before.state.templates) : Known kept row after := by
    have row_id : row.id = id := registry.template_id present
    subst row_id
    refine ⟨answered.taken (registry.taken present), fun now after_present => ?_, fun _ => ?_⟩
    · rw [same, present] at after_present
      obtain rfl := Option.some.inj after_present
      exact .refl _
    · rw [same, present]
      rfl
  have locked {target : TemplateId} {found_row : Option Template}
      (other : ∀ template, op ≠ .templates (.insert template))
      (locks : TemplateQuery.Locked task before.state target found_row after.state) :
      Builder.Standing kept task { phase with seen := found_row, held := true } after := by
    refine ⟨drawn other, resolved, fun row seen => ?_, fun _ row seen => ?_, made⟩
    · obtain rfl : found_row = some row := seen
      exact found locks.2.1 other locks.templates
    · obtain rfl : found_row = some row := seen
      obtain ⟨-, present, same⟩ := locks
      have row_id : row.id = target := registry.template_id present
      subst row_id
      rw [same]
      exact ⟨Function.update_self .., present⟩
  cases op with
  | clock => exact quiet answered.outcome.2 (by simp)
  | uuid7 =>
      refine ⟨fun id drew => ?_, resolved, seen, fun holds row seen => ?_, made⟩
      · obtain rfl : answer = id := by simpa [Builder.contract] using drew
        refine ⟨answered.mem_log.mpr (.inr rfl), fun filed => ?_⟩
        rcases answered.filed_cases filed with old | ⟨template, -, same, -⟩
        · exact answered.outcome.1 (registry.filed_issued old)
        · contradiction
      · rw [answered.outcome.2]
        exact known.held holds row seen
  | rollback => exact ⟨drawn (by simp), resolved, seen, unheld, made⟩
  | advisoryLock | hosts | keys | vm => cases allowed
  | outside call =>
      have same : after.state = before.state := answered.outcome
      cases call with
      | refreshBaseImage image =>
          cases answer with
          | error failure => exact quiet same (by simp)
          | ok reference =>
              refine ⟨drawn (by simp), fun resolves found => ?_, seen, fun holds row seen => ?_,
                made⟩
              · obtain rfl : reference = resolves := by simpa [Builder.contract] using found
                exact ⟨image, answered.mem_log.mpr (.inr rfl)⟩
              · rw [same]
                exact known.held holds row seen
      | issueJoinCredentials | mintSecret | shuffle | fetchSecret | putSecret | waitForDevice
      | scanKnownHosts | releaseDevice | deleteSecrets | buildTemplateImage
      | deleteTemplateImage => exact quiet same (by simp)
  | templates query =>
  cases query with
  | get id =>
      obtain ⟨rfl, same⟩ := answered.outcome
      exact ⟨drawn (by simp), resolved, fun row present => found present (by simp) (by rw [same]),
        unheld, made⟩
  | lock id => exact locked (by simp) answered.outcome
  | lockKey key =>
      cases answer with
      | none =>
          exact ⟨drawn (by simp), resolved, fun row seen => by contradiction,
            fun _ row seen => by contradiction, made⟩
      | some row =>
          obtain ⟨-, target, locks⟩ := answered.outcome
          exact locked (by simp) locks
  | reapable now => exact quiet answered.outcome.2 (by simp)
  | isReapable id now => exact quiet answered.outcome.2 (by simp)
  | touch => cases allowed
  | insert template =>
      cases answer with
      | false =>
          refine ⟨by simp [Builder.contract], resolved, seen, fun holds row seen => ?_, made⟩
          rw [show after.state = before.state from answered.outcome]
          exact known.held holds row seen
      | true =>
          refine ⟨by simp [Builder.contract], resolved, seen, fun holds row seen => ?_,
            fun row made => ?_⟩
          · obtain ⟨lock, present⟩ := known.held holds row seen
            obtain ⟨absent, -, same⟩ := answered.outcome
            rw [same]
            refine ⟨lock, ?_⟩
            simp only [Table.get_insert]
            split
            · next same =>
                rw [same, absent] at present
                contradiction
            · exact present
          · obtain rfl : template = row := by simpa [Builder.contract] using made
            have get := answered.templates_get template.id
            simp only [Op.templateEffect, TemplateQuery.effect, if_true] at get
            obtain ⟨drew, -⟩ := known.drawn _ allowed.2.1
            refine ⟨⟨answered.outcome.2.2 ▸ registry.drew_issued drew, fun _ _ =>
              ⟨task, template, rfl, answered.mem_log.mpr (.inr rfl)⟩⟩, fun now present => ?_,
              fun _ => by rw [get]; rfl⟩
            rw [get] at present
            obtain rfl := Option.some.inj present
            exact .refl _
  | restart id updatedAt => exact ⟨drawn (by simp), resolved, seen, unheld, seen⟩
  | finish id columns => exact ⟨drawn (by simp), resolved, seen, unheld, made⟩
  | abandon limit lastError updatedAt => exact ⟨drawn (by simp), resolved, seen, unheld, made⟩
  | delete id => exact ⟨drawn (by simp), resolved, seen, unheld, made⟩

end Deployment.Answered

omit [DecidableEq ι] in
/-- A step without an answer keeps the registry. -/
theorem TemplateRegistry.congr (registry : TemplateRegistry before)
    (templates : after.state.templates = before.state.templates)
    (same : Deployment.Unanswered before after) : TemplateRegistry after where
  template_id present := registry.template_id (templates ▸ present)
  unique present present_too := registry.unique (templates ▸ present) (templates ▸ present_too)
  taken present := by
    obtain ⟨issued, files⟩ := registry.taken (templates ▸ present)
    refine ⟨same.issued ▸ issued, fun owner drew => ?_⟩
    simp only [Filed, same.log]
    exact files owner (same.drew.mp drew)
  drew_issued drew := same.issued ▸ registry.drew_issued (same.drew.mp drew)
  filed_issued filed := by
    simp only [Filed, same.log] at filed
    exact same.issued ▸ registry.filed_issued filed
  drew_unique drew drew_too := registry.drew_unique (same.drew.mp drew) (same.drew.mp drew_too)

omit [DecidableEq ι] in
/-- A step without an answer keeps what a task knows, if it keeps the task's locks. -/
theorem Builder.Standing.congr (stands : phase.Standing kept task before)
    (templates : after.state.templates = before.state.templates)
    (same : Deployment.Unanswered before after)
    (locks : ∀ id, before.state.templateLock id = some task →
      after.state.templateLock id = some task) : phase.Standing kept task after := by
  have known {row : Template} (known : Known kept row before) : Known kept row after := by
    refine ⟨⟨same.issued ▸ known.taken.1, fun owner drew => ?_⟩, ?_, ?_⟩
    · simp only [Filed, same.log]
      exact known.taken.2 owner (same.drew.mp drew)
    · exact templates ▸ known.continues
    · exact templates ▸ known.stays
  refine ⟨fun id drawn => ?_, fun reference resolved => ?_, fun row seen => ?_,
    fun holds row seen => ?_, fun row made => ?_⟩
  · obtain ⟨drew, unfiled⟩ := stands.drawn id drawn
    refine ⟨same.drew.mpr drew, fun filed => unfiled ?_⟩
    simpa only [Filed, same.log] using filed
  · simpa only [same.log] using stands.resolved reference resolved
  · exact known (stands.seen row seen)
  · obtain ⟨lock, present⟩ := stands.held holds row seen
    exact ⟨locks row.id lock, templates ▸ present⟩
  · exact known (stands.made row made)

/-- Every run that keeps the rows which it has to keep upholds the registry and what each task
knows. -/
theorem Builder.upheld (deployment : Deployment) (kept posted : Prop)
    (condition : Condition ι Op.Answer (State ι) (Nature ι))
    (keeps : ∀ task op world, condition.perform task op world → kept →
      ∀ id, op ≠ .templates (.delete id)) :
    Upheld deployment.system condition (Builder.contract kept posted) TemplateRegistry
      fun task phase world => phase.Standing kept task world where
  perform {task phase op choice answer before after} allowed registry known allows chosen := by
    have answered := Deployment.answered chosen
    have undeleted := keeps task op before allows
    exact ⟨answered.builder_expected known registry chosen,
      answered.template_registry known allowed registry,
      answered.builder_self known allowed undeleted registry⟩
  others {task phase op choice answer before after other standing} allowed registry known allows
      chosen different stands :=
    (Deployment.answered chosen).builder_other known allowed (keeps task op before allows) registry
      different stands
  abandon {task before} _ registry := by
    have same : Deployment.Unanswered before (deployment.system.abandoned task before) :=
      .abandoned task before
    refine ⟨registry.congr rfl same, fun {other standing} different stands =>
      stands.congr rfl same fun id lock => ?_⟩
    exact (State.drop_eq_some task).mpr ⟨lock, different⟩
  world {move before state} _ registry moved := by
    have same := Deployment.Unanswered.nature moved
    obtain ⟨now, vms, -, rfl⟩ := Deployment.nature_frame moved
    exact ⟨registry.congr rfl same, fun stands => stands.congr rfl same fun _ lock => lock⟩

omit [DecidableEq ι] in
theorem Builder.Standing.initial (kept : Prop) (resolves : Bool) (task : ι)
    (world : Deployment.World ι) : Builder.Standing kept task { resolves } world where
  drawn := by simp
  resolved := by simp
  seen := by simp
  held := by simp
  made := by simp

/-- Committed templates: each row has its id and, by the unique index, a key of its own. -/
structure State.Filed (state : State ι) : Prop where
  template_id : ∀ {id row}, state.templates.get id = some row → row.id = id
  unique : ∀ {id other row rival}, state.templates.get id = some row →
    state.templates.get other = some rival → row.toTemplateKey = rival.toTemplateKey → id = other
  issued : ∀ {id row}, state.templates.get id = some row → id ∈ state.issued

omit [DecidableEq ι] in
theorem State.Filed.registry {state : State ι} (filed : state.Filed) :
    TemplateRegistry { state, log := [] } where
  template_id := filed.template_id
  unique := filed.unique
  taken present := ⟨filed.issued present, fun _ drew => by simp [Drew] at drew⟩
  drew_issued drew := by simp [Drew] at drew
  filed_issued filed := by simp [TemplateRegistry.Filed] at filed
  drew_unique drew := by simp [Drew] at drew

/-- No rows. -/
def emptyState : State Bool :=
  .resting 0 .empty .empty .empty

theorem emptyState_filed : emptyState.Filed := by
  constructor <;> simp [emptyState, State.resting]

end Drukbox
