import Drukbox.Templates.Registry

/-!
# One builder for each transition

The unique index lets one insert of a key through, and a restart needs the failed row's lock.  So
whatever the order, each transition into `building` is made by one call, which is the one that has
to build.
-/

namespace Drukbox

open Await HostService

/-- A task on templates, where the builds are tasks of their own. -/
inductive TemplateTask
  | resolve (request : TemplateRequest)
  | build (id : TemplateId)
  | delete (id : TemplateId) (expiredOnly : Bool)
  | reap

/-- What such a task returns. -/
inductive Resolution
  | resolved (template : Template) (needsBuild : Bool)
  | done

/-- The program of a task. -/
def TemplateTask.program (deployment : Deployment) : TemplateTask → Task Resolution
  | resolve request =>
      (fun result => .resolved result.1 result.2) <$>
        inSession (TemplateService.getOrCreate deployment request)
  | build id => (fun _ => .done) <$> inSession (TemplateService.build deployment id)
  | delete id expiredOnly =>
      (fun _ => .done) <$> inSession (TemplateService.delete deployment id expiredOnly)
  | reap => (fun _ => .done) <$> TemplateService.reapTemplates deployment

/-- The task is a call of `get_or_create`. -/
def TemplateTask.resolves : TemplateTask → Bool
  | resolve _ => true
  | build _ | delete _ _ | reap => false

namespace Builder

variable {ι : Type} [DecidableEq ι]

/-- The transition into `building` that an answer gave a task. -/
def begins (task : ι) : Entry ι Op.Answer → Option TemplateId
  | .answered other (.templates (.insert template)) true =>
      if other = task then some template.id else none
  | .answered other (.templates (.restart id _)) _ => if other = task then some id else none
  | .answered _ _ _ | .abandoned _ => none

/-- The transitions into `building` that a task made. -/
def begun (task : ι) (log : List (Entry ι Op.Answer)) : List TemplateId :=
  log.filterMap (begins task)

/-- No row is deleted. -/
def keepsRows : Condition ι Op.Answer (State ι) (Nature ι) where
  perform _ op _ := ∀ id, op ≠ .templates (.delete id)

/-- A row with the id and the key was there at the start, or was inserted. -/
def Existed (rows : Table TemplateId Template) (id : TemplateId) (key : TemplateKey)
    (log : List (Entry ι Op.Answer)) : Prop :=
  (∃ row, rows.get id = some row ∧ row.toTemplateKey = key) ∨
    ∃ task template, template.id = id ∧ template.toTemplateKey = key ∧
      Entry.answered task (.templates (.insert template)) true ∈ log

/-- The row comes into `building`. -/
def Becomes (id : TemplateId) (before after : Deployment.World ι) : Prop :=
  (∀ old, before.state.templates.get id = some old → old.status ≠ .building) ∧
    ∃ row, after.state.templates.get id = some row ∧ row.status = .building

/-- What a task knows, and the transitions that it made. -/
structure Counted (resolver : ι → Bool) (task : ι) (phase : Builder)
    (world : Deployment.World ι) : Prop where
  stands : phase.Standing True task world
  begun : begun task world.log = (phase.made.map (·.id)).toList
  resolver : phase.resolves = resolver task
  entitled : phase.made.isSome → phase.resolves

variable {deployment : Deployment} {task other : ι} {op : Op} {answer : op.Answer}
  {before after : Deployment.World ι} {phase standing : Builder} {resolver : ι → Bool}
  {kept posted : Prop} {rows : Table TemplateId Template} {id : TemplateId} {row : Template}
  {key : TemplateKey} {entry : Entry ι Op.Answer} {log : List (Entry ι Op.Answer)}

theorem begun_append : begun task (log ++ [entry]) = begun task log ++
    (begins task entry).toList := by
  cases begin : begins task entry <;> simp [begun, begin]

theorem begins_other (different : other ≠ task) :
    begins other (.answered task op answer) = none := by
  cases op with
  | templates query =>
      cases query with
      | insert template => cases answer <;> simp [begins, different.symm]
      | restart id updatedAt => simp [begins, different.symm]
      | get | lock | lockKey | reapable | isReapable | touch | finish | abandon | delete => rfl
  | clock | uuid7 | rollback | advisoryLock | hosts | keys | outside | vm => rfl

theorem begun_other (answered : deployment.Answered task op answer before after)
    (different : other ≠ task) : begun other after.log = begun other before.log := by
  rw [answered.log, begun_append, begins_other different]
  simp

theorem begun_self (answered : deployment.Answered task op answer before after)
    (counted : phase.Counted resolver task before)
    (allowed : (contract True posted).allows phase op) :
    begun task after.log =
      (((contract True posted).next phase op answer).made.map (·.id)).toList := by
  rw [answered.log, begun_append, counted.begun]
  cases op with
  | clock | uuid7 | rollback => exact List.append_nil _
  | outside call =>
      cases call with
      | refreshBaseImage image => cases answer <;> exact List.append_nil _
      | issueJoinCredentials | mintSecret | shuffle | fetchSecret | putSecret | waitForDevice
      | scanKnownHosts | releaseDevice | deleteSecrets | buildTemplateImage
      | deleteTemplateImage => exact List.append_nil _
  | advisoryLock | hosts | keys | vm => cases allowed
  | templates query =>
      cases query with
      | get | lock | lockKey | reapable | isReapable | touch | finish | abandon | delete =>
          exact List.append_nil _
      | insert template =>
          obtain ⟨-, -, -, unmade⟩ := allowed
          cases answer <;> simp [begins, contract, unmade]
      | restart id updatedAt =>
          obtain ⟨row, -, seen, -, same, -, unmade⟩ := allowed
          simp [begins, contract, unmade, seen, same]

theorem next_resolves :
    ((contract True posted).next phase op answer).resolves = phase.resolves := by
  cases op with
  | clock | uuid7 | rollback | advisoryLock | hosts | keys | vm => rfl
  | outside call =>
      cases call with
      | refreshBaseImage image => cases answer <;> rfl
      | issueJoinCredentials | mintSecret | shuffle | fetchSecret | putSecret | waitForDevice
      | scanKnownHosts | releaseDevice | deleteSecrets | buildTemplateImage
      | deleteTemplateImage => rfl
  | templates query =>
      cases query with
      | insert template => cases answer <;> rfl
      | get | lock | lockKey | reapable | isReapable | touch | restart | finish | abandon
      | delete => rfl

/-- Only a task that resolves templates makes a transition. -/
theorem next_entitled (entitled : phase.made.isSome → phase.resolves)
    (allowed : (contract True posted).allows phase op)
    (made : ((contract True posted).next phase op answer).made.isSome) : phase.resolves := by
  cases op with
  | clock | uuid7 | rollback => exact entitled made
  | advisoryLock | hosts | keys | vm => cases allowed
  | outside call =>
      cases call with
      | refreshBaseImage image => cases answer <;> exact entitled made
      | issueJoinCredentials | mintSecret | shuffle | fetchSecret | putSecret | waitForDevice
      | scanKnownHosts | releaseDevice | deleteSecrets | buildTemplateImage
      | deleteTemplateImage => exact entitled made
  | templates query =>
      cases query with
      | insert template => exact allowed.1
      | restart id updatedAt =>
          obtain ⟨row, resolves, -⟩ := allowed
          exact resolves
      | get | lock | lockKey | reapable | isReapable | touch | finish | abandon | delete =>
          exact entitled made

/-- A build gives its row another status than `building`. -/
theorem changes_status_ne_building {updatedAt : ℤ} {outcome : Except Failure String} :
    (Template.changes row (TemplateService.built row updatedAt outcome)).status ≠
      some .building := by
  cases outcome with
  | error failure =>
      by_cases same : row.status = .failed <;>
        simp [Template.changes, TemplateService.built, same]
  | ok image =>
      by_cases same : row.status = .available <;>
        simp [Template.changes, TemplateService.built, same]

omit [DecidableEq ι] in
theorem not_becomes (same : after.state.templates.get id = before.state.templates.get id) :
    ¬ Becomes id before after := by
  rintro ⟨idle, row, present, building⟩
  exact idle row (same ▸ present) building

/-- A row comes into `building` exactly by its insert or by a restart. -/
theorem becomes_iff (answered : deployment.Answered task op answer before after)
    (known : phase.Standing kept task before)
    (allowed : (contract kept posted).allows phase op) :
    Becomes id before after ↔ begins task (.answered task op answer) = some id := by
  have get := answered.templates_get id
  have quiet (same : after.state.templates.get id = before.state.templates.get id)
      (silent : begins task (.answered task op answer) ≠ some id) :
      Becomes id before after ↔ begins task (.answered task op answer) = some id :=
    iff_of_false (not_becomes same) silent
  cases op with
  | clock | uuid7 | rollback | outside => exact quiet get (by simp [begins])
  | advisoryLock | hosts | keys | vm => cases allowed
  | templates query =>
  cases query with
  | get | lock | lockKey | reapable | isReapable | touch => exact quiet get (by simp [begins])
  | insert template =>
      cases answer with
      | false => exact quiet get (by simp [begins])
      | true =>
          simp only [Op.templateEffect, TemplateQuery.effect] at get
          split at get
          · next same =>
              subst same
              obtain ⟨absent, -⟩ := answered.outcome
              refine iff_of_true ⟨by simp [absent], template, get, allowed.2.2.1⟩ ?_
              simp [begins]
          · next different =>
              exact quiet get (by simpa [begins] using Ne.symm different)
  | restart target updatedAt =>
      simp only [Op.templateEffect, TemplateQuery.effect] at get
      split at get
      · next same =>
          subst same
          obtain ⟨row, -, seen, held, same, failed, -⟩ := allowed
          subst same
          obtain ⟨-, present⟩ := known.held held row seen
          rw [present] at get
          refine iff_of_true ⟨fun old was => ?_, _, get, rfl⟩ (by simp [begins])
          rw [present] at was
          simp [← Option.some.inj was, failed]
      · next different => exact quiet get (by simpa [begins] using Ne.symm different)
  | finish target columns =>
      have silent : begins task (.answered task (.templates (.finish target columns)) answer) ≠
          some id := by
        simp [begins]
      cases answer with
      | false => exact quiet get silent
      | true =>
          simp only [Op.templateEffect, TemplateQuery.effect] at get
          split at get
          · refine iff_of_false ?_ silent
            rintro ⟨idle, row, present, building⟩
            rw [get] at present
            obtain ⟨old, was, rfl⟩ := Option.map_eq_some_iff.mp present
            obtain ⟨loaded, updatedAt, outcome, -, -, -, -, rfl⟩ := allowed
            rw [Template.set_status] at building
            cases written : (Template.changes loaded
                (TemplateService.built loaded updatedAt outcome)).status with
            | none => exact idle old was (by simpa [written] using building)
            | some status =>
                rw [written, Option.getD_some] at building
                exact changes_status_ne_building (building ▸ written)
          · exact quiet get silent
  | abandon limit lastError updatedAt =>
      refine iff_of_false ?_ (by simp [begins])
      rintro ⟨idle, row, present, building⟩
      rw [get] at present
      obtain ⟨old, was, same⟩ := Option.map_eq_some_iff.mp present
      split at same
      · subst same
        simp [TemplateQuery.abandonColumns] at building
      · subst same
        exact idle old was building
  | delete target =>
      simp only [Op.templateEffect, TemplateQuery.effect] at get
      split at get
      · refine iff_of_false ?_ (by simp [begins])
        rintro ⟨-, row, present, -⟩
        rw [get] at present
        contradiction
      · exact quiet get (by simp [begins])

/-- A row that comes into `building` was absent or failed. -/
theorem becomes_from (answered : deployment.Answered task op answer before after)
    (known : phase.Standing kept task before)
    (allowed : (contract kept posted).allows phase op)
    (begin : begins task (.answered task op answer) = some id)
    (present : before.state.templates.get id = some row) : row.status = .failed := by
  cases op with
  | clock | uuid7 | rollback | outside | advisoryLock | hosts | keys | vm => cases begin
  | templates query =>
  cases query with
  | get | lock | lockKey | reapable | isReapable | touch | finish | abandon | delete => cases begin
  | insert template =>
      cases answer with
      | false => cases begin
      | true =>
          obtain rfl : template.id = id := by simpa [begins] using begin
          obtain ⟨absent, -⟩ := answered.outcome
          rw [absent] at present
          contradiction
  | restart target updatedAt =>
      obtain rfl : target = id := by simpa [begins] using begin
      obtain ⟨old, -, seen, held, same, failed, -⟩ := allowed
      subst same
      rw [(known.held held old seen).2] at present
      exact Option.some.inj present ▸ failed

theorem existed_step (answered : deployment.Answered task op answer before after)
    (allowed : (contract True posted).allows phase op)
    (undeleted : ∀ id, op ≠ .templates (.delete id))
    (kept : ∀ id key, Existed rows id key before.log →
      ∃ row, before.state.templates.get id = some row ∧ row.toTemplateKey = key)
    (existed : Existed rows id key after.log) :
    ∃ row, after.state.templates.get id = some row ∧ row.toTemplateKey = key := by
  have stays (old : Existed rows id key before.log) :
      ∃ row, after.state.templates.get id = some row ∧ row.toTemplateKey = key := by
    obtain ⟨row, was, keyed⟩ := kept id key old
    obtain ⟨now, present⟩ := Option.isSome_iff_exists.mp
      (answered.template_stays allowed (undeleted id) (Option.isSome_of_eq_some was))
    refine ⟨now, present, ?_⟩
    rcases answered.template_cases allowed present with ⟨old, was', later⟩ | ⟨same, rfl, accepted⟩
    · rw [was] at was'
      rw [later.key, ← Option.some.inj was', keyed]
    · obtain rfl := eq_of_heq accepted
      rw [← same, answered.outcome.1] at was
      contradiction
  rcases existed with initial | ⟨owner, template, same, keyed, logged⟩
  · exact stays (.inl initial)
  · rcases answered.mem_log.mp logged with old | new
    · exact stays (.inr ⟨owner, template, same, keyed, old⟩)
    · obtain ⟨rfl, rfl, accepted⟩ := Entry.answered.inj new
      obtain rfl := eq_of_heq accepted
      refine ⟨template, ?_, keyed⟩
      rw [answered.templates_get]
      simp [Op.templateEffect, TemplateQuery.effect, same]

/-- What the log says of rows and transitions, also of those of tasks that are gone. -/
structure Ledger (rows : Table TemplateId Template) (resolver : ι → Bool)
    (world : Deployment.World ι) : Prop where
  existed : ∀ id key, Existed rows id key world.log →
    ∃ row, world.state.templates.get id = some row ∧ row.toTemplateKey = key
  single : ∀ task, (begun task world.log).length ≤ 1
  entitled : ∀ task id, id ∈ begun task world.log → resolver task

theorem ledger_step (answered : deployment.Answered task op answer before after)
    (counted : phase.Counted resolver task before)
    (allowed : (contract True posted).allows phase op)
    (undeleted : ∀ id, op ≠ .templates (.delete id)) (ledger : Ledger rows resolver before) :
    Ledger rows resolver after := by
  have own := begun_self answered counted allowed
  refine ⟨fun id key => existed_step answered allowed undeleted ledger.existed, fun other => ?_,
    fun other id member => ?_⟩
  · by_cases same : other = task
    · rw [same, own]
      cases ((contract True posted).next phase op answer).made <;> simp
    · rw [begun_other answered same]
      exact ledger.single other
  · by_cases same : other = task
    · rw [same, own, Option.mem_toList] at member
      rw [same, ← counted.resolver]
      have made : ((contract True posted).next phase op answer).made.isSome := by
        obtain ⟨mine, made, -⟩ := Option.map_eq_some_iff.mp member
        exact Option.isSome_of_eq_some made
      exact next_entitled counted.entitled allowed made
    · rw [begun_other answered same] at member
      exact ledger.entitled other id member

/-- Every run without deletes keeps what each task knows, and its transitions. -/
theorem counted_upheld (deployment : Deployment) (resolver : ι → Bool) :
    Upheld deployment.system keepsRows (contract True False) TemplateRegistry
      fun task phase world => phase.Counted resolver task world := by
  have upheld := Builder.upheld deployment True False (keepsRows : Condition ι _ _ _)
    fun _ _ _ allows _ => allows
  constructor
  · intro task phase op choice answer before after allowed registry counted allows chosen
    have answered := Deployment.answered chosen
    obtain ⟨expected, registry, own⟩ :=
      upheld.perform allowed registry counted.stands allows chosen
    refine ⟨expected, registry, own, begun_self answered counted allowed, ?_, fun made => ?_⟩
    · rw [next_resolves, counted.resolver]
    · rw [next_resolves]
      exact next_entitled counted.entitled allowed made
  · intro task phase op choice answer before after other standing allowed registry counted allows
      chosen different held
    refine ⟨upheld.others allowed registry counted.stands allows chosen different held.stands, ?_,
      held.resolver, held.entitled⟩
    rw [begun_other (Deployment.answered chosen) different, held.begun]
  · intro task before allows registry
    obtain ⟨registry, others⟩ := upheld.abandon allows registry
    refine ⟨registry, fun {other standing} different held =>
      ⟨others different held.stands, ?_, held.resolver, held.entitled⟩⟩
    rw [System.abandoned, begun_append]
    simpa [begins] using held.begun
  · intro move before state allows registry moved
    obtain ⟨registry, others⟩ := upheld.world allows registry moved
    exact ⟨registry, fun held =>
      ⟨others held.stands, held.begun, held.resolver, held.entitled⟩⟩

end Builder

def TemplateTask.Ends (deployment : Deployment) :
    TemplateTask → Builder → Except Failure Resolution → Prop
  | resolve request, later, .ok (.resolved template needsBuild) =>
      Builder.Resolved deployment request later template needsBuild
  | resolve _, later, .error _ => later.made = none
  | resolve _, _, .ok .done => False
  | build _, _, outcome | delete _ _, _, outcome | reap, _, outcome =>
      ∀ template needsBuild, outcome ≠ .ok (.resolved template needsBuild)

theorem TemplateTask.follows (deployment : Deployment) (task : TemplateTask) :
    Follows (Builder.contract True False) (task.Ends deployment) { resolves := task.resolves }
      (task.program deployment) := by
  have quiet {α : Type} {program : Task α} {phase : Builder}
      (follows : Follows (Builder.contract True False) (Returns fun _ _ => True) phase program) :
      Follows (Builder.contract True False)
        (fun _ outcome => ∀ template needsBuild, outcome ≠ .ok (.resolved template needsBuild))
        phase ((fun _ => Resolution.done) <$> program) := by
    refine .bind (follows.weaken fun _ outcome _ => ?_)
    cases outcome with
    | ok value => exact fun _ _ => by simp
    | error failure => exact fun _ _ => by simp
  cases task with
  | resolve request =>
      refine .bind ((Builder.resolve_follows rfl rfl rfl).weaken fun later outcome ended => ?_)
      cases outcome with
      | ok result => exact ended
      | error failure => exact ended trivial
  | build id => exact quiet (Builder.session_follows (Builder.build_follows nofun))
  | delete id expiredOnly => exact quiet (Builder.session_follows Builder.delete_follows)
  | reap => exact quiet Builder.reapTemplates_follows

variable {ι : Type} [DecidableEq ι]

/-- Any number of template tasks, over any committed rows. -/
def Deployment.startTasks (deployment : Deployment) (state : State ι)
    (calls : ι → Option TemplateTask) : Config ι Op.Answer (State ι) Failure Resolution where
  world := { state, log := [] }
  tasks task := (calls task).map (TemplateTask.program deployment)

open Builder

/-- One builder for each transition, over all the rows and calls of a run. -/
structure OneBuilder (deployment : Deployment) (rows : Table TemplateId Template)
    (calls : ι → Option TemplateTask)
    (config : Config ι Op.Answer (State ι) Failure Resolution) : Prop where
  /-- At most one row with a key ever exists. -/
  one : ∀ id other key, Existed rows id key config.world.log →
    Existed rows other key config.world.log → id = other
  /-- A call that returns, returns the row of the key that its request resolved to. -/
  returns : ∀ task request template needsBuild, calls task = some (.resolve request) →
    config.tasks task = some (.done (.resolved template needsBuild)) →
      (∃ vm image reference, deployment.getVmProvider request.provider = .ok vm ∧
        Entry.answered task (.outside (.refreshBaseImage image)) (.ok reference) ∈
          config.world.log ∧
        template.toTemplateKey = requestKey deployment request vm reference) ∧
      ∃ row, config.world.state.templates.get template.id = some row ∧
        row.toTemplateKey = template.toTemplateKey
  /-- It has to build if and only if it made a transition, of the row that it returns. -/
  needs : ∀ task request template needsBuild, calls task = some (.resolve request) →
    config.tasks task = some (.done (.resolved template needsBuild)) →
      begun task config.world.log = if needsBuild then [template.id] else []
  /-- A transition is a call's only one, and leaves the call with its builder unless it is cancelled
  or crashes. -/
  builds : ∀ task id, id ∈ begun task config.world.log →
    begun task config.world.log = [id] ∧
      (∃ request, calls task = some (.resolve request)) ∧
      (∀ failure, config.tasks task ≠ some (.raise failure)) ∧
      ∀ reply, config.tasks task = some (.done reply) →
        ∃ template, reply = .resolved template true ∧ template.id = id
  /-- A step brings a row into `building` if and only if it is the transition of a task, of exactly
  one, and the row was absent or failed. -/
  transition : ∀ event after id, deployment.system.Step keepsRows event config after →
    (Becomes id config.world after.world ↔
      ∃! task, begun task after.world.log = begun task config.world.log ++ [id]) ∧
    (Becomes id config.world after.world → ∀ row, config.world.state.templates.get id = some row →
      row.status = .failed)

/-- What the log says of a task is what the task knows. -/
theorem Builder.made_of_begun {task : ι} {phase : Builder} {world : Deployment.World ι}
    {resolver : ι → Bool} {id : TemplateId} (counted : phase.Counted resolver task world)
    (member : id ∈ begun task world.log) : ∃ mine, phase.made = some mine ∧ mine.id = id := by
  rw [counted.begun, Option.mem_toList] at member
  exact Option.map_eq_some_iff.mp member

/-- A step adds a transition for exactly one task. -/
theorem Builder.begun_grows {deployment : Deployment} {task : ι} {op : Op} {answer : op.Answer}
    {before after : Deployment.World ι} {id : TemplateId}
    (answered : deployment.Answered task op answer before after) :
    begins task (.answered task op answer) = some id ↔
      ∃! other, begun other after.log = begun other before.log ++ [id] := by
  have grows (other : ι) (grew : begun other after.log = begun other before.log ++ [id]) :
      other = task := by
    by_contra different
    rw [begun_other answered different] at grew
    simp at grew
  constructor
  · intro begin
    refine ⟨task, ?_, grows⟩
    dsimp only
    rw [answered.log, begun_append, begin]
    rfl
  · rintro ⟨other, grew, -⟩
    obtain rfl := grows other grew
    rw [answered.log, begun_append] at grew
    simpa [Option.toList_eq_singleton_iff] using grew

omit [DecidableEq ι] in
theorem Builder.Ledger.initial [DecidableEq ι] (state : State ι) (resolver : ι → Bool) :
    Ledger state.templates resolver { state, log := [] } where
  existed id key existed := by simpa [Existed] using existed
  single task := by simp [begun]
  entitled task id := by simp [begun]

/-- Every run of template tasks without deletes gives each transition one builder. -/
theorem TemplateService.getOrCreate_oneBuilder (deployment : Deployment) (state : State ι)
    (filed : state.Filed) (calls : ι → Option TemplateTask) (config : Config ι _ _ _ _)
    (reach : deployment.system.Reaches keepsRows (deployment.startTasks state calls) config) :
    OneBuilder deployment state.templates calls config := by
  let resolver (task : ι) : Bool := (calls task).any TemplateTask.resolves
  have kept := (counted_upheld deployment resolver).also (Ledger state.templates resolver)
    (fun allowed _ ledger counted allows chosen =>
      ledger_step (Deployment.answered chosen) counted allowed allows ledger)
    (fun {task before} _ ledger => by
      have same (other : ι) : begun other (deployment.system.abandoned task before).log =
          begun other before.log := by
        rw [System.abandoned, begun_append]
        simp [begins]
      refine ⟨fun id key existed => ledger.existed id key ?_, fun other => ?_, fun other id => ?_⟩
      · simpa [Existed, System.abandoned] using existed
      · rw [same]
        exact ledger.single other
      · rw [same]
        exact ledger.entitled other id)
    (fun {move before state} _ ledger moved => by
      obtain ⟨now, vms, -, rfl⟩ := Deployment.nature_frame moved
      exact ⟨ledger.existed, ledger.single, ledger.entitled⟩)
  have upholds : Upholds (contract True False) _ _
      (fun task later outcome => ∀ call, calls task = some call →
        call.Ends deployment later outcome) config :=
    Upholds.reaches kept ⟨⟨filed.registry, .initial state resolver⟩,
      fun {task program} started => by
        obtain ⟨call, called, rfl⟩ := Option.map_eq_some_iff.mp started
        refine ⟨{ resolves := call.resolves }, ⟨.initial True _ task _, rfl, ?_, ?_⟩, ?_⟩
        · simp [resolver, called]
        · rintro ⟨⟩
        · refine (call.follows deployment).weaken fun later outcome ends other called_too => ?_
          rw [called] at called_too
          exact Option.some.inj called_too ▸ ends⟩ reach
  obtain ⟨⟨registry, ledger⟩, follows⟩ := upholds
  have returned {task : ι} {request : TemplateRequest} {template : Template} {needsBuild : Bool}
      (called : calls task = some (.resolve request))
      (done : config.tasks task = some (.done (.resolved template needsBuild))) :
      ∃ phase : Builder, phase.Counted resolver task config.world ∧
        Resolved deployment request phase template needsBuild := by
    obtain ⟨phase, counted, ends⟩ := follows done
    exact ⟨phase, counted, ends _ called⟩
  constructor
  · intro id other key existed existed_too
    obtain ⟨row, present, keyed⟩ := ledger.existed id key existed
    obtain ⟨rival, present_too, keyed_too⟩ := ledger.existed other key existed_too
    exact registry.unique present present_too (keyed.trans keyed_too.symm)
  · intro task request template needsBuild called done
    obtain ⟨phase, counted, resolved⟩ := returned called done
    obtain ⟨vm, reference, known, refreshed, keyed⟩ := resolved.key
    obtain ⟨image, logged⟩ := counted.stands.resolved reference refreshed
    obtain ⟨row, seen, row_id, row_key⟩ := resolved.seen
    have row_known := counted.stands.seen row seen
    obtain ⟨now, present⟩ := Option.isSome_iff_exists.mp (row_known.stays trivial)
    refine ⟨⟨vm, image, reference, known, logged, keyed⟩, now, row_id ▸ present, ?_⟩
    exact (row_known.continues now present).key.trans row_key
  · intro task request template needsBuild called done
    obtain ⟨phase, counted, resolved⟩ := returned called done
    rw [counted.begun]
    cases needsBuild with
    | true =>
        obtain ⟨-, mine, made, same⟩ := resolved.builds rfl
        simp [made, same]
    | false => simp [resolved.joins rfl]
  · intro task id member
    have single : begun task config.world.log = [id] := by
      obtain ⟨only, same⟩ := List.length_eq_one_iff.mp
        (Nat.le_antisymm (ledger.single task) (List.length_pos_of_mem member))
      rw [same, List.mem_singleton] at member
      rw [same, member]
    obtain ⟨call, called, resolves⟩ := (Option.any_eq_true _ _).mp (ledger.entitled task id member)
    cases call with
    | build | delete | reap => cases resolves
    | resolve request =>
    refine ⟨single, ⟨request, called⟩, fun failure raised => ?_, fun reply done => ?_⟩
    · obtain ⟨phase, counted, ends⟩ := follows raised
      obtain ⟨mine, made, -⟩ := made_of_begun counted member
      have unmade : phase.made = none := ends _ called
      rw [unmade] at made
      contradiction
    · obtain ⟨phase, counted, ends⟩ := follows done
      have ends := ends _ called
      cases reply with
      | done => cases ends
      | resolved template needsBuild =>
          have ends : Resolved deployment request phase template needsBuild := ends
          obtain ⟨mine, made, same⟩ := made_of_begun counted member
          cases needsBuild with
          | false =>
              rw [ends.joins rfl] at made
              contradiction
          | true =>
              obtain ⟨-, also, made_too, same_too⟩ := ends.builds rfl
              obtain rfl := Option.some.inj (made.symm.trans made_too)
              exact ⟨template, rfl, same_too.symm.trans same⟩
  · intro event after id step
    obtain ⟨allowed, stepped⟩ := step
    have unmoved (templates : after.world.state.templates = config.world.state.templates)
        (same : ∀ task, begun task after.world.log = begun task config.world.log) :
        (Becomes id config.world after.world ↔
          ∃! task, begun task after.world.log = begun task config.world.log ++ [id]) ∧
        (Becomes id config.world after.world →
          ∀ row, config.world.state.templates.get id = some row → row.status = .failed) := by
      have idle : ¬ Becomes id config.world after.world := not_becomes (by rw [templates])
      refine ⟨iff_of_false idle ?_, fun becomes => absurd becomes idle⟩
      rintro ⟨task, grew, -⟩
      rw [same task] at grew
      simp at grew
    rcases System.next_cases stepped with
      ⟨task, choice, op, resume, answer, later, rfl, program, chosen, rfl⟩ |
      ⟨task, op, resume, rfl, program, rfl⟩ | ⟨move, state, rfl, moved, rfl⟩
    · obtain ⟨phase, counted, allows, -⟩ := follows program
      have answered := Deployment.answered chosen
      have becomes : Becomes id config.world later ↔ _ :=
        becomes_iff answered counted.stands allows
      refine ⟨becomes.trans (begun_grows answered), fun became row present => ?_⟩
      exact becomes_from answered counted.stands allows (becomes.mp became) present
    · refine unmoved rfl fun other => ?_
      rw [System.abandoned, begun_append]
      simp [begins]
    · obtain ⟨now, vms, -, rfl⟩ := Deployment.nature_frame moved
      exact unmoved rfl fun _ => rfl

/-- Whether `keepsRows` allows an event. -/
def Builder.isKeeping (config : Config Bool Op.Answer (State Bool) Failure Resolution) :
    Event Bool Choice (Nature Bool) → Bool
  | .perform task _ =>
      match config.tasks task with
      | some (.call (.templates (.delete _)) _) => false
      | _ => true
  | _ => true

theorem Builder.isKeeping_sound (config : Config Bool Op.Answer (State Bool) Failure Resolution)
    (event : Event Bool Choice (Nature Bool)) (passes : isKeeping config event) :
    keepsRows.Allows config event := by
  cases event with
  | abandon | world => trivial
  | perform task choice =>
      rintro op resume program id rfl
      simp [isKeeping, program] at passes

/-- Two calls of one key. -/
def racingTasks (_ : Bool) : Option TemplateTask :=
  some (.resolve { setupScript := "apt-get install -y git" })

/-- Both resolve the base image before the first inserts its row. -/
def insertRace : List (Event Bool Choice (Nature Bool)) :=
  [.perform false (.text "ubuntu@sha256:1"), .perform true (.text "ubuntu@sha256:1"),
    .perform true .go, .perform true (.number 1), .perform true .go, .perform true .go,
    .perform true .go, .perform false .go, .perform false (.number 2), .perform false .go,
    .perform false (.number 1), .perform false .go]

/-- The first call has to build the row, the second joins it. -/
theorem TemplateService.getOrCreate_oneBuilder_race :
    ∃ config template winner, Deployment.sample.system.Reaches keepsRows
        (Deployment.sample.startTasks emptyState racingTasks) config ∧
      config.tasks true = some (.done (.resolved template true)) ∧
      config.tasks false = some (.done (.resolved winner false)) ∧ winner.id = template.id ∧
      OneBuilder Deployment.sample emptyState.templates racingTasks config := by
  have executed : (Deployment.sample.system.runChecked isKeeping
      (Deployment.sample.startTasks emptyState racingTasks) insertRace).isSome := rfl
  have reach := System.reaches_runChecked isKeeping isKeeping_sound insertRace executed
  exact ⟨_, _, _, reach, rfl, rfl, rfl, TemplateService.getOrCreate_oneBuilder Deployment.sample
    emptyState emptyState_filed racingTasks _ reach⟩

end Drukbox
