import Drukbox.Templates.OneBuilder
import Drukbox.Templates.Soundness

/-!
# Builds, deletes and the janitor

A running build keeps its row in `building`, so that no other call restarts it and no delete takes
it, unless the janitor marks the row failed while the build still runs.
-/

namespace Drukbox

open Await

variable {ι : Type} [DecidableEq ι]

namespace Builder

/-- A build of the row runs: its task brought the row into `building`, has not committed the outcome
and was not cancelled. -/
def Running (task : ι) (id : TemplateId) (world : Deployment.World ι) : Prop :=
  (∃ mine, (ofLog task world.log).made = some mine ∧ mine.id = id) ∧
    (ofLog task world.log).ended = false ∧ Entry.abandoned task ∉ world.log

/-- The janitor marks no row failed while a build of it runs. -/
def abandonsIdle : Condition ι Op.Answer (State ι) (Nature ι) where
  perform _ op world := ∀ limit lastError updatedAt,
    op = .templates (.abandon limit lastError updatedAt) → ∀ builder id row,
      Running builder id world → world.state.templates.get id = some row →
        TemplateQuery.abandonable limit row = false

/-- A row with a running build is building, and has one such build. -/
def Exclusive (world : Deployment.World ι) : Prop :=
  ∀ builder id, Running builder id world →
    (∃ row, world.state.templates.get id = some row ∧ row.status = .building) ∧
      ∀ other, Running other id world → other = builder

variable {deployment : Deployment} {task other : ι} {op : Op} {answer : op.Answer}
  {before after : Deployment.World ι} {phase : Builder} {id : TemplateId} {row : Template}

theorem ofLog_self (answered : deployment.Answered task op answer before after) :
    ofLog task after.log = (contract False True).next (ofLog task before.log) op answer := by
  rw [ofLog, answered.log, Contract.replay_append, Contract.after_self]
  rfl

theorem ofLog_other (answered : deployment.Answered task op answer before after)
    (different : other ≠ task) : ofLog other after.log = ofLog other before.log := by
  rw [ofLog, answered.log, Contract.replay_append, Contract.after_other different.symm]
  rfl

theorem not_abandoned_iff (answered : deployment.Answered task op answer before after) :
    Entry.abandoned other ∉ after.log ↔ Entry.abandoned other ∉ before.log := by
  simp [answered.log]

/-- An answer starts a build by a transition only, and a commit of its outcome ends it. -/
theorem running_cases (answered : deployment.Answered task op answer before after)
    (allowed : (contract False True).allows (ofLog task before.log) op)
    (running : Running other id after) :
    (other = task ∧ begins task (.answered task op answer) = some id) ∨
      (Running other id before ∧
        (other = task → ∀ target columns, op ≠ .templates (.finish target columns))) := by
  by_cases same : other = task
  · subst same
    obtain ⟨⟨mine, made, same⟩, unended, alive⟩ := running
    rw [ofLog_self answered] at made unended
    rw [not_abandoned_iff answered] at alive
    have still (made : (ofLog other before.log).made = some mine)
        (unended : (ofLog other before.log).ended = false)
        (unfinished : ∀ target columns, op ≠ .templates (.finish target columns)) :
        (other = other ∧ begins other (.answered other op answer) = some id) ∨
          (Running other id before ∧
            (other = other → ∀ target columns, op ≠ .templates (.finish target columns))) :=
      .inr ⟨⟨⟨mine, made, same⟩, unended, alive⟩, fun _ => unfinished⟩
    cases op with
    | clock | uuid7 | rollback | advisoryLock | hosts | keys | vm =>
        exact still made unended (by simp)
    | outside call =>
        cases call with
        | refreshBaseImage image => cases answer <;> exact still made unended (by simp)
        | issueJoinCredentials | mintSecret | shuffle | fetchSecret | putSecret | waitForDevice
        | scanKnownHosts | releaseDevice | deleteSecrets | buildTemplateImage
        | deleteTemplateImage => exact still made unended (by simp)
    | templates query =>
        cases query with
        | get | lock | lockKey | reapable | isReapable | touch | abandon | delete =>
            exact still made unended (by simp)
        | finish target columns => cases unended
        | insert template =>
            cases answer with
            | false => exact still made unended (by simp)
            | true =>
                obtain rfl : template = mine := by simpa [contract] using made
                exact .inl ⟨rfl, by simp [begins, same]⟩
        | restart target updatedAt =>
            obtain ⟨row, -, seen, -, row_id, -⟩ := allowed
            obtain rfl : row = mine := Option.some.inj (seen.symm.trans made)
            exact .inl ⟨rfl, by simp [begins, ← row_id, same]⟩
  · obtain ⟨made, unended, alive⟩ := running
    rw [ofLog_other answered same] at made unended
    rw [not_abandoned_iff answered] at alive
    exact .inr ⟨⟨made, unended, alive⟩, fun self => absurd self same⟩

/-- A task that does not delete its row, nor finish its build, leaves a building row building. -/
theorem building_stays (answered : deployment.Answered task op answer before after)
    (known : phase.Standing False task before)
    (allowed : (contract False True).allows phase op)
    (unfinished : ∀ columns, op ≠ .templates (.finish id columns))
    (kept : ∀ limit lastError updatedAt, op = .templates (.abandon limit lastError updatedAt) →
      TemplateQuery.abandonable limit row = false)
    (present : before.state.templates.get id = some row) (building : row.status = .building) :
    ∃ now, after.state.templates.get id = some now ∧ now.status = .building := by
  have held {seen : Template} (reads : phase.seen = some seen) (holds : phase.held)
      (same : seen.id = id) : seen.status = .building := by
    obtain ⟨-, now⟩ := known.held holds seen reads
    rw [same, present] at now
    rw [← Option.some.inj now, building]
  rw [answered.templates_get, present]
  cases op with
  | clock | uuid7 | rollback | outside => exact ⟨row, rfl, building⟩
  | advisoryLock | hosts | keys | vm => cases allowed
  | templates query =>
  cases query with
  | get | lock | lockKey | reapable | isReapable => exact ⟨row, rfl, building⟩
  | touch => cases allowed
  | insert template =>
      cases answer with
      | false => exact ⟨row, rfl, building⟩
      | true =>
          simp only [Op.templateEffect, TemplateQuery.effect]
          split
          · exact ⟨template, rfl, allowed.2.2.1⟩
          · exact ⟨row, rfl, building⟩
  | restart target updatedAt =>
      simp only [Op.templateEffect, TemplateQuery.effect]
      split
      · exact ⟨_, rfl, rfl⟩
      · exact ⟨row, rfl, building⟩
  | finish target columns =>
      cases answer with
      | false => exact ⟨row, rfl, building⟩
      | true =>
          simp only [Op.templateEffect, TemplateQuery.effect]
          split
          · next same => exact absurd (same ▸ rfl) (unfinished columns)
          · exact ⟨row, rfl, building⟩
  | abandon limit lastError updatedAt =>
      refine ⟨row, ?_, building⟩
      simp [Op.templateEffect, TemplateQuery.effect, kept limit lastError updatedAt rfl]
  | delete target =>
      obtain ⟨seen, reads, holds, same, idle⟩ := allowed
      simp only [Op.templateEffect, TemplateQuery.effect]
      split
      · next gone => exact absurd (held reads holds (same.trans gone.symm)) idle
      · exact ⟨row, rfl, building⟩

/-- A step of a task that follows its contract keeps the builds apart. -/
theorem exclusive_step (answered : deployment.Answered task op answer before after)
    (known : (ofLog task before.log).Standing False task before)
    (allowed : (contract False True).allows (ofLog task before.log) op)
    (alive : Entry.abandoned task ∉ before.log)
    (kept : abandonsIdle.perform task op before) (exclusive : Exclusive before) :
    Exclusive after := by
  have becomes {id : TemplateId} : Becomes id before after ↔ _ :=
    becomes_iff answered known allowed
  have starts {id : TemplateId} {builder : ι}
    (begin : begins task (.answered task op answer) = some id)
      (running : Running builder id before) : False := by
    obtain ⟨⟨row, present, building⟩, -⟩ := exclusive builder id running
    exact (becomes.mpr begin).1 row present building
  intro builder id running
  rcases running_cases answered allowed running with ⟨rfl, begin⟩ | ⟨was, unfinished⟩
  · refine ⟨(becomes.mpr begin).2, fun other running_too => ?_⟩
    rcases running_cases answered allowed running_too with ⟨same, -⟩ | ⟨was, -⟩
    · exact same
    · exact (starts begin was).elim
  · obtain ⟨⟨row, present, building⟩, only⟩ := exclusive builder id was
    refine ⟨building_stays answered known allowed (fun columns finishes => ?_)
      (fun limit lastError updatedAt same =>
        kept limit lastError updatedAt same builder id row was present) present building,
      fun other running_too => ?_⟩
    · -- The task that commits an outcome is the one whose build runs.
      subst finishes
      obtain ⟨loaded, updatedAt, outcome, -, -, mine, -⟩ := allowed
      obtain ⟨unended, made⟩ := mine trivial
      exact unfinished (only task ⟨made, unended, alive⟩).symm id columns rfl
    · rcases running_cases answered allowed running_too with ⟨-, begin⟩ | ⟨was_too, -⟩
      · exact (starts begin was).elim
      · exact only other was_too

/-- A step of a task that follows its contract leaves an available row available, or deletes it. -/
theorem available_stays (answered : deployment.Answered task op answer before after)
    (known : (ofLog task before.log).Standing False task before)
    (allowed : (contract False True).allows (ofLog task before.log) op)
    (alive : Entry.abandoned task ∉ before.log) (exclusive : Exclusive before) {now : Template}
    (present : before.state.templates.get id = some row) (available : row.status = .available)
    (later : after.state.templates.get id = some now) :
    now.status = .available ∧ now.image = row.image := by
  have unchanged (same : some row = some now) :
    now.status = .available ∧ now.image = row.image := by
    rw [← Option.some.inj same]
    exact ⟨available, rfl⟩
  rw [answered.templates_get, present] at later
  cases op with
  | clock | uuid7 | rollback | outside => exact unchanged later
  | advisoryLock | hosts | keys | vm => cases allowed
  | templates query =>
  cases query with
  | get | lock | lockKey | reapable | isReapable => exact unchanged later
  | touch => cases allowed
  | insert template =>
      cases answer with
      | false => exact unchanged later
      | true =>
          obtain ⟨absent, -⟩ := answered.outcome
          simp only [Op.templateEffect, TemplateQuery.effect] at later
          split at later
          · next same =>
              rw [same, absent] at present
              contradiction
          · exact unchanged later
  | restart target updatedAt =>
      simp only [Op.templateEffect, TemplateQuery.effect] at later
      split at later
      · next same =>
          obtain ⟨seen, -, reads, holds, row_id, failed, -⟩ := allowed
          obtain ⟨-, held⟩ := known.held holds seen reads
          rw [row_id, ← same, present] at held
          rw [← Option.some.inj held, available] at failed
          contradiction
      · exact unchanged later
  | finish target columns =>
      cases answer with
      | false => exact unchanged later
      | true =>
          simp only [Op.templateEffect, TemplateQuery.effect] at later
          split at later
          · next same =>
              obtain ⟨loaded, updatedAt, outcome, -, -, mine, -⟩ := allowed
              obtain ⟨unended, made⟩ := mine trivial
              have running : Running task id before := ⟨same ▸ made, unended, alive⟩
              obtain ⟨⟨old, was, building⟩, -⟩ := exclusive task id running
              rw [present] at was
              rw [← Option.some.inj was, available] at building
              contradiction
          · exact unchanged later
  | abandon limit lastError updatedAt =>
      have spared : TemplateQuery.abandonable limit row = false := by
        simp [TemplateQuery.abandonable, available]
      simp only [Op.templateEffect, TemplateQuery.effect, Option.map_some, spared] at later
      exact unchanged later
  | delete target =>
      simp only [Op.templateEffect, TemplateQuery.effect] at later
      split at later
      · contradiction
      · exact unchanged later

/-- What a task knows, while it is alive. -/
structure Alive (task : ι) (phase : Builder) (world : Deployment.World ι) : Prop where
  stands : phase.Standing False task world
  replayed : phase = ofLog task world.log
  alive : Entry.abandoned task ∉ world.log

omit [DecidableEq ι] in
theorem Running.congr [DecidableEq ι] (log : after.log = before.log) :
    Running task id after ↔ Running task id before := by
  simp only [Running, log]

theorem running_of_abandoned
    (running : Running other id (deployment.system.abandoned task before)) :
    Running other id before := by
  obtain ⟨made, unended, alive⟩ := running
  have same : ofLog other (deployment.system.abandoned task before).log =
      ofLog other before.log := by
    rw [ofLog, System.abandoned, Contract.replay_append, Contract.after_abandoned]
    rfl
  rw [same] at made unended
  refine ⟨made, unended, fun logged => alive ?_⟩
  simp [System.abandoned, logged]

/-- Every run in which the janitor marks no row failed while a build of it runs keeps the builds
apart. -/
theorem exclusive_upheld (deployment : Deployment) :
    Upheld deployment.system (abandonsIdle : Condition ι _ _ _) (contract False True)
      (fun world => TemplateRegistry world ∧ Exclusive world) Alive := by
  have upheld := (Builder.upheld deployment False True (abandonsIdle : Condition ι _ _ _)
    fun _ _ _ _ keeps => keeps.elim)
  constructor
  · intro task phase op choice answer before after allowed holds stands allows chosen
    have answered := Deployment.answered chosen
    obtain ⟨known, rfl, alive⟩ := stands
    obtain ⟨expected, registry, own⟩ := upheld.perform allowed holds.1 known allows chosen
    refine ⟨expected, ⟨registry, exclusive_step answered known allowed alive allows holds.2⟩, own,
      ?_, (not_abandoned_iff answered).mpr alive⟩
    rw [ofLog_self answered]
  · intro task phase op choice answer before after other standing allowed holds stands allows chosen
      different held
    have answered := Deployment.answered chosen
    refine ⟨upheld.others allowed holds.1 stands.stands allows chosen different held.stands, ?_,
      (not_abandoned_iff answered).mpr held.alive⟩
    rw [ofLog_other answered different, held.replayed]
  · intro task before allows holds
    obtain ⟨registry, others⟩ := upheld.abandon allows holds.1
    refine ⟨⟨registry, fun builder id running => ?_⟩, fun {other standing} different held =>
      ⟨others different held.stands, ?_, ?_⟩⟩
    · obtain ⟨building, only⟩ := holds.2 builder id (running_of_abandoned running)
      exact ⟨building, fun other running_too => only other (running_of_abandoned running_too)⟩
    · rw [ofLog, System.abandoned, Contract.replay_append, Contract.after_abandoned]
      exact held.replayed
    · simpa [System.abandoned, different] using held.alive
  · intro move before state allows holds moved
    obtain ⟨registry, others⟩ := upheld.world allows holds.1 moved
    obtain ⟨now, vms, -, rfl⟩ := Deployment.nature_frame moved
    exact ⟨⟨registry, holds.2⟩, fun held => ⟨others held.stands, held.replayed, held.alive⟩⟩

end Builder

open Builder

/-- Builds, deletes and the janitor exclude each other. -/
structure Excludes (deployment : Deployment)
    (config : Config ι Op.Answer (State ι) Failure Reply) : Prop where
  /-- Two builds of a row never run at once. -/
  oneBuild : ∀ task other id, Running task id config.world → Running other id config.world →
    task = other
  /-- A row is there while a build of it runs. -/
  rowStays : ∀ task id, Running task id config.world →
    ∃ row, config.world.state.templates.get id = some row ∧ row.status = .building
  /-- Nobody deletes a row while a build of it runs. -/
  rowDeleted : ∀ task id resume,
    config.tasks task = some (.call (.templates (.delete id)) resume) →
      ∀ other, ¬ Running other id config.world
  /-- An image is deleted by a task that holds the row which names it, and no build of that row
  runs. -/
  imageDeleted : ∀ task image resume,
    config.tasks task = some (.call (.outside (.deleteTemplateImage image)) resume) →
      ∃ row, config.world.state.templates.get row.id = some row ∧ row.image = image ∧
        config.world.state.templateLock row.id = some task ∧
        ∀ other, ¬ Running other row.id config.world
  /-- An available row keeps its status and its image until it is deleted. -/
  available : ∀ event after id row now, deployment.system.Step abandonsIdle event config after →
    config.world.state.templates.get id = some row → row.status = .available →
      after.world.state.templates.get id = some now →
        now.status = .available ∧ now.image = row.image

/-- Every run of template tasks in which the janitor marks no row failed while a build of it runs
keeps builds, deletes and the janitor apart. -/
theorem TemplateService.build_excludes (deployment : Deployment) (state : State ι)
    (filed : state.Filed) (calls : ι → Option TemplateCall) (config : Config ι _ _ _ _)
    (reach : deployment.system.Reaches abandonsIdle (deployment.startTemplates state calls)
      config) : Excludes deployment config := by
  have upholds : Upholds (contract False True) _ _ (fun _ _ _ => True) config :=
    Upholds.reaches (exclusive_upheld deployment)
      ⟨⟨filed.registry, fun builder id running => by
          simp [Running, ofLog, Deployment.startTemplates] at running⟩,
        fun {task program} started => by
          obtain ⟨call, called, rfl⟩ := Option.map_eq_some_iff.mp started
          exact ⟨{}, ⟨.initial False true task _, rfl, by simp [Deployment.startTemplates]⟩,
            call.builds deployment True⟩⟩ reach
  obtain ⟨⟨registry, exclusive⟩, follows⟩ := upholds
  have idle {id : TemplateId} {row : Template}
      (present : config.world.state.templates.get id = some row) (idle : row.status ≠ .building)
      (other : ι) (running : Running other id config.world) : False := by
    obtain ⟨⟨now, current, building⟩, -⟩ := exclusive other id running
    rw [present] at current
    exact idle (Option.some.inj current ▸ building)
  constructor
  · intro task other id running running_too
    exact ((exclusive task id running).2 other running_too).symm
  · intro task id running
    exact (exclusive task id running).1
  · intro task id resume waits other running
    obtain ⟨phase, stands, ⟨row, seen, held, same, unbuilt⟩, -⟩ := follows waits
    have present := (stands.stands.held held row seen).2
    exact idle (same ▸ present) unbuilt other running
  · intro task image resume waits
    obtain ⟨phase, stands, ⟨row, seen, held, unbuilt, named⟩, -⟩ := follows waits
    obtain ⟨lock, present⟩ := stands.stands.held held row seen
    exact ⟨row, present, named, lock, idle present unbuilt⟩
  · intro event after id row now step present available later
    obtain ⟨allowed, stepped⟩ := step
    have unchanged (same : some row = some now) :
        now.status = .available ∧ now.image = row.image := by
      rw [← Option.some.inj same]
      exact ⟨available, rfl⟩
    rcases System.next_cases stepped with
      ⟨task, choice, op, resume, answer, last, rfl, program, chosen, rfl⟩ |
      ⟨task, op, resume, rfl, program, rfl⟩ | ⟨move, state, rfl, moved, rfl⟩
    · obtain ⟨phase, stands, allows, -⟩ := follows program
      obtain ⟨known, rfl, alive⟩ := stands
      exact available_stays (Deployment.answered chosen) known allows alive exclusive present
        available later
    · exact unchanged (present.symm.trans later)
    · obtain ⟨time, vms, -, rfl⟩ := Deployment.nature_frame moved
      exact unchanged (present.symm.trans later)

/-- No build runs, of the two tasks. -/
def Builder.isIdle (log : List (Entry Bool Op.Answer)) : Bool :=
  [true, false].all fun builder => (ofLog builder log).made.isNone || (ofLog builder log).ended

/-- Whether `abandonsIdle` allows an event, for sure. -/
def Builder.isExclusive (config : Config Bool Op.Answer (State Bool) Failure Reply) :
    Event Bool Choice (Nature Bool) → Bool
  | .perform task _ =>
      match config.tasks task with
      | some (.call (.templates (.abandon _ _ _)) _) => isIdle config.world.log
      | _ => true
  | _ => true

theorem Builder.isExclusive_sound (config : Config Bool Op.Answer (State Bool) Failure Reply)
    (event : Event Bool Choice (Nature Bool)) (passes : isExclusive config event) :
    abandonsIdle.Allows config event := by
  cases event with
  | abandon | world => trivial
  | perform task choice =>
      rintro op resume program limit lastError updatedAt rfl builder id row running -
      obtain ⟨⟨mine, made, -⟩, unended, -⟩ := running
      simp only [isExclusive, program, isIdle, List.all_cons, List.all_nil, Bool.and_true,
        Bool.and_eq_true, Bool.or_eq_true] at passes
      cases builder with
      | true => simp [made, unended] at passes
      | false => simp [made, unended] at passes

/-- A build that ends before the janitor comes is apart from it. -/
theorem TemplateService.build_excludes_janitor :
    ∃ config row, Deployment.sample.system.Reaches abandonsIdle
        (Deployment.sample.startTemplates emptyState buildCalls) config ∧
      config.world.state.templates.get 1 = some row ∧ row.status = .available ∧
      Excludes Deployment.sample config := by
  have executed : (Deployment.sample.system.runChecked isExclusive
      (Deployment.sample.startTemplates emptyState buildCalls)
      (buildStarts ++ buildEnds ++ janitorAbandons)).isSome := rfl
  have reach := System.reaches_runChecked isExclusive isExclusive_sound _ executed
  exact ⟨_, _, reach, rfl, rfl, TemplateService.build_excludes Deployment.sample emptyState
    emptyState_filed buildCalls _ reach⟩

/-- A second `POST /templates` with the same script, and the janitor. -/
def slowBuildCalls : Fin 3 → Option TemplateCall
  | 0 | 1 => some (.create { setupScript := "apt-get install -y git" })
  | 2 => some .reap

/-- The first build runs for more than half an hour; the janitor marks it failed, and the second
call restarts it. -/
def slowBuild : List (Event (Fin 3) Choice (Nature (Fin 3))) :=
  [.perform 0 (.text "ubuntu@sha256:1"), .perform 0 .go, .perform 0 (.number 1)] ++
    .replicate 4 (.perform 0 .go) ++
    .world (.tick 1800000001) :: .replicate 3 (.perform 2 .go) ++
    [.perform 1 (.text "ubuntu@sha256:1"), .perform 1 .go, .perform 1 (.number 2),
      .perform 1 .go, .perform 1 (.number 1), .perform 1 .go]

/-- The entry is an answer. -/
def Builder.isAnswered {ι : Type} : Entry ι Op.Answer → Bool
  | .answered _ _ _ => true
  | .abandoned _ => false

theorem Builder.alive_of_answered {ι : Type} {task : ι} {log : List (Entry ι Op.Answer)}
    (answered : log.all isAnswered) : Entry.abandoned task ∉ log := fun logged => by
  have cancelled := List.all_eq_true.mp answered _ logged
  contradiction

/-- Two builds of one row run at once. -/
theorem TemplateService.build_overlaps :
    ∃ config, Deployment.sample.system.Reaches {}
        (Deployment.sample.startTemplates (.resting 0 .empty .empty .empty) slowBuildCalls)
        config ∧
      Running 0 1 config.world ∧ Running 1 1 config.world :=
  ⟨_, System.reaches_run slowBuild rfl,
    ⟨⟨_, rfl, rfl⟩, rfl, alive_of_answered rfl⟩, ⟨⟨_, rfl, rfl⟩, rfl, alive_of_answered rfl⟩⟩

end Drukbox
