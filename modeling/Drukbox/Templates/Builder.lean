import Drukbox.Templates.Rows

/-!
# What a template task may do

A call that resolves a template inserts its row at most once, and restarts a failed row only while
it holds that row's lock; a build writes what differs from the row that it loaded; a delete removes
a row that it holds and that is not building.
-/

namespace Drukbox

open Await Program HostService

/-- What the answers of a template task told it so far. -/
structure Builder where
  /-- It may resolve a template. -/
  resolves : Bool := true
  /-- The UUID that it drew and has not used yet. -/
  drawn : Option TemplateId := none
  /-- The base image reference that its provider resolved. -/
  reference : Option String := none
  /-- The row that it read last. -/
  seen : Option Template := none
  /-- It locked that row, in the transaction that is open. -/
  held : Bool := false
  /-- The row that it brought into `building`. -/
  made : Option Template := none
  /-- Its build has ended. -/
  ended : Bool := false

namespace Builder

variable (kept posted : Prop)

/-- The contract of the template tasks.  Where rows are `kept`, no row is deleted; where builds are
`posted`, a build belongs to the task that brought its row into `building`. -/
def contract : Contract Op.Answer Builder where
  allows phase
    | .clock | .uuid7 | .rollback | .outside (.refreshBaseImage _)
    | .outside (.buildTemplateImage _ _ _) => True
    | .outside (.deleteTemplateImage image) => ∃ row,
        phase.seen = some row ∧ phase.held ∧ row.status ≠ .building ∧ row.image = image
    | .templates (.get _) | .templates (.lock _) | .templates (.lockKey _)
    | .templates (.reapable _) | .templates (.isReapable _ _) => True
    | .templates (.insert template) =>
        phase.resolves ∧ phase.drawn = some template.id ∧ template.status = .building ∧
          phase.made = none
    | .templates (.restart id _) => ∃ row,
        phase.resolves ∧ phase.seen = some row ∧ phase.held ∧ row.id = id ∧
          row.status = .failed ∧ phase.made = none
    | .templates (.finish id columns) => ∃ row updatedAt outcome,
        phase.seen = some row ∧ row.id = id ∧
          (posted → phase.ended = false ∧ ∃ mine, phase.made = some mine ∧ mine.id = id) ∧
          (∀ image, outcome = .ok image → image ≠ "") ∧
          columns = Template.changes row (TemplateService.built row updatedAt outcome)
    | .templates (.abandon _ lastError _) => lastError ≠ ""
    | .templates (.delete id) => ∃ row,
        phase.seen = some row ∧ phase.held ∧ row.id = id ∧ row.status ≠ .building
    | .templates (.touch _) | .hosts _ | .keys _ | .vm _ | .advisoryLock _ | .outside _ => False
  expects phase
    | .templates (.get id) => fun row =>
        (∀ template, row = some template → template.id = id ∧
          ∀ mine, phase.made = some mine → mine.id = id →
            template.toTemplateKey = mine.toTemplateKey) ∧
        (kept → ∀ mine, phase.made = some mine → mine.id = id → row.isSome)
    | .templates (.lock id) => fun row => ∀ template, row = some template → template.id = id
    | .templates (.lockKey key) => fun row =>
        ∀ template, row = some template → template.toTemplateKey = key
    | .outside (.buildTemplateImage _ _ _) => fun outcome =>
        ∀ image, outcome = .ok image → image ≠ ""
    | .templates _ | .hosts _ | .keys _ | .vm _ | .advisoryLock _ | .outside _ | .clock | .uuid7
    | .rollback => fun _ => True
  next phase
    | .uuid7 => fun id => { phase with drawn := some id }
    | .rollback => fun _ => { phase with held := false }
    | .outside (.refreshBaseImage _) => fun resolved => match resolved with
      | .ok reference => { phase with reference := some reference }
      | .error _ => phase
    | .templates (.get _) => fun row => { phase with seen := row, held := false }
    | .templates (.lock _) | .templates (.lockKey _) =>
        fun row => { phase with seen := row, held := true }
    | .templates (.insert template) => fun inserted =>
        if inserted then { phase with drawn := none, made := some template }
        else { phase with drawn := none }
    | .templates (.restart _ _) => fun _ => { phase with held := false, made := phase.seen }
    | .templates (.finish _ _) => fun _ => { phase with held := false, ended := true }
    | .templates (.abandon _ _ _) | .templates (.delete _) =>
        fun _ => { phase with held := false }
    | .templates _ | .hosts _ | .keys _ | .vm _ | .advisoryLock _ | .outside _ | .clock =>
        fun _ => phase

variable {kept posted} {deployment : Deployment} {phase : Builder} {row : Template}
  {id : TemplateId} {request : TemplateRequest}

/-- The key that a request resolves to. -/
def requestKey (deployment : Deployment) (request : TemplateRequest) (vm : VMProvider)
    (reference : String) : TemplateKey where
  provider := vm.name
  baseImage := (given request.baseImage).getD vm.defaultImage
  baseImageRef := reference
  setupScriptHash := deployment.sha256 request.setupScript

/-- What a call that returns a template has learned: the row is the one of its request's key, and
it has to build the row that it brought into `building`. -/
structure Resolved (deployment : Deployment) (request : TemplateRequest) (later : Builder)
    (template : Template) (needsBuild : Bool) : Prop where
  key : ∃ vm reference, deployment.getVmProvider request.provider = .ok vm ∧
    later.reference = some reference ∧
    template.toTemplateKey = requestKey deployment request vm reference
  seen : ∃ row, later.seen = some row ∧ row.id = template.id ∧
    row.toTemplateKey = template.toTemplateKey
  builds : needsBuild → later.ended = false ∧
    ∃ mine, later.made = some mine ∧ mine.id = template.id
  joins : needsBuild = false → later.made = none

theorem joinWinner_follows {vm : VMProvider} {reference : String} {now : ℤ}
    (known : deployment.getVmProvider request.provider = .ok vm)
    (resolved : phase.reference = some reference) (resolves : phase.resolves)
    (unended : phase.ended = false) (unmade : phase.made = none) :
    Follows (contract kept posted)
      (Ends (fun later => later.made = none)
        fun later result => Resolved deployment request later result.1 result.2) phase
      (TemplateService.joinWinner (requestKey deployment request vm reference) now) := by
  refine .step trivial fun row expected => ?_
  cases row with
  | none => exact unmade
  | some winner =>
  have keyed := expected winner rfl
  dsimp only
  split
  · next failed =>
      refine .step ⟨winner, resolves, rfl, rfl, rfl, failed, unmade⟩ fun _ _ => ?_
      exact
        { key := ⟨vm, reference, known, resolved, keyed⟩
          seen := ⟨winner, rfl, rfl, rfl⟩
          builds := fun _ => ⟨unended, winner, rfl, rfl⟩
          joins := fun joined => by contradiction }
  · exact
      { key := ⟨vm, reference, known, resolved, keyed⟩
        seen := ⟨winner, rfl, rfl, rfl⟩
        builds := fun builds => by contradiction
        joins := fun _ => unmade }

theorem getOrCreate_follows (resolves : phase.resolves) (unended : phase.ended = false)
    (unmade : phase.made = none) :
    Follows (contract kept posted)
      (Ends (fun later => kept → later.made = none)
        fun later result => Resolved deployment request later result.1 result.2) phase
      (TemplateService.getOrCreate deployment request) := by
  unfold TemplateService.getOrCreate
  cases checkProvider deployment request.provider with
  | error failure => exact fun _ => unmade
  | ok _ =>
  cases known : deployment.getVmProvider request.provider with
  | error failure => exact fun _ => unmade
  | ok vm =>
  simp only [ofExcept_ok, bind_eq_bind, done_bind]
  cases TemplateService.resolveCapability vm with
  | error failure => exact fun _ => unmade
  | ok _ =>
  simp only [ofExcept_ok, done_bind]
  refine .step trivial fun refreshed _ => ?_
  cases refreshed with
  | error failure => exact fun _ => unmade
  | ok reference =>
  refine .step trivial fun now _ => .step trivial fun id _ => ?_
  refine .step ⟨resolves, rfl, rfl, unmade⟩ fun inserted _ => ?_
  cases inserted with
  | false =>
      have joins : Follows (contract kept posted)
          (Ends (fun later => later.made = none)
            fun later result => Resolved deployment request later result.1 result.2)
          { phase with drawn := none, reference := some reference }
          (TemplateService.joinWinner (requestKey deployment request vm reference) now) :=
        joinWinner_follows known rfl resolves unended unmade
      refine joins.weaken fun later outcome ended => ?_
      cases outcome with
      | ok result => exact ended
      | error failure => exact fun _ => ended
  | true =>
      refine .step trivial fun row expected => ?_
      obtain ⟨found, stays⟩ := expected
      cases row with
      | none =>
          intro keeps
          have present := stays keeps _ rfl rfl
          contradiction
      | some template =>
          obtain ⟨same, keyed⟩ := found template rfl
          have key := keyed _ rfl rfl
          exact
            { key := ⟨vm, reference, known, rfl, key⟩
              seen := ⟨template, rfl, rfl, rfl⟩
              builds := fun _ => ⟨unended, _, rfl, same.symm⟩
              joins := fun joined => by contradiction }

theorem buildImage_follows :
    Follows (contract kept posted)
      (Returns fun later outcome => later = phase ∧ ∀ image, outcome = .ok image → image ≠ "")
      phase (TemplateService.buildImage deployment row) := by
  unfold TemplateService.buildImage
  dsimp only
  split
  · exact ⟨rfl, by simp⟩
  · exact ⟨trivial, fun outcome named => ⟨rfl, named⟩⟩

theorem build_follows
    (mine : posted → phase.ended = false ∧ ∃ mine, phase.made = some mine ∧ mine.id = id) :
    Follows (contract kept posted) (Returns fun _ _ => True) phase
      (TemplateService.build deployment id) := by
  refine .step trivial fun row expected => ?_
  cases row with
  | none => trivial
  | some template =>
  have same := (expected.1 template rfl).1
  refine .seq buildImage_follows fun later outcome built => ?_
  obtain ⟨rfl, named⟩ := built
  refine .step trivial fun updatedAt _ => ?_
  refine .step ⟨template, updatedAt, outcome, rfl, same, mine, named, rfl⟩ fun matched _ => ?_
  cases matched <;> trivial

theorem spared_follows {expiredOnly : Bool} :
    Follows (contract kept posted) (Returns fun later _ => later = phase) phase
      (TemplateService.spared expiredOnly id) := by
  unfold TemplateService.spared
  split
  · exact .step trivial fun _ _ => .step trivial fun _ _ => rfl
  · exact rfl

theorem removeImage_follows (seen : phase.seen = some row) (held : phase.held)
    (idle : row.status ≠ .building) :
    Follows (contract kept posted) (Returns fun later _ => later = phase) phase
      (TemplateService.removeImage deployment row) := by
  unfold TemplateService.removeImage
  split
  · exact rfl
  cases deployment.getVmProvider (some row.provider) with
  | error failure => trivial
  | ok vm =>
  simp only [ofExcept_ok, bind_eq_bind, done_bind]
  cases TemplateService.resolveCapability vm with
  | error failure => trivial
  | ok _ =>
  refine .step ⟨row, seen, held, idle, rfl⟩ fun deleted _ => ?_
  cases deleted with
  | ok _ => exact rfl
  | error failure =>
      dsimp only
      split
      · exact rfl
      · trivial

theorem delete_follows {expiredOnly : Bool} :
    Follows (contract kept posted) (Returns fun _ _ => True) phase
      (TemplateService.delete deployment id expiredOnly) := by
  refine .step trivial fun row expected => ?_
  cases row with
  | none => trivial
  | some template =>
  have same := expected template rfl
  refine .seq spared_follows fun later spares begins => ?_
  subst begins
  split
  · trivial
  split
  · trivial
  next idle =>
  refine .seq (removeImage_follows rfl rfl idle) fun later _ removed => ?_
  subst removed
  exact .step ⟨template, rfl, rfl, same, idle⟩ fun _ _ => trivial

theorem inSession_follows {α : Type} {program : Task α} {fails : Builder → Prop}
    {holds : Builder → α → Prop}
    (follows : Follows (contract kept posted) (Ends fails holds) phase program)
    (fails_on : ∀ later, fails later → fails { later with held := false })
    (holds_on : ∀ later value, holds later value → holds { later with held := false } value) :
    Follows (contract kept posted) (Ends fails holds) phase (inSession program) := by
  refine .closing (follows.weaken fun later outcome ended => ⟨trivial, fun _ _ => ?_⟩)
  cases outcome with
  | ok value => exact holds_on later value ended
  | error failure => exact fails_on later ended

theorem session_follows {α : Type} {program : Task α}
    (follows : Follows (contract kept posted) (Returns fun _ _ => True) phase program) :
    Follows (contract kept posted) (Returns fun _ _ => True) phase (inSession program) :=
  inSession_follows follows (fun _ _ => trivial) fun _ _ _ => trivial

theorem reapEach_follows (ids : List TemplateId) :
    Follows (contract kept posted) (Returns fun _ _ => True) phase
      (TemplateService.reapEach deployment ids) := by
  induction ids generalizing phase with
  | nil => trivial
  | cons id rest ih =>
      refine .seq (.attempt ((session_follows delete_follows).weaken fun _ _ _ => trivial))
        fun later deleted _ => .seq ih fun _ _ _ => ?_
      split <;> trivial

theorem reapTemplates_follows :
    Follows (contract kept posted) (Returns fun _ _ => True) phase
      (TemplateService.reapTemplates deployment) := by
  have named : TemplateService.abandonedMessage deployment ≠ "" := by
    intro empty
    have parts := String.append_eq_empty_iff.mp empty
    exact absurd parts.2 (by decide)
  unfold TemplateService.reapTemplates
  refine .step trivial fun _ _ => ?_
  refine .step trivial fun updatedAt _ => ?_
  refine .step named fun _ _ => ?_
  refine .step trivial fun _ _ => ?_
  refine .step trivial fun _ _ => ?_
  exact reapEach_follows _

theorem Resolved.closed {later : Builder} {template : Template} {needsBuild : Bool}
    (resolved : Resolved deployment request later template needsBuild) :
    Resolved deployment request { later with held := false } template needsBuild :=
  ⟨resolved.key, resolved.seen, resolved.builds, resolved.joins⟩

theorem resolve_follows (resolves : phase.resolves) (unended : phase.ended = false)
    (unmade : phase.made = none) :
    Follows (contract kept posted)
      (Ends (fun later => kept → later.made = none)
        fun later result => Resolved deployment request later result.1 result.2) phase
      (inSession (TemplateService.getOrCreate deployment request)) :=
  inSession_follows (getOrCreate_follows resolves unended unmade) (fun _ unmade => unmade)
    fun _ _ resolved => resolved.closed

theorem createTemplate_follows (resolves : phase.resolves) (unended : phase.ended = false)
    (unmade : phase.made = none) :
    Follows (contract kept posted) (Returns fun _ _ => True) phase
      (TemplateService.createTemplate deployment request) := by
  have resolves : Follows (contract kept posted)
      (Returns fun later result => Resolved deployment request later result.1 result.2) phase
      (inSession (TemplateService.getOrCreate deployment request)) := by
    refine (resolve_follows resolves unended unmade).weaken fun later outcome ended => ?_
    cases outcome with
    | ok result => exact ended
    | error failure => trivial
  refine .seq resolves fun later result resolved => ?_
  obtain ⟨template, needsBuild⟩ := result
  dsimp only
  split
  · next builds =>
      exact .seq (session_follows (build_follows fun _ => resolved.builds builds))
        fun _ _ _ => trivial
  · trivial

end Builder

theorem TemplateCall.builds (deployment : Deployment) (call : TemplateCall) (posted : Prop) :
    Follows (Builder.contract False posted) (fun _ _ => True) {} (call.program deployment) := by
  have mapped {α : Type} {program : Task α} (reply : α → Reply)
      (follows : Follows (Builder.contract False posted) (Returns fun _ _ => True) {} program) :
      Follows (Builder.contract False posted) (fun _ _ => True) {} (reply <$> program) :=
    .bind (follows.weaken fun _ outcome _ => by cases outcome <;> trivial)
  cases call with
  | create request => exact mapped _ (Builder.createTemplate_follows rfl rfl rfl)
  | delete id expiredOnly => exact mapped _ (Builder.session_follows Builder.delete_follows)
  | reap => exact mapped _ Builder.reapTemplates_follows

end Drukbox
