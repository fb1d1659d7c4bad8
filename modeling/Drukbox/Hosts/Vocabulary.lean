import Drukbox.Hosts.Calls

/-!
# What each function of the host service awaits

The operations that a function can come to wait for, whatever their answers.
-/

namespace Drukbox

open Await Program

namespace Op

/-- Reads, calls to outside parties and advisory locks. -/
def reads : Op → Prop
  | .clock | .advisoryLock _ | .outside _ | .hosts (.get _) | .hosts (.count _ _)
  | .templates (.get _) | .templates (.touch _) => True
  | .uuid7 | .rollback | .keys _ | .vm _ | .hosts _ | .templates _ => False

/-- What `provision` awaits. -/
def provisions : Op → Prop
  | .hosts (.update .progress _ _) | .hosts (.update .failure _ _) | .vm (.start _ _ _)
  | .vm .finish => True
  | op => op.reads

/-- What `create_host` awaits. -/
def creates : Op → Prop
  | .uuid7 | .hosts (.insert _ _) | .hosts (.stamp _ _ _ _) => True
  | op => op.provisions

/-- What a tick of the pool maintainer awaits until its deletes. -/
def fills : Op → Prop
  | .rollback | .hosts (.warm _) | .hosts (.excess _ _ _) | .outside (.shuffle _) => True
  | op => op.creates

/-- What `get_or_create_host` awaits to obtain a host. -/
def obtains : Op → Prop
  | .hosts (.candidate _ _ _) | .hosts (.claim _ _ _ _) => True
  | op => op.creates

/-- What `get_or_create_host` awaits. -/
def idempotent : Op → Prop
  | .keys _ | .hosts (.update .disposal _ _) => True
  | op => op.obtains

/-- What a delete of a host awaits. -/
def deletes (id : HostId) : Op → Prop
  | .hosts (.lock target) => target = id
  | .clock | .rollback | .outside _ | .hosts (.update .deviceRelease _ _) | .hosts (.delete _)
  | .vm (.delete _) => True
  | .uuid7 | .advisoryLock _ | .keys _ | .templates _ | .hosts _ | .vm _ => False

theorem provisions_of_reads {op : Op} (reads : op.reads) : op.provisions := by
  cases op with
  | clock | advisoryLock | outside | templates => exact reads
  | hosts query => cases query <;> first | exact reads | cases reads
  | uuid7 | rollback | keys | vm => cases reads

theorem creates_of_provisions {op : Op} (provisions : op.provisions) : op.creates := by
  cases op with
  | hosts query =>
      cases query with
      | update place id columns => cases place <;> exact provisions
      | get | lock | expired | warm | excess | count | candidate | claim | insert
      | stamp | delete =>
          first | exact provisions | cases provisions
  | uuid7 => cases provisions
  | clock | advisoryLock | rollback | keys | templates | outside | vm => exact provisions

theorem creates_of_reads {op : Op} (reads : op.reads) : op.creates :=
  creates_of_provisions (provisions_of_reads reads)

theorem fills_of_creates {op : Op} (creates : op.creates) : op.fills := by
  cases op with
  | hosts query => cases query <;> first | exact creates | cases creates
  | outside call => cases call <;> exact creates
  | rollback => trivial
  | clock | uuid7 | advisoryLock | keys | templates | vm => exact creates

theorem obtains_of_creates {op : Op} (creates : op.creates) : op.obtains := by
  cases op with
  | hosts query => cases query <;> first | exact creates | cases creates
  | clock | uuid7 | advisoryLock | rollback | keys | templates | outside | vm => exact creates

theorem idempotent_of_obtains {op : Op} (obtains : op.obtains) : op.idempotent := by
  cases op with
  | hosts query =>
      cases query with
      | update place id columns => cases place <;> first | exact obtains | cases obtains
      | get | lock | expired | warm | excess | count | candidate | claim | insert | stamp
      | delete => exact obtains
  | keys => trivial
  | clock | uuid7 | advisoryLock | rollback | templates | outside | vm => exact obtains

theorem idempotent_of_reads {op : Op} (reads : op.reads) : op.idempotent :=
  idempotent_of_obtains (obtains_of_creates (creates_of_reads reads))

end Op

namespace HostService

variable {deployment : Deployment} {host : Host} {vm : VMProvider} {request : HostRequest}

theorem requestedLease_reads (permanent : Bool) (expiresAt : Option ℤ) :
    (requestedLease deployment permanent expiresAt).All Op.reads := by
  unfold requestedLease
  split
  · trivial
  · split
    · trivial
    · exact .step trivial fun now => trivial

theorem currentValue_reads (entry : SecretEntry) : (currentValue entry).All Op.reads := by
  unfold currentValue
  split
  · trivial
  · exact ⟨trivial, fun _ => trivial⟩
  · trivial

theorem putEntries_reads (entries secrets : Dict SecretEntry) (environment : Dict String) :
    (putEntries deployment host vm entries secrets environment).All Op.reads := by
  induction entries generalizing secrets environment with
  | nil => trivial
  | cons item rest ih =>
      obtain ⟨name, entry⟩ := item
      refine .step trivial fun secret => .bind ?_ fun value => ?_
      · split
        · exact currentValue_reads entry
        · trivial
      · cases value with
        | error failure => trivial
        | ok value =>
            dsimp only
            split
            · trivial
            · refine .step trivial fun added => ?_
              cases added with
              | error failure => trivial
              | ok added => exact ih _ _

theorem resolveImage_reads : (resolveImage request vm).All Op.reads := by
  unfold resolveImage
  split
  · trivial
  · refine .step trivial fun found => ?_
    cases found with
    | none => trivial
    | some found =>
        dsimp only
        split
        · trivial
        · split
          · trivial
          · exact .step trivial fun usedAt => trivial

theorem countLiveHosts_reads (scope : CountScope) : (countLiveHosts scope).All Op.reads :=
  .step trivial fun _ => .step trivial fun _ => ⟨trivial, fun _ => trivial⟩

theorem checkProviderLimit_reads (lease : Option TemplateLease) :
    (checkProviderLimit deployment vm lease).All Op.reads := by
  unfold checkProviderLimit
  split
  · trivial
  · refine .bind ?_ fun flushed => ?_
    · cases lease with
      | none => trivial
      | some lease => exact ⟨trivial, fun _ => trivial⟩
    · split
      · refine .bind (countLiveHosts_reads _) fun live => ?_
        split <;> trivial
      · trivial

theorem checkAccountLimit_reads (serviceAccount : Option String) :
    (checkAccountLimit deployment serviceAccount).All Op.reads := by
  unfold checkAccountLimit
  split
  · trivial
  · refine .bind (countLiveHosts_reads _) fun live => ?_
    split <;> trivial

theorem spared_reads (flags : DeleteFlags) (host : Host) : (spared flags host).All Op.reads := by
  unfold spared
  split
  · trivial
  · split
    · unfold renewed
      split
      · trivial
      · exact .step trivial fun _ => trivial
    · trivial

theorem refresh_reads (id : HostId) : (refresh id).All Op.reads := by
  refine .step trivial fun row => ?_
  cases row <;> trivial

theorem commit_provisions {place : HostCommit} {id : HostId} {columns : HostColumns}
    (provisions : Op.provisions (.hosts (.update place id columns))) :
    (commit place id columns).All Op.provisions := by
  refine .step provisions fun matched => ?_
  cases matched <;> trivial

theorem markFailed_provisions {id : HostId} {secrets : Dict SecretEntry} (failure : Failure) :
    (markFailed id secrets failure).All Op.provisions :=
  .step trivial fun _ => commit_provisions trivial

theorem activate_provisions : (activate host).All Op.provisions := by
  refine .step trivial fun scanned => ?_
  cases scanned with
  | error failure =>
      dsimp only
      split
      · exact markFailed_provisions failure
      · trivial
  | ok knownHosts => exact .step trivial fun _ => .step trivial fun _ => commit_provisions trivial

theorem bootstrap_provisions {tailnet : Option String} {result : VMCreateResult} :
    (bootstrap deployment host vm tailnet result).All Op.provisions := by
  refine .step trivial fun _ => .bind (commit_provisions trivial) fun _ => ?_
  cases tailnet with
  | none => exact activate_provisions
  | some tailnet =>
      refine .step trivial fun waited => ?_
      cases waited with
      | error failure =>
          dsimp only
          split
          · exact markFailed_provisions failure
          · trivial
      | ok deviceId =>
          exact .step trivial fun _ => .bind (commit_provisions trivial) fun _ =>
            activate_provisions

theorem createVm_provisions {tailnet : Option String} {environment : Dict String}
    {setupScript : Option String} :
    (createVm deployment host vm tailnet environment setupScript).All Op.provisions := by
  refine .step trivial fun _ => .bind (commit_provisions trivial) fun _ => ?_
  split
  · exact markFailed_provisions _
  · refine .step trivial fun _ => .step trivial fun created => ?_
    cases created with
    | error failure =>
        dsimp only
        split
        · exact markFailed_provisions failure
        · trivial
    | ok result => exact bootstrap_provisions

theorem injectSecrets_provisions {tailnet : Option String} {environment : Dict String}
    {setupScript : Option String} :
    (injectSecrets deployment host vm tailnet environment setupScript).All Op.provisions := by
  refine .bind ((putEntries_reads _ _ _).mono fun _ => Op.provisions_of_reads) fun result => ?_
  dsimp only
  split
  · exact createVm_provisions
  · split
    · exact .bind (markFailed_provisions _) fun _ => trivial
    · split
      · exact markFailed_provisions _
      · trivial

theorem provision_provisions : (provision deployment host).All Op.provisions := by
  refine .step trivial fun _ => .bind (commit_provisions trivial) fun _ => ?_
  cases deployment.getVmProvider (some host.provider) with
  | error failure => trivial
  | ok vm =>
      simp only [ofExcept_ok, bind_eq_bind, done_bind]
      split
      · split
        · exact markFailed_provisions _
        · refine .step trivial fun issued => ?_
          cases issued with
          | error failure =>
              dsimp only
              split
              · exact markFailed_provisions failure
              · trivial
          | ok credentials => exact injectSecrets_provisions
      · exact injectSecrets_provisions

theorem stampLease_creates {initial : ℤ} :
    (stampLease deployment request vm host initial).All Op.creates :=
  .bind ((requestedLease_reads _ _).mono fun _ => Op.creates_of_reads) fun _ =>
    .step trivial fun _ => ⟨trivial, fun _ => trivial⟩

theorem createHost_creates {poolMember : Bool} :
    (createHost deployment request poolMember).All Op.creates := by
  have refreshes (id : HostId) : (refresh id).All Op.creates :=
    (refresh_reads id).mono fun _ => Op.creates_of_reads
  have provisioned {host : Host} : (provision deployment host).All Op.creates :=
    provision_provisions.mono fun _ => Op.creates_of_provisions
  unfold createHost
  cases deployment.getVmProvider request.provider with
  | error failure => trivial
  | ok vm =>
  simp only [ofExcept_ok, bind_eq_bind, done_bind]
  cases checkRequest deployment request vm with
  | error failure => trivial
  | ok _ =>
  simp only [ofExcept_ok, done_bind]
  refine .bind (resolveImage_reads.mono fun _ => Op.creates_of_reads) fun image => ?_
  refine .step trivial fun id => .step trivial fun now => ?_
  refine .bind ((checkProviderLimit_reads _).mono fun _ => Op.creates_of_reads) fun _ => ?_
  refine .step trivial fun inserted => ?_
  cases inserted with
  | error failure => trivial
  | ok _ =>
  simp only [ofExcept_ok, done_bind]
  refine .bind (refreshes _) fun _ => .bind provisioned fun _ =>
    .bind (refreshes _) fun row => ?_
  split
  · trivial
  · exact .bind stampLease_creates fun _ => refreshes _

theorem tryClaimPoolHost_obtains {provider : String} :
    (tryClaimPoolHost deployment request provider).All Op.obtains := by
  refine .step trivial fun now => ?_
  cases deployment.getVmProvider (some provider) with
  | error failure => trivial
  | ok vm =>
  simp only [ofExcept_ok, bind_eq_bind, done_bind]
  refine .step trivial fun found => ?_
  cases found with
  | none => trivial
  | some candidate =>
      exact .bind ((requestedLease_reads _ _).mono fun _ reads =>
        Op.obtains_of_creates (Op.creates_of_reads reads)) fun _ => ⟨trivial, fun _ => trivial⟩

theorem obtainHost_obtains : (obtainHost deployment request).All Op.obtains := by
  refine .bind ?_ fun warm => ?_
  · unfold warmHost
    dsimp only
    split
    · exact tryClaimPoolHost_obtains
    · trivial
  · cases warm with
    | some host => trivial
    | none => exact createHost_creates.mono fun _ => Op.obtains_of_creates

theorem lookupIdempotencyKey_all {good : Op → Prop} (keys : ∀ query, good (.keys query))
    (clock : good .clock) (get : ∀ id, good (.hosts (.get id))) (key : String)
    (serviceAccount : Option String) : (lookupIdempotencyKey key serviceAccount).All good := by
  refine .step (keys _) fun record => ?_
  cases record with
  | none => trivial
  | some record =>
      refine .step clock fun now => .bind ?_ fun host => ?_
      · split
        · exact ⟨get _, fun _ => trivial⟩
        · trivial
      · cases host with
        | none => exact .step (keys _) fun _ => trivial
        | some host =>
            dsimp only
            split <;> trivial

theorem lookupIdempotencyKey_idempotent (key : String) (serviceAccount : Option String) :
    (lookupIdempotencyKey key serviceAccount).All Op.idempotent :=
  lookupIdempotencyKey_all (fun _ => trivial) trivial (fun _ => trivial) key serviceAccount

theorem releaseIdempotencyLoser_all {good : Op → Prop} (clock : good .clock)
    (get : ∀ id, good (.hosts (.get id)))
    (dispose : ∀ id columns, good (.hosts (.update .disposal id columns))) :
    (releaseIdempotencyLoser deployment host).All good := by
  have commits (id : HostId) (columns : HostColumns) : (commit .disposal id columns).All good := by
    refine .step (dispose id columns) fun matched => ?_
    cases matched <;> trivial
  refine .step (get _) fun fresh => ?_
  cases fresh with
  | none => trivial
  | some fresh =>
  refine .step clock fun now => ?_
  split
  · cases deployment.getVmProvider (some fresh.provider) with
    | error failure => trivial
    | ok vm => exact commits _ _
  · exact commits _ _

theorem releaseIdempotencyLoser_idempotent :
    (releaseIdempotencyLoser deployment host).All Op.idempotent :=
  releaseIdempotencyLoser_all trivial (fun _ => trivial) fun _ _ => trivial

theorem getOrCreateHost_idempotent : (getOrCreateHost deployment request).All Op.idempotent := by
  have limited : (checkAccountLimit deployment request.serviceAccount).All Op.idempotent :=
    (checkAccountLimit_reads _).mono fun _ => Op.idempotent_of_reads
  have obtained : (obtainHost deployment request).All Op.idempotent :=
    obtainHost_obtains.mono fun _ => Op.idempotent_of_obtains
  unfold getOrCreateHost
  cases checkProvider deployment request.provider with
  | error failure => trivial
  | ok _ =>
  simp only [ofExcept_ok, bind_eq_bind, done_bind]
  split
  · exact .bind limited fun _ => obtained
  · refine .bind (lookupIdempotencyKey_idempotent _ _) fun existing => ?_
    cases existing with
    | some existing => trivial
    | none =>
    refine .bind limited fun _ => .bind obtained fun host =>
      .step trivial fun now => .step trivial fun recorded => ?_
    split
    · trivial
    · refine .bind releaseIdempotencyLoser_idempotent fun _ =>
        .bind (lookupIdempotencyKey_idempotent _ _) fun winner => ?_
      cases winner <;> trivial

theorem tearDown_deletes {id : HostId} {flags : DeleteFlags} :
    (tearDown deployment flags host).All (Op.deletes id) := by
  unfold tearDown
  split
  · refine .bind ?_ fun _ => ?_
    · unfold releaseDevice
      split
      · refine .step trivial fun released => ?_
        cases released with
        | error failure => trivial
        | ok _ =>
            refine .step trivial fun _ => .step trivial fun matched => ?_
            cases matched <;> trivial
      · trivial
    · unfold removeVm
      cases deployment.getVmProvider (some host.provider) with
      | error failure => trivial
      | ok vm =>
      simp only [ofExcept_ok, bind_eq_bind, done_bind]
      refine .step trivial fun forgotten => ?_
      cases forgotten with
      | error failure => trivial
      | ok _ =>
      refine .step trivial fun removed => ?_
      cases removed with
      | ok _ => trivial
      | error failure =>
          dsimp only
          split <;> trivial
  · trivial

theorem spared_deletes {id : HostId} {flags : DeleteFlags} :
    (spared flags host).All (Op.deletes id) := by
  unfold spared
  split
  · trivial
  · split
    · unfold renewed
      split
      · trivial
      · exact .step trivial fun _ => trivial
    · trivial

theorem deleteHost_deletes {id : HostId} {flags : DeleteFlags} :
    (deleteHost deployment id flags).All (Op.deletes id) := by
  refine .step rfl fun locked => ?_
  cases locked with
  | none => trivial
  | some host =>
  refine .bind spared_deletes fun spares => ?_
  split
  · trivial
  split
  · trivial
  exact .bind tearDown_deletes fun _ => .step trivial fun _ => trivial

theorem excessIds_fills (targets counts : Dict ℕ) (now : ℤ) (providers : List String) :
    (Pool.excessIds targets counts now providers).All Op.fills := by
  induction providers with
  | nil => trivial
  | cons provider rest ih =>
      unfold Pool.excessIds
      dsimp only
      split
      · exact ih
      · exact .step trivial fun _ => .bind ih fun _ => trivial

theorem survey_fills (targets : Dict ℕ) (now : ℤ) : (Pool.survey targets now).All Op.fills :=
  .closing (.step trivial fun _ => .bind (excessIds_fills _ _ _ _) fun _ => trivial)
    ⟨trivial, fun _ => trivial⟩

theorem topUp_fills (batch : List String) (failures created : ℕ) :
    (Pool.topUp deployment batch failures created).All Op.fills := by
  induction batch generalizing failures created with
  | nil => trivial
  | cons provider rest ih =>
      refine .bind (.attempt (.closing (.step trivial fun now => ?_) ⟨trivial, fun _ => trivial⟩))
        fun outcome => ?_
      · exact createHost_creates.mono fun _ => Op.fills_of_creates
      · cases outcome with
        | ok host => exact ih _ _
        | error failure =>
            dsimp only
            split
            · trivial
            · exact ih _ _

end HostService

end Drukbox
