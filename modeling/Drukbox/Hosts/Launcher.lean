import Drukbox.Hosts.Ownership
import Drukbox.Hosts.Claimant
import Mathlib.Data.Set.Insert

/-!
# The contract of a launch

A host goes through its statuses one by one, and `create_vm` begins only after the fingerprints of
all its placeholders are in the row.  Nobody but the launch writes the columns of a launch, and a
renewal works on a row that is locked and was launched.
-/

namespace Drukbox

open Await Program HostService

/-- The columns of a launch: no update of another function sets them. -/
structure HostColumns.Spares (columns : HostColumns) : Prop where
  status : columns.status = none
  secrets : columns.secrets = none
  activatedAt : columns.activatedAt = none
  lastError : columns.lastError = none

/-- A placeholder that a provider took for a service, and the sandbox that it took it for. -/
abbrev Handover := String × Service × Placeholder

/-- What a task knows of the host that it launches, and of the row that it locked. -/
structure Launcher where
  /-- The row that it inserted, with its own updates. -/
  own : Option Host := none
  /-- The row that it locked, in the transaction that is open. -/
  held : Option Host := none
  /-- The placeholders that a provider took from it. -/
  handed : Set Handover := ∅

/-- A placeholder was handed over for the entry, and the entry has its fingerprint. -/
def Handed (sha256 : String → String) (handed : Set Handover) (id : HostId) (sandbox name : String)
    (entry : SecretEntry) : Prop :=
  ∃ service placeholder, (sandbox, service, placeholder) ∈ handed ∧
    Catalog.service name entry = some service ∧ placeholder.hostId = id ∧
    placeholder.service = name ∧
    entry.placeholderFingerprint = some (placeholder.fingerprint sha256)

theorem Handed.mono {sha256 : String → String} {handed more : Set Handover} {id : HostId}
    {sandbox name : String} {entry : SecretEntry}
    (given : Handed sha256 handed id sandbox name entry) (kept : handed ⊆ more) :
    Handed sha256 more id sandbox name entry := by
  obtain ⟨service, placeholder, member, rest⟩ := given
  exact ⟨service, placeholder, kept member, rest⟩

/-- Every entry was handed over. -/
def AllHanded (sha256 : String → String) (handed : Set Handover) (id : HostId) (sandbox : String)
    (secrets : Dict SecretEntry) : Prop :=
  ∀ name entry, secrets.lookup name = some entry → Handed sha256 handed id sandbox name entry

namespace Launcher

/-- The status that comes next in a launch. -/
def successor : HostStatus → Option HostStatus
  | .provisioning => some .creatingNetwork
  | .creatingNetwork => some .creatingVm
  | .creatingVm => some .bootstrapping
  | .bootstrapping => some .active
  | .active | .error => none

/-- An update that takes a launch on: to the next status, or with the device of a host that boots.
The fingerprints come with `CREATING_VM`, the time of activation with `ACTIVE`. -/
structure Progresses (sha256 : String → String) (phase : Launcher) (mine : Host)
    (columns : HostColumns) : Prop where
  lastError : columns.lastError = none
  moves : ∀ next, columns.status = some next → successor mine.status = some next
  settled : columns.status = none → mine.status = .bootstrapping
  secrets : columns.status ≠ some .creatingVm → columns.secrets = none
  handed : columns.status = some .creatingVm → ∃ sandbox secrets, columns.secrets = some secrets ∧
    AllHanded sha256 phase.handed mine.id sandbox secrets
  quiet : columns.status ≠ some .active → columns.activatedAt = none
  activated : columns.status = some .active → ∃ instant, columns.activatedAt = some (some instant)

/-- A launch that has begun. -/
def Begun (status : HostStatus) : Prop :=
  status = .creatingNetwork ∨ status = .creatingVm ∨ status = .bootstrapping

/-- An update that ends a launch with its error.  From `CREATING_VM` on it keeps the entries. -/
structure Fails (mine : Host) (columns : HostColumns) : Prop where
  begun : Begun mine.status
  status : columns.status = some .error
  secrets : mine.status = .creatingNetwork ∨ columns.secrets = some mine.secrets
  lastError : ∃ error, columns.lastError = some error ∧ error ≠ ""
  activatedAt : columns.activatedAt = none

theorem Progresses.congr {sha256 : String → String} {phase : Launcher} {mine row : Host}
    {columns : HostColumns} (progresses : phase.Progresses sha256 mine columns)
    (id : mine.id = row.id) (status : row.status = mine.status) :
    phase.Progresses sha256 row columns where
  lastError := progresses.lastError
  moves next moves := status ▸ progresses.moves next moves
  settled silent := status.trans (progresses.settled silent)
  secrets := progresses.secrets
  handed creates := id ▸ progresses.handed creates
  quiet := progresses.quiet
  activated := progresses.activated

theorem Fails.congr {mine row : Host} {columns : HostColumns} (fails : Fails mine columns)
    (status : row.status = mine.status) (secrets : row.secrets = mine.secrets) :
    Fails row columns where
  begun := status ▸ fails.begun
  status := fails.status
  secrets := by
    rw [status, secrets]
    exact fails.secrets
  lastError := fails.lastError
  activatedAt := fails.activatedAt

/-- The steps on `hosts` that a task may take. -/
def allowsHosts (sha256 : String → String) (phase : Launcher) : HostQuery → Prop
  | .insert host _ =>
      host.status = .provisioning ∧ host.lastError = "" ∧ host.activatedAt = none
  | .update .progress id columns =>
      ∃ mine, phase.own = some mine ∧ mine.id = id ∧ phase.Progresses sha256 mine columns
  | .update .failure id columns =>
      ∃ mine, phase.own = some mine ∧ mine.id = id ∧ Fails mine columns
  | .update .renewal id columns =>
      columns.Spares ∧ ∃ row, phase.held = some row ∧ row.id = id ∧ row.status.renewable
  | .update _ _ columns => columns.Spares
  | .get _ | .lock _ | .expired _ | .warm _ | .excess _ _ _ | .count _ _ | .candidate _ _ _
  | .claim _ _ _ _ | .stamp _ _ _ _ | .delete _ => True

/-- The rows that a task counts on. -/
def expectsHosts : (query : HostQuery) → query.Answer → Prop
  | .get id, some row | .lock id, some row => row.id = id
  | _, _ => True

/-- What a statement on `hosts` teaches a task.  It forgets the row that it locked before. -/
def nextHosts (phase : Launcher) : (query : HostQuery) → query.Answer → Launcher
  | .lock _, row => { phase with held := row }
  | .insert host _, .ok () => { phase with own := some host, held := none }
  | .update .progress _ columns, true | .update .failure _ columns, true =>
      { phase with own := phase.own.map (·.set columns), held := none }
  | .get _, _ | .expired _, _ | .warm _, _ | .excess _ _ _, _ | .count _ _, _
  | .candidate _ _ _, _ | .insert _ _, .error _ | .claim _ _ _ _, _ | .update _ _ _, _
  | .stamp _ _ _ _, _ | .delete _, _ => { phase with held := none }

/-- The contract of every task of the host service. -/
def contract (sha256 : String → String) : Contract Op.Answer Launcher where
  allows phase
    | .hosts query => phase.allowsHosts sha256 query
    | .vm (.start host environment _) =>
        (∃ lines, Environment.getPersist environment = .ok lines) ∧
          (∃ mine, phase.own = some mine ∧ mine.id = host.id ∧ mine.status = .creatingVm ∧
            mine.secrets = host.secrets) ∧
          AllHanded sha256 phase.handed host.id host.name host.secrets
    | .clock | .uuid7 | .advisoryLock _ | .rollback | .keys _ | .templates _ | .outside _
    | .vm _ => True
  expects _
    | .hosts query => expectsHosts query
    | .clock | .uuid7 | .advisoryLock _ | .rollback | .keys _ | .templates _ | .outside _
    | .vm _ => fun _ => True
  next phase
    | .clock => fun _ => phase
    | .hosts query => phase.nextHosts query
    | .outside (.putSecret sandbox service placeholder _) => fun taken =>
        match taken with
        | .ok _ =>
            { phase with
              handed := insert (sandbox, service, placeholder) phase.handed
              held := none }
        | .error _ => { phase with held := none }
    | .uuid7 | .advisoryLock _ | .rollback | .keys _ | .templates _ | .outside _ | .vm _ =>
        fun _ => { phase with held := none }

variable {deployment : Deployment} {sha256 : String → String} {phase : Launcher} {host : Host}
  {id : HostId} {reached : Host → Prop}

/-- The own row stays, and no placeholder is forgotten. -/
def Keeps (phase later : Launcher) : Prop :=
  later.own = phase.own ∧ phase.handed ⊆ later.handed

theorem Keeps.refl (phase : Launcher) : Keeps phase phase :=
  ⟨rfl, subset_rfl⟩

theorem Keeps.trans {third later : Launcher} (first : Keeps phase later)
    (second : Keeps later third) :
    Keeps phase third :=
  ⟨second.1.trans first.1, first.2.trans second.2⟩

/-- What leaves the columns of every launch alone. -/
def plain : Op → Prop
  | .hosts (.update .disposal _ columns) | .hosts (.update .deviceRelease _ columns) =>
      columns.Spares
  | .hosts (.insert _ _) | .hosts (.update _ _ _) | .vm (.start _ _ _) => False
  | _ => True

theorem plain_of_reads {op : Op} (reads : op.reads) : plain op := by
  cases op with
  | hosts query =>
      cases query with
      | insert | update => cases reads
      | get | lock | expired | warm | excess | count | candidate | claim | stamp | delete => trivial
  | clock | advisoryLock | outside | templates => trivial
  | uuid7 | rollback | keys | vm => cases reads

theorem plain_allowed {op : Op} (silent : plain op) :
    (contract sha256).allows phase op ∧
      ∀ answer, Keeps phase ((contract sha256).next phase op answer) := by
  have kept : phase.handed ⊆ phase.handed := subset_rfl
  cases op with
  | hosts query =>
      cases query with
      | update place id columns =>
          cases place <;> first | exact ⟨silent, fun _ => ⟨rfl, kept⟩⟩ | cases silent
      | insert => cases silent
      | get | lock | expired | warm | excess | count | candidate | claim | stamp | delete =>
          exact ⟨trivial, fun _ => ⟨rfl, kept⟩⟩
  | outside call =>
      cases call with
      | putSecret vm service placeholder value =>
          refine ⟨trivial, fun taken => ?_⟩
          cases taken with
          | ok added => exact ⟨rfl, Set.subset_insert _ _⟩
          | error failure => exact ⟨rfl, kept⟩
      | issueJoinCredentials | mintSecret | shuffle | fetchSecret | waitForDevice | scanKnownHosts
      | releaseDevice | deleteSecrets | refreshBaseImage | buildTemplateImage
      | deleteTemplateImage => exact ⟨trivial, fun _ => ⟨rfl, kept⟩⟩
  | vm call => cases call <;> first | exact ⟨trivial, fun _ => ⟨rfl, kept⟩⟩ | cases silent
  | clock | uuid7 | advisoryLock | rollback | keys | templates =>
      exact ⟨trivial, fun _ => ⟨rfl, kept⟩⟩

theorem plain_follows {α : Type} {program : Task α} (all : program.All plain) :
    Follows (contract sha256) (Returns fun later _ => Keeps phase later) phase program := by
  refine (Follows.of_all all (Keeps phase) (.refl phase) fun op later silent kept => ?_).weaken
    fun later outcome kept => ?_
  · obtain ⟨allowed, keeps⟩ := plain_allowed silent
    exact ⟨allowed, fun answer _ => kept.trans (keeps answer)⟩
  · cases outcome with
    | ok value => exact kept
    | error error => trivial

theorem reads_follows {α : Type} {program : Task α} (all : program.All Op.reads) :
    Follows (contract sha256) (Returns fun later _ => Keeps phase later) phase program :=
  plain_follows (all.mono fun _ => plain_of_reads)

/-- The task inserted the host, and has brought it to a state. -/
def Owns (id : HostId) (reached : Host → Prop) (phase : Launcher) : Prop :=
  ∃ mine, phase.own = some mine ∧ mine.id = id ∧ reached mine

theorem Owns.keeps {later : Launcher} (owns : Owns id reached phase) (kept : Keeps phase later) :
    Owns id reached later := by
  obtain ⟨mine, owned, same, reached⟩ := owns
  exact ⟨mine, kept.1.trans owned, same, reached⟩

/-- The row has the status, with the entries that the launch goes on with. -/
def Boots (status : HostStatus) (secrets : Dict SecretEntry) (mine : Host) : Prop :=
  mine.status = status ∧ mine.secrets = secrets

theorem commit_follows {place : HostCommit} {columns : HostColumns}
    (allowed : phase.allowsHosts sha256 (.update place id columns)) :
    Follows (contract sha256)
      (Returns fun later _ => later = phase.nextHosts (.update place id columns) true) phase
      (commit place id columns) := by
  refine ⟨allowed, fun matched _ => ?_⟩
  cases matched with
  | true => exact rfl
  | false => trivial

theorem markFailed_follows {secrets : Dict SecretEntry} {failure : Failure} {mine : Host}
    (owned : phase.own = some mine) (same : mine.id = id) (begun : Begun mine.status)
    (kept : mine.status = .creatingNetwork ∨ secrets = mine.secrets) :
    Follows (contract sha256) (Returns fun _ _ => True) phase (markFailed id secrets failure) := by
  refine .step trivial fun now _ => (commit_follows ?_).any
  exact ⟨mine, owned, same, begun, rfl, kept.imp_right (congrArg some),
    ⟨_, rfl, failure.describe_ne_empty⟩, rfl⟩

/-- A launch that has not reached `CREATING_VM` may fail with any entries. -/
theorem markFailed_early {secrets : Dict SecretEntry} {failure : Failure}
    (owns : Owns id (·.status = .creatingNetwork) phase) :
    Follows (contract sha256) (Returns fun _ _ => True) phase (markFailed id secrets failure) := by
  obtain ⟨mine, owned, same, status⟩ := owns
  exact markFailed_follows owned same (.inl status) (.inl status)

/-- From there on it fails with the entries that it has. -/
theorem markFailed_late {secrets : Dict SecretEntry} {failure : Failure} {status : HostStatus}
    (owns : Owns id (Boots status secrets) phase) (begun : Begun status) :
    Follows (contract sha256) (Returns fun _ _ => True) phase (markFailed id secrets failure) := by
  obtain ⟨mine, owned, same, rfl, stored⟩ := owns
  exact markFailed_follows owned same begun (.inr stored.symm)

theorem advance_follows {columns : HostColumns} {mine : Host} {next : HostStatus}
    (owned : phase.own = some mine) (advances : columns.status = some next)
    (successor : successor mine.status = some next) (lastError : columns.lastError = none)
    (secrets : next ≠ .creatingVm → columns.secrets = none)
    (handed : next = .creatingVm → ∃ sandbox secrets, columns.secrets = some secrets ∧
      AllHanded sha256 phase.handed mine.id sandbox secrets)
    (quiet : next ≠ .active → columns.activatedAt = none)
    (activated : next = .active → ∃ instant, columns.activatedAt = some (some instant)) :
    Follows (contract sha256)
      (Returns fun later _ => later.own = some (mine.set columns) ∧ later.handed = phase.handed)
      phase (commit .progress mine.id columns) := by
  refine (commit_follows ?_).returns ?_
  · refine ⟨mine, owned, rfl, ?_⟩
    constructor
    · exact lastError
    · intro other moves
      obtain rfl : next = other := by simpa [advances] using moves
      exact successor
    · simp [advances]
    · simpa [advances] using secrets
    · simpa [advances] using handed
    · simpa [advances] using quiet
    · simpa [advances] using activated
  · rintro later _ rfl
    exact ⟨by simp [nextHosts, owned], rfl⟩

theorem activate_follows (owns : Owns host.id (Boots .bootstrapping host.secrets) phase) :
    Follows (contract sha256) (Returns fun _ _ => True) phase (activate host) := by
  refine .step trivial fun scanned _ => ?_
  cases scanned with
  | error failure =>
      dsimp only
      split
      · exact markFailed_late owns (.inr (.inr rfl))
      · trivial
  | ok knownHosts =>
      refine .step trivial fun activatedAt _ => .step trivial fun updatedAt _ => ?_
      obtain ⟨mine, owned, same, status, -⟩ := owns
      rw [← same]
      exact Follows.any (advance_follows owned rfl (by rw [status]; rfl) rfl (fun _ => rfl)
        (by simp) (by simp) fun _ => ⟨activatedAt, rfl⟩)

theorem bootstrap_follows {vm : VMProvider} {tailnet : Option String} {result : VMCreateResult}
    (owns : Owns host.id (Boots .creatingVm host.secrets) phase) :
    Follows (contract sha256) (Returns fun _ _ => True) phase
      (bootstrap deployment host vm tailnet result) := by
  obtain ⟨mine, owned, same, status, stored⟩ := owns
  refine .step trivial fun updatedAt _ => ?_
  rw [← same]
  refine .seq (advance_follows owned rfl (by rw [status]; rfl) rfl (fun _ => rfl) (by simp)
    (fun _ => rfl) (by simp)) fun later value moved => ?_
  obtain ⟨moves, -⟩ := moved
  have boots : Owns host.id (Boots .bootstrapping host.secrets) later :=
    ⟨_, moves, same, rfl, stored⟩
  rw [same]
  cases tailnet with
  | none => exact activate_follows boots
  | some tailnet =>
      refine .step trivial fun waited _ => ?_
      cases waited with
      | error failure =>
          dsimp only
          split
          · exact markFailed_late boots (.inr (.inr rfl))
          · trivial
      | ok deviceId =>
          obtain ⟨mine, owned, same, status, stored⟩ := boots
          refine .step trivial fun updatedAt _ =>
            .seq (commit_follows ?_) fun later value moved => ?_
          · refine ⟨mine, owned, same, rfl, by simp, fun _ => status, fun _ => rfl, by simp,
              fun _ => rfl, by simp⟩
          · subst moved
            exact activate_follows ⟨mine.set
              { tailscaleDeviceId := some (some deviceId), updatedAt },
              congrArg (Option.map _) owned, same, status, stored⟩

theorem createVm_follows {vm : VMProvider} {tailnet : Option String} {environment : Dict String}
    {setupScript : Option String} (owns : Owns host.id (·.status = .creatingNetwork) phase)
    (handed : AllHanded sha256 phase.handed host.id host.name host.secrets)
    (checked : ∃ lines, Environment.getPersist environment = .ok lines) :
    Follows (contract sha256) (Returns fun _ _ => True) phase
      (createVm deployment host vm tailnet environment setupScript) := by
  obtain ⟨mine, owned, same, status⟩ := owns
  refine .step trivial fun updatedAt _ => ?_
  rw [← same] at handed ⊢
  refine .seq (advance_follows owned rfl (by rw [status]; rfl) rfl (by simp)
    (fun _ => ⟨_, _, rfl, handed⟩) (fun _ => rfl) (by simp)) fun later value moved => ?_
  obtain ⟨moves, still⟩ := moved
  have boots : Owns host.id (Boots .creatingVm host.secrets) later := ⟨_, moves, same, rfl, rfl⟩
  rw [same] at handed ⊢
  split
  · exact markFailed_late boots (.inr (.inl rfl))
  · refine .step ⟨checked, ⟨_, moves, same, rfl, rfl⟩, still.symm ▸ handed⟩ fun _ _ =>
      .step trivial fun created _ => ?_
    cases created with
    | error failure =>
        dsimp only
        split
        · exact markFailed_late boots (.inr (.inl rfl))
        · trivial
    | ok result => exact bootstrap_follows boots

theorem currentValue_plain (entry : SecretEntry) : (currentValue entry).All plain :=
  (currentValue_reads entry).mono fun _ => plain_of_reads

/-- The loop of `put_secrets` hands a placeholder over for each entry that is left, and writes its
fingerprint. -/
theorem putEntries_follows {vm : VMProvider} (entries secrets : Dict SecretEntry)
    (environment : Dict String)
    (pending : ∀ name entry, secrets.lookup name = some entry →
      name ∈ entries.map Prod.fst ∨ Handed sha256 phase.handed host.id host.name name entry)
    (hash : deployment.sha256 = sha256) :
    Follows (contract sha256)
      (Returns fun later result => Keeps phase later ∧ ∀ added, result.2 = .ok added →
        AllHanded sha256 later.handed host.id host.name result.1) phase
      (putEntries deployment host vm entries secrets environment) := by
  induction entries generalizing phase secrets environment with
  | nil =>
      refine ⟨.refl phase, fun _ _ name entry found => ?_⟩
      rcases pending name entry found with left | given
      · cases left
      · exact given
  | cons item rest ih =>
      obtain ⟨name, entry⟩ := item
      refine .step trivial fun secret _ => ?_
      have current : ((if vm.needsValue then currentValue entry else pure (.ok "")) :
          Task (Except Failure String)).All plain := by
        split
        · exact currentValue_plain entry
        · trivial
      refine .seq (plain_follows current) fun later value kept => ?_
      cases value with
      | error failure => exact ⟨kept, by simp⟩
      | ok value =>
      cases resolved : Catalog.service name entry with
      | none => exact ⟨kept, by simp⟩
      | some service =>
      refine .step trivial fun taken _ => ?_
      cases taken with
      | error failure => exact ⟨kept, by simp⟩
      | ok added =>
      have more : Keeps later
          { later with
            handed := insert (host.name, service, ⟨host.id, name, secret⟩) later.handed
            held := none } :=
        ⟨rfl, Set.subset_insert _ _⟩
      refine (ih _ _ ?_).returns fun last result ended =>
        ⟨kept.trans (more.trans ended.1), ended.2⟩
      intro other stored found
      rw [Dict.lookup_set] at found
      split at found
      · next same =>
          obtain rfl := Option.some.inj found
          subst same
          exact .inr ⟨service, _, Set.mem_insert _ _, resolved, rfl, rfl, by rw [hash]⟩
      · next different =>
          rcases pending other stored found with left | given
          · rcases List.mem_cons.mp left with same | left
            · exact absurd same different
            · exact .inl left
          · exact .inr (given.mono fun _ member => Set.mem_insert_of_mem _ (kept.2 member))

theorem injectSecrets_follows {vm : VMProvider} {tailnet : Option String}
    {environment : Dict String} {setupScript : Option String}
    (owns : Owns host.id (·.status = .creatingNetwork) phase) (hash : deployment.sha256 = sha256) :
    Follows (contract sha256) (Returns fun _ _ => True) phase
      (injectSecrets deployment host vm tailnet environment setupScript) := by
  have pending (name : String) (entry : SecretEntry)
      (found : host.secrets.lookup name = some entry) :
      name ∈ host.secrets.map Prod.fst ∨
        Handed sha256 phase.handed host.id host.name name entry :=
    .inl (List.mem_map_of_mem (Dict.mem_of_lookup found))
  refine .seq (putEntries_follows host.secrets host.secrets [] pending hash) ?_
  rintro later ⟨secrets, outcome⟩ ⟨kept, given⟩
  have owns := owns.keeps kept
  have refused (failure : Failure) : Follows (contract sha256) (Returns fun _ _ => True) later
      (if failure.kind = .missingSecret then
          (markFailed host.id secrets failure).bind fun _ => (.raise failure : Task Unit)
        else if failure.kind.isIssuerError ∨ failure.kind.isProviderError ∨
            failure.kind = .value then
          markFailed host.id secrets failure
        else .raise failure) := by
    have fails : Follows (contract sha256) (Returns fun _ _ => True) later
        (markFailed host.id secrets failure) :=
      markFailed_early owns
    split
    · exact .seq fails fun _ _ _ => trivial
    · split
      · exact fails
      · trivial
  cases outcome with
  | error failure => exact refused failure
  | ok added =>
      cases persisted : Environment.getPersist (environment.update added) with
      | error failure =>
          simp only [Bind.bind, Except.bind, persisted]
          exact refused failure
      | ok lines =>
          simp only [Bind.bind, Except.bind, persisted, Pure.pure, Except.pure]
          exact createVm_follows owns (given added rfl) ⟨lines, persisted⟩

theorem provision_follows (owns : Owns host.id (·.status = .provisioning) phase)
    (hash : deployment.sha256 = sha256) :
    Follows (contract sha256) (Returns fun _ _ => True) phase (provision deployment host) := by
  obtain ⟨mine, owned, same, status⟩ := owns
  refine .step trivial fun updatedAt _ => ?_
  rw [← same]
  refine .seq (advance_follows owned rfl (by rw [status]; rfl) rfl (fun _ => rfl) (by simp)
    (fun _ => rfl) (by simp)) fun later value moved => ?_
  rw [same]
  have owns : Owns host.id (·.status = .creatingNetwork) later := ⟨_, moved.1, same, rfl⟩
  cases deployment.getVmProvider (some host.provider) with
  | error failure => trivial
  | ok vm =>
      simp only [ofExcept_ok, bind_eq_bind, done_bind]
      split
      · split
        · exact markFailed_early owns
        · refine .step trivial fun issued _ => ?_
          cases issued with
          | error failure =>
              dsimp only
              split
              · exact markFailed_early owns
              · trivial
          | ok credentials => exact injectSecrets_follows owns hash
      · exact injectSecrets_follows owns hash

theorem refresh_follows :
    Follows (contract sha256) (Returns fun later row => Keeps phase later ∧ row.id = id) phase
      (refresh id) := by
  refine .step trivial fun row expected => ?_
  cases row with
  | none => trivial
  | some row => exact ⟨.refl phase, expected⟩

theorem createHost_follows {request : HostRequest} {poolMember : Bool}
    (hash : deployment.sha256 = sha256) :
    Follows (contract sha256) (Returns fun _ _ => True) phase
      (createHost deployment request poolMember) := by
  unfold createHost
  cases deployment.getVmProvider request.provider with
  | error failure => trivial
  | ok vm =>
  simp only [ofExcept_ok, bind_eq_bind, done_bind]
  cases checkRequest deployment request vm with
  | error failure => trivial
  | ok _ =>
  simp only [ofExcept_ok, done_bind]
  refine .seq (reads_follows resolveImage_reads) fun later image _ => ?_
  refine .step trivial fun id _ => .step trivial fun now _ => ?_
  refine .seq (reads_follows (checkProviderLimit_reads _)) fun later _ _ => ?_
  refine .step ⟨rfl, rfl, rfl⟩ fun inserted _ => ?_
  cases inserted with
  | error failure => trivial
  | ok _ =>
  simp only [ofExcept_ok, done_bind]
  refine .seq refresh_follows fun later host fresh => ?_
  obtain ⟨kept, same⟩ := fresh
  have owns : Owns host.id (·.status = .provisioning) later := ⟨_, kept.1, same.symm, rfl⟩
  refine .seq (provision_follows owns hash) fun later _ _ => ?_
  refine .seq refresh_follows fun later provisioned _ => ?_
  split
  · trivial
  refine .seq (?_ : Follows _ (Returns fun _ _ => True) _ _) fun _ _ _ => refresh_follows.any
  refine .seq (reads_follows (requestedLease_reads _ _)) fun _ _ _ => ?_
  exact .step trivial fun updatedAt _ => .step trivial fun _ _ => trivial

end Launcher

namespace HostService

variable {deployment : Deployment}

open Launcher (plain plain_of_reads)

theorem tryClaimPoolHost_plain {request : HostRequest} {provider : String} :
    (tryClaimPoolHost deployment request provider).All plain := by
  refine .step trivial fun now => ?_
  cases deployment.getVmProvider (some provider) with
  | error failure => trivial
  | ok vm =>
  refine .step trivial fun found => ?_
  cases found with
  | none => trivial
  | some candidate =>
      exact .bind ((requestedLease_reads _ _).mono fun _ => plain_of_reads) fun _ =>
        ⟨trivial, fun _ => trivial⟩

theorem lookupIdempotencyKey_plain (key : String) (serviceAccount : Option String) :
    (lookupIdempotencyKey key serviceAccount).All plain :=
  lookupIdempotencyKey_all (fun _ => trivial) trivial (fun _ => trivial) key serviceAccount

theorem commit_plain {place : HostCommit} {id : HostId} {columns : HostColumns}
    (spares : plain (.hosts (.update place id columns))) : (commit place id columns).All plain := by
  refine .step spares fun matched => ?_
  cases matched <;> trivial

theorem releaseIdempotencyLoser_plain {host : Host} :
    (releaseIdempotencyLoser deployment host).All plain := by
  refine .step trivial fun row => ?_
  cases row with
  | none => trivial
  | some fresh =>
  refine .step trivial fun now => ?_
  split
  · cases deployment.getVmProvider (some fresh.provider) with
    | error failure => trivial
    | ok vm => exact commit_plain ⟨rfl, rfl, rfl, rfl⟩
  · exact commit_plain ⟨rfl, rfl, rfl, rfl⟩

theorem deleteHost_plain {id : HostId} {flags : DeleteFlags} :
    (deleteHost deployment id flags).All plain := by
  have released (host : Host) : (releaseDevice deployment host).All plain := by
    unfold releaseDevice
    split
    · refine .step trivial fun released => ?_
      cases released with
      | error failure => trivial
      | ok _ => exact .step trivial fun _ => commit_plain ⟨rfl, rfl, rfl, rfl⟩
    · trivial
  have removed (host : Host) : (removeVm deployment host).All plain := by
    unfold removeVm
    cases deployment.getVmProvider (some host.provider) with
    | error failure => trivial
    | ok vm =>
    simp only [ofExcept_ok, bind_eq_bind, done_bind]
    refine .step trivial fun forgotten => ?_
    cases forgotten with
    | error failure => trivial
    | ok _ =>
    refine .step trivial fun removed => ?_
    cases removed with
    | ok _ => trivial
    | error failure =>
        dsimp only
        split <;> trivial
  have torn (host : Host) : (tearDown deployment flags host).All plain := by
    unfold tearDown
    split
    · exact .bind (released host) fun _ => removed host
    · trivial
  refine .step trivial fun locked => ?_
  cases locked with
  | none => trivial
  | some host =>
  refine .bind ((spared_reads flags host).mono fun _ => plain_of_reads) fun spares => ?_
  split
  · trivial
  split
  · trivial
  exact .bind (torn host) fun _ => .step trivial fun _ => trivial

theorem inSession_plain {α : Type} {program : Task α} (all : program.All plain) :
    (inSession program).All plain :=
  .closing all ⟨trivial, fun _ => trivial⟩

theorem reapEach_plain (ids : List HostId) : (reapEach deployment ids).All plain :=
  reapEach_of (fun _ _ => inSession_plain deleteHost_plain) ids

theorem shedEach_plain (ids : List HostId) (removed : ℕ) :
    (Pool.shedEach deployment ids removed).All plain :=
  shedEach_of (fun _ _ => inSession_plain deleteHost_plain) ids removed

end HostService

namespace Launcher

variable {deployment : Deployment} {sha256 : String → String} {phase : Launcher} {host : Host}
  {request : HostRequest}

theorem renewHost_follows {id : HostId} {expiresAt : Option ℤ} :
    Follows (contract sha256) (Returns fun _ _ => True) phase
      (renewHost deployment id expiresAt) := by
  refine .step trivial fun locked expected => ?_
  cases locked with
  | none => trivial
  | some host =>
  dsimp only
  split
  · trivial
  split
  · trivial
  next renewable =>
  cases deployment.getVmProvider (some host.provider) with
  | error failure => trivial
  | ok vm =>
  simp only [ofExcept_ok, bind_eq_bind, done_bind]
  have unchanged : Follows (contract sha256)
      (Returns fun later (_ : Option ℤ) => later = { phase with held := some host })
      { phase with held := some host } (requestedLease deployment false expiresAt) := by
    cases expiresAt with
    | some expiresAt => rfl
    | none => exact .step trivial fun now _ => rfl
  refine .seq unchanged ?_
  rintro _ requested rfl
  refine .step trivial fun updatedAt _ => .seq (commit_follows ?_) fun later _ _ => ?_
  · exact ⟨⟨rfl, rfl, rfl, rfl⟩, host, rfl, expected, by simpa using renewable⟩
  · exact refresh_follows.any

theorem getOrCreateHost_follows (hash : deployment.sha256 = sha256) :
    Follows (contract sha256) (Returns fun _ _ => True) phase
      (getOrCreateHost deployment request) := by
  have limits {later : Launcher} : Follows (contract sha256) (Returns fun _ _ => True) later
      (checkAccountLimit deployment request.serviceAccount) :=
    (reads_follows (checkAccountLimit_reads _)).any
  have obtains {later : Launcher} : Follows (contract sha256) (Returns fun _ _ => True) later
      (obtainHost deployment request) := by
    refine .seq (?_ : Follows _ (Returns fun _ _ => True) _ _) fun last found _ => ?_
    · unfold warmHost
      dsimp only
      split
      · exact (plain_follows tryClaimPoolHost_plain).any
      · trivial
    · cases found with
      | some host => trivial
      | none => exact createHost_follows hash
  unfold getOrCreateHost
  cases checkProvider deployment request.provider with
  | error failure => trivial
  | ok _ =>
  simp only [ofExcept_ok, bind_eq_bind, done_bind]
  split
  · exact .seq limits fun _ _ _ => obtains
  · refine .seq (plain_follows (lookupIdempotencyKey_plain _ _)) fun _ existing _ => ?_
    cases existing with
    | some existing => trivial
    | none =>
    refine .seq limits fun _ _ _ => .seq obtains fun _ host _ => ?_
    refine .step trivial fun now _ => .step trivial fun recorded _ => ?_
    split
    · trivial
    · refine .seq (plain_follows releaseIdempotencyLoser_plain) fun _ _ _ => ?_
      refine .seq (plain_follows (lookupIdempotencyKey_plain _ _)) fun _ winner _ => ?_
      cases winner <;> trivial

theorem inSession_follows {α : Type} {program : Task α}
    (follows : Follows (contract sha256) (Returns fun _ _ => True) phase program) :
    Follows (contract sha256) (Returns fun _ _ => True) phase (inSession program) := by
  refine .closing (follows.weaken fun _ outcome _ => ⟨trivial, fun _ _ => ?_⟩)
  cases outcome <;> trivial

theorem topUp_follows (batch : List String) (failures created : ℕ)
    (hash : deployment.sha256 = sha256) :
    Follows (contract sha256) (Returns fun _ _ => True) phase
      (Pool.topUp deployment batch failures created) := by
  induction batch generalizing phase failures created with
  | nil => trivial
  | cons provider rest ih =>
      refine .bind (.attempt ((inSession_follows ?_).weaken fun later outcome _ => ?_))
      · exact .step trivial fun _ _ => createHost_follows hash
      · cases outcome with
        | ok host => exact ih _ _
        | error failure =>
            dsimp only
            split
            · trivial
            · exact ih _ _

theorem maintainPool_follows (hash : deployment.sha256 = sha256) :
    Follows (contract sha256) (Returns fun _ _ => True) phase (Pool.maintainPool deployment) := by
  unfold Pool.maintainPool
  dsimp only
  split
  · trivial
  · refine .step trivial fun now _ => ?_
    have surveyed : (Pool.survey deployment.settings.getPoolTargets now).All plain :=
      inSession_plain (.step trivial fun _ =>
        .bind (excessIds_all (fun _ _ _ => trivial) _ _ _ _) fun _ => trivial)
    refine .seq (plain_follows surveyed) fun _ _ _ => ?_
    refine .step trivial fun shuffled _ => .seq (topUp_follows _ _ _ hash) fun _ created _ => ?_
    exact .seq (plain_follows (shedEach_plain _ _)) fun _ removed _ => trivial

theorem program_follows (call : HostCall) (hash : deployment.sha256 = sha256) :
    Follows (contract sha256) (fun _ (_ : Except Failure Reply) => True) phase
      (call.program deployment) := by
  have ended {α : Type} {program : Task α} (reply : α → Reply)
      (follows : Follows (contract sha256) (Returns fun _ _ => True) phase program) :
      Follows (contract sha256) (fun _ (_ : Except Failure Reply) => True) phase
        (reply <$> program) :=
    .bind (follows.weaken fun _ outcome _ => by cases outcome <;> trivial)
  cases call with
  | getOrCreate request => exact ended _ (inSession_follows (getOrCreateHost_follows hash))
  | create request poolMember => exact ended _ (inSession_follows (createHost_follows hash))
  | renew id expiresAt => exact ended _ (inSession_follows renewHost_follows)
  | delete id flags => exact ended _ (inSession_follows (plain_follows deleteHost_plain).any)
  | reap =>
      refine ended _ (.step trivial fun now _ => .step trivial fun expired _ => ?_)
      exact (plain_follows (reapEach_plain _)).any
  | maintain => exact ended _ (maintainPool_follows hash)

end Launcher

end Drukbox
