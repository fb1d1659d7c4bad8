import Drukbox.Await.History
import Drukbox.Hosts.Ownership
import Drukbox.Hosts.PoolPlan
import Mathlib.Algebra.BigOperators.Group.Finset.Piecewise
import Mathlib.Algebra.Order.BigOperators.Group.Finset

/-!
# The pool's budget

A tick counts once and then creates one host after another without a lock.  What it may still insert
is read off its own steps; the budget bounds what the warm hosts and these creates of all ticks
exceed the targets by, as long as each tick finds room for its deal when it counts. -/

namespace Drukbox

open Await Program HostService

variable {ι : Type} [DecidableEq ι]

/-- What a tick of the pool maintainer has done of its batch. -/
structure Ticker where
  /-- The time that it has read. -/
  now : Option ℤ := none
  /-- Its count. -/
  counts : Option (Dict ℕ) := none
  /-- The creates that have not ended, once the batch is drawn. -/
  pending : Option (List String) := none
  /-- The row of the first of them is in. -/
  filled : Bool := false

namespace Ticker

/-- The hosts that the tick has still to insert. -/
def outstanding (phase : Ticker) : List String :=
  match phase.pending with
  | none => []
  | some providers => if phase.filled then providers.tail else providers

/-- The contract of a tick: it inserts the hosts of its batch in their order, and neither claims nor
renews any. -/
def contract (deployment : Deployment) : Contract Op.Answer Ticker where
  allows phase
    | .hosts (.insert host _) =>
        phase.filled = false ∧ ∃ rest, phase.pending = some (host.provider :: rest)
    | .hosts (.stamp _ initial expiresAt _) => ∃ stop ≤ initial, expiresAt = some stop
    | .hosts (.warm now) => phase.now = some now ∧ phase.counts = none ∧ phase.pending = none
    | .outside (.shuffle names) => phase.pending = none → ∃ counts, phase.counts = some counts ∧
        names = Pool.underfilled deployment.settings.getPoolTargets counts
    | .hosts (.claim _ _ _ _) | .hosts (.update .renewal _ _)
    | .hosts (.update .disposal _ _) => False
    | .clock | .uuid7 | .advisoryLock _ | .rollback | .hosts _ | .keys _ | .templates _
    | .outside _ | .vm _ => True
  next phase
    | .clock => fun now =>
        match phase.pending with
        | none => { phase with now := some now }
        | some _ => phase
    | .hosts (.warm _) => fun counts => { phase with counts := some counts }
    | .outside (.shuffle _) => fun shuffled =>
        match phase.pending with
        | none =>
            { phase with
              pending :=
                some (Pool.batch deployment.settings.getPoolTargets (phase.counts.getD [])
                  deployment.settings.poolMaxCreatesPerTick shuffled) }
        | some _ => phase
    | .hosts (.insert _ _) => fun inserted =>
        match inserted with
        | .ok () => { phase with filled := true }
        | .error _ => phase
    | .rollback => fun _ => { phase with pending := phase.pending.map List.tail, filled := false }
    | .uuid7 | .advisoryLock _ | .hosts _ | .keys _ | .templates _ | .outside _ | .vm _ =>
        fun _ => phase

variable {deployment : Deployment} {phase : Ticker}

/-- Once the batch is drawn, an operation that `provision` awaits leaves the phase as it is. -/
theorem next_of_provisions (deployment : Deployment) {op : Op} (provisions : op.provisions)
    (drawn : phase.pending.isSome) :
    (contract deployment).allows phase op ∧
      ∀ answer, (contract deployment).next phase op answer = phase := by
  cases op with
  | hosts query =>
      cases query with
      | update place => cases place <;> first | exact ⟨trivial, fun _ => rfl⟩ | cases provisions
      | get | count => exact ⟨trivial, fun _ => rfl⟩
      | lock | expired | warm | excess | candidate | claim | insert | stamp | delete =>
          cases provisions
  | outside call =>
      cases call with
      | shuffle names =>
          obtain ⟨providers, some_drawn⟩ := Option.isSome_iff_exists.mp drawn
          refine ⟨fun undrawn => ?_, fun shuffled => ?_⟩
          · rw [some_drawn] at undrawn
            contradiction
          · simp only [contract, some_drawn]
      | issueJoinCredentials | mintSecret | fetchSecret | putSecret | waitForDevice
      | scanKnownHosts | releaseDevice | deleteSecrets | refreshBaseImage | buildTemplateImage
      | deleteTemplateImage => exact ⟨trivial, fun _ => rfl⟩
  | clock =>
      obtain ⟨providers, some_drawn⟩ := Option.isSome_iff_exists.mp drawn
      refine ⟨trivial, fun now => ?_⟩
      simp only [contract, some_drawn]
  | advisoryLock | templates => exact ⟨trivial, fun _ => rfl⟩
  | vm call => exact ⟨trivial, fun _ => rfl⟩
  | uuid7 | rollback | keys => cases provisions

theorem clock_follows {α : Type} {next : ℤ → Task α} {post : Ticker → Except Failure α → Prop}
    (drawn : phase.pending.isSome)
    (rest : ∀ now, Follows (contract deployment) post phase (next now)) :
    Follows (contract deployment) post phase (Task.clock >>= next) := by
  obtain ⟨-, same⟩ := next_of_provisions deployment (show Op.clock.provisions from trivial) drawn
  refine .step trivial fun now _ => ?_
  rw [same]
  exact rest now

theorem provisions_follows {α : Type} {program : Task α} (all : program.All Op.provisions)
    (drawn : phase.pending.isSome) :
    Follows (contract deployment) (fun later _ => later = phase) phase program := by
  refine Follows.of_all all (· = phase) rfl ?_
  rintro op _ provisions rfl
  obtain ⟨allowed, same⟩ := next_of_provisions deployment provisions drawn
  exact ⟨allowed, fun answer _ => same answer⟩

theorem reads_follows {α : Type} {program : Task α} (all : program.All Op.reads)
    (drawn : phase.pending.isSome) :
    Follows (contract deployment) (fun later _ => later = phase) phase program :=
  provisions_follows (all.mono fun _ => Op.provisions_of_reads) drawn

theorem name_of_getVmProvider {provider : String} {vm : VMProvider}
    (found : deployment.getVmProvider (some provider) = .ok vm) : vm.name = provider := by
  unfold Deployment.getVmProvider at found
  dsimp only at found
  split at found
  · next present =>
      obtain rfl := Except.ok.inj found
      simpa using List.find?_some present
  · contradiction

/-- The lease of a warm host ends no later than its row was to expire. -/
theorem leaseEnd_le {request : HostRequest} {vm : VMProvider} {image : Option String} {id : HostId}
    {expiresAt now createdAt : ℤ} (requested : request.expiresAt = some expiresAt) :
    ∃ stop ≤ initialExpiresAt (newHost deployment request true vm image id now),
      vm.leaseEnd createdAt (some expiresAt) = some stop := by
  have initial : expiresAt ≤
      initialExpiresAt (newHost deployment request true vm image id now) := by
    simp only [initialExpiresAt, newHost, requested, Option.getD_some]
    exact le_max_left _ _
  unfold VMProvider.leaseEnd
  cases vm.lifetime with
  | none => exact ⟨expiresAt, initial, rfl⟩
  | some lifetime => exact ⟨_, (min_le_left _ _).trans initial, rfl⟩

/-- A create of the batch inserts no other host, and ends with the batch as it was. -/
theorem createHost_follows {provider : String} {rest : List String} {expiresAt : ℤ}
    (drawn : phase.pending = some (provider :: rest)) (empty : phase.filled = false) :
    Follows (contract deployment) (fun later _ => later.pending = phase.pending) phase
      (createHost deployment { provider := some provider, expiresAt := some expiresAt } true) := by
  have isSome : phase.pending.isSome := Option.isSome_of_eq_some drawn
  unfold createHost
  dsimp only
  cases found : deployment.getVmProvider (some provider) with
  | error failure => rfl
  | ok vm =>
  have named := name_of_getVmProvider found
  simp only [ofExcept_ok, bind_eq_bind, done_bind]
  cases checkRequest deployment { provider := some provider, expiresAt := some expiresAt } vm with
  | error failure => rfl
  | ok _ =>
  simp only [ofExcept_ok, done_bind, resolveImage, pure_eq_done]
  refine .step trivial fun id _ => clock_follows isSome fun now => ?_
  refine .bind ((reads_follows (checkProviderLimit_reads _) isSome).weaken ?_)
  rintro phase outcome rfl
  cases outcome with
  | error failure => rfl
  | ok _ =>
  refine .step ⟨empty, rest, by rw [drawn, ← named]; rfl⟩ fun inserted _ => ?_
  cases inserted with
  | error failure => rfl
  | ok _ =>
  simp only [ofExcept_ok, done_bind]
  have refreshes (id : HostId) :
      Follows (contract deployment)
        (fun later (_ : Except Failure Host) => later = { phase with filled := true })
        { phase with filled := true } (refresh id) :=
    reads_follows (refresh_reads id) isSome
  have provisions (host : Host) :
      Follows (contract deployment)
        (fun later (_ : Except Failure Unit) => later = { phase with filled := true })
        { phase with filled := true } (provision deployment host) :=
    provisions_follows provision_provisions isSome
  refine .bind ((refreshes _).weaken ?_)
  rintro _ outcome rfl
  cases outcome with
  | error failure => rfl
  | ok host =>
  refine .bind ((provisions _).weaken ?_)
  rintro _ outcome rfl
  cases outcome with
  | error failure => rfl
  | ok _ =>
  refine .bind ((refreshes _).weaken ?_)
  rintro _ outcome rfl
  cases outcome with
  | error failure => rfl
  | ok provisioned =>
  dsimp only
  split
  · rfl
  · refine clock_follows isSome fun updatedAt => .step (leaseEnd_le rfl) fun _ _ => ?_
    refine (refreshes _).weaken ?_
    rintro _ _ rfl
    rfl

/-- The create of a batch's first host ends with the rest of the batch. -/
theorem create_follows {provider : String} {rest : List String} {lifetime : ℤ}
    (drawn : phase.pending = some (provider :: rest)) (empty : phase.filled = false) :
    Follows (contract deployment)
      (fun later _ => later.pending = some rest ∧ later.filled = false) phase
      (inSession do
        let now ← Task.clock
        createHost deployment
          { provider := some provider, expiresAt := some (now + lifetime) } true) := by
  refine .closing (clock_follows (Option.isSome_of_eq_some drawn) fun now =>
    (createHost_follows drawn empty).weaken ?_)
  intro later outcome kept
  refine ⟨trivial, fun _ _ => ?_⟩
  have ended : (later.pending.map List.tail) = some rest := by
    rw [kept, drawn]
    rfl
  cases outcome <;> exact ⟨ended, rfl⟩

theorem topUp_follows (batch : List String) (failures created : ℕ)
    (drawn : phase.pending = some batch) (empty : phase.filled = false) :
    Follows (contract deployment) (fun later _ => later.pending.isSome) phase
      (Pool.topUp deployment batch failures created) := by
  induction batch generalizing phase failures created with
  | nil => exact Option.isSome_of_eq_some drawn
  | cons provider rest ih =>
      refine .bind (.attempt ((create_follows drawn empty).weaken ?_))
      rintro later outcome ⟨drawn, empty⟩
      cases outcome with
      | ok host => exact ih _ _ drawn empty
      | error failure =>
          dsimp only
          split
          · exact Option.isSome_of_eq_some drawn
          · exact ih _ _ drawn empty

/-- Once the batch is drawn, the operation is allowed and the batch stays drawn. -/
def Steady (deployment : Deployment) (op : Op) : Prop :=
  ∀ phase : Ticker, phase.pending.isSome → (contract deployment).allows phase op ∧
    ∀ answer, ((contract deployment).next phase op answer).pending.isSome

theorem steady_of_reads {op : Op} (reads : op.reads) : Steady deployment op := by
  intro phase drawn
  obtain ⟨allowed, same⟩ :=
    next_of_provisions deployment (Op.provisions_of_reads reads) drawn
  refine ⟨allowed, fun answer => ?_⟩
  rw [same]
  exact drawn

theorem steady_rollback : Steady deployment .rollback :=
  fun _ drawn => ⟨trivial, fun _ => by simpa [contract] using drawn⟩

theorem releaseDevice_steady {host : Host} :
    (releaseDevice deployment host).All (Steady deployment) := by
  unfold releaseDevice
  split
  · refine .step (steady_of_reads trivial) fun released => ?_
    cases released with
    | error failure => trivial
    | ok _ =>
      refine .step (steady_of_reads trivial) fun now => .step ?_ fun matched => ?_
      · exact fun _ drawn => ⟨trivial, fun _ => drawn⟩
      · cases matched <;> trivial
  · trivial

theorem removeVm_steady {host : Host} :
    (removeVm deployment host).All (Steady deployment) := by
  unfold removeVm
  cases deployment.getVmProvider (some host.provider) with
  | error failure => trivial
  | ok vm =>
  simp only [ofExcept_ok, bind_eq_bind, done_bind]
  refine .step (steady_of_reads trivial) fun forgotten => ?_
  cases forgotten with
  | error failure => trivial
  | ok _ =>
  refine .step (fun _ drawn => ⟨trivial, fun _ => drawn⟩) fun removed => ?_
  cases removed with
  | ok _ => trivial
  | error failure =>
      dsimp only
      split <;> trivial

theorem deleteHost_steady {id : HostId} {flags : DeleteFlags} :
    (deleteHost deployment id flags).All (Steady deployment) := by
  refine .step (fun _ drawn => ⟨trivial, fun _ => drawn⟩) fun locked => ?_
  cases locked with
  | none => trivial
  | some host =>
  refine .bind ((spared_reads _ _).mono fun _ => steady_of_reads) fun spares => ?_
  split
  · trivial
  split
  · trivial
  refine .bind ?_ fun _ => .step (fun _ drawn => ⟨trivial, fun _ => drawn⟩) fun _ => trivial
  unfold tearDown
  split
  · exact .bind releaseDevice_steady fun _ => removeVm_steady
  · trivial

theorem shedEach_steady (ids : List HostId) (removed : ℕ) :
    (Pool.shedEach deployment ids removed).All (Steady deployment) := by
  induction ids generalizing removed with
  | nil => trivial
  | cons id rest ih =>
      refine .bind (.attempt (.closing deleteHost_steady ⟨steady_rollback, fun _ => trivial⟩))
        fun outcome => ?_
      split <;> exact ih _

theorem excessIds_follows {targets counts : Dict ℕ} {now : ℤ} (providers : List String) :
    Follows (contract deployment) (fun later _ => later = phase) phase
      (Pool.excessIds targets counts now providers) := by
  induction providers with
  | nil => rfl
  | cons provider rest ih =>
      unfold Pool.excessIds
      dsimp only
      split
      · exact ih
      · refine .step trivial fun ids _ => .bind (ih.weaken ?_)
        rintro phase outcome rfl
        cases outcome <;> rfl

theorem survey_follows {targets : Dict ℕ} {now : ℤ} (clocked : phase.now = some now)
    (uncounted : phase.counts = none) (undrawn : phase.pending = none) :
    Follows (contract deployment)
      (Returns fun later result =>
        later.counts = some result.1 ∧ later.pending = none ∧ later.filled = false) phase
      (Pool.survey targets now) := by
  refine .closing (.step ⟨clocked, uncounted, undrawn⟩ fun counts _ =>
    .bind ((excessIds_follows _).weaken ?_))
  rintro _ outcome rfl
  cases outcome with
  | error failure => exact ⟨trivial, fun _ _ => trivial⟩
  | ok ids => exact ⟨trivial, fun _ _ => ⟨rfl, by simp [contract, undrawn], rfl⟩⟩

theorem maintainPool_follows :
    Follows (contract deployment) (fun _ _ => True) {} (Pool.maintainPool deployment) := by
  unfold Pool.maintainPool
  dsimp only
  split
  · trivial
  refine .step trivial fun now _ => .bind ((survey_follows rfl rfl rfl).weaken ?_)
  intro later surveyed ended
  cases surveyed with
  | error failure => trivial
  | ok result =>
  obtain ⟨counted, undrawn, empty⟩ := ended
  refine .step (fun _ => ⟨_, counted, rfl⟩) fun shuffled _ =>
    .bind ((topUp_follows _ _ _ ?_ ?_).weaken ?_)
  · simp [contract, undrawn, counted]
  · simp [contract, undrawn, empty]
  intro later created drawn
  cases created with
  | error failure => trivial
  | ok created =>
  refine .bind ((Follows.of_all (shedEach_steady _ _) (·.pending.isSome) drawn ?_).weaken ?_)
  · intro op phase steady drawn
    obtain ⟨allowed, stays⟩ := steady phase drawn
    exact ⟨allowed, fun answer _ => stays answer⟩
  · intro _ outcome _
    cases outcome <;> trivial

end Ticker

/-- The number of hosts of a provider that are warm at an instant. -/
def State.warmAt (state : State ι) (now : ℤ) (provider : String) : ℕ :=
  state.hosts.count (Pool.eligible provider now)

/-- The number of warm hosts of a provider. -/
def State.warmHosts (state : State ι) (provider : String) : ℕ :=
  state.warmAt state.now provider

namespace Ticker

variable {deployment : Deployment} {task other : ι} {op : Op} {answer : op.Answer}
  {before after : Deployment.World ι} {phase : Ticker} {actor : Provisioner} {provider : String}

/-- The answer accepts an insert. -/
def Inserts (op : Op) (answer : op.Answer) (host : Host) : Prop :=
  ∃ lease, op = .hosts (.insert host lease) ∧ HEq answer (.ok () : Except Failure Unit)

/-- An update that sets neither a lease nor a claim warms no row but one in error. -/
theorem warm_of_set {host : Host} {columns : HostColumns} {now : ℤ}
    (warm : (host.set columns).warm now) (lease : columns.expiresAt = none)
    (claim : columns.claimedAt = none) (status : columns.status = none ∨ host.status ≠ .error) :
    host.warm now := by
  simp only [Host.warm, Host.live, Host.unexpired, Host.set_poolMember, Host.set_claimedAt,
    Host.set_status, Host.set_expiresAt, lease, claim, Option.getD_none, Bool.and_eq_true,
    bne_iff_ne, ne_eq] at warm ⊢
  refine ⟨warm.1, ?_, warm.2.2⟩
  obtain silent | sound := status
  · simpa only [silent, Option.getD_none] using warm.2.1
  · exact sound

/-- A lease stamp that shortens the lease warms no row. -/
theorem warm_of_stamp {host : Host} {initial stop updatedAt now : ℤ} (shorter : stop ≤ initial)
    (lease : host.expiresAt = some initial)
    (warm : (host.set { expiresAt := some (some stop), updatedAt }).warm now) :
    host.warm now := by
  simp only [Host.warm, Host.live, Host.unexpired, Host.set_poolMember, Host.set_claimedAt,
    Host.set_status, Host.set_expiresAt, lease, Option.getD_none, Option.getD_some,
    Bool.and_eq_true, decide_eq_true_eq] at warm ⊢
  exact ⟨warm.1, warm.2.1, warm.2.2.trans_le shorter⟩

/-- A warm row was warm before, unless it is new. -/
theorem warm_row (answered : deployment.Answered task op answer before after)
    (known : actor.Standing task before)
    (provisions : (Provisioner.contract deployment).allows actor op)
    (fills : (contract deployment).allows phase op) {id : HostId} {row : Host}
    (present : after.state.hosts.get id = some row) (warm : row.warm after.state.now) :
    (∃ old, before.state.hosts.get id = some old ∧ old.provider = row.provider ∧
      old.warm before.state.now) ∨ (Inserts op answer row ∧ id = row.id) := by
  have unchanged (present : before.state.hosts.get id = some row) :
      ∃ old, before.state.hosts.get id = some old ∧ old.provider = row.provider ∧
        old.warm before.state.now := by
    rw [answered.now] at warm
    exact ⟨row, present, rfl, warm⟩
  rw [answered.hosts_get] at present
  rw [answered.now] at warm
  cases op with
  | clock | uuid7 | advisoryLock | rollback | keys | templates | outside | vm =>
      exact .inl (unchanged present)
  | hosts query =>
  cases query with
  | get | lock | expired | warm | excess | count | candidate => exact .inl (unchanged present)
  | claim => exact fills.elim
  | insert host lease =>
      cases answer with
      | error failure => exact .inl (unchanged present)
      | ok =>
          simp only [Op.hostEffect, HostQuery.effect] at present
          split at present
          · next same =>
              obtain rfl := Option.some.inj present
              exact .inr ⟨⟨lease, rfl, .rfl⟩, same⟩
          · exact .inl (unchanged present)
  | update place target columns =>
      cases answer with
      | false => exact .inl (unchanged present)
      | true =>
      simp only [Op.hostEffect, HostQuery.effect] at present
      split at present
      · next same =>
          obtain ⟨old, was, rfl⟩ := Option.map_eq_some_iff.mp present
          refine .inl ⟨old, was, rfl, ?_⟩
          cases place with
          | progress =>
              obtain ⟨-, ⟨mine, owns, mine_id, unsettled, -⟩, lease, claim, -⟩ := provisions
              have status := ((known.own mine owns).2.2 old (by rw [mine_id, ← same]; exact was)).2
              refine warm_of_set warm lease claim (.inr fun failed => ?_)
              rw [← status, failed] at unsettled
              cases unsettled
          | failure =>
              obtain ⟨-, -, failed, -⟩ := provisions
              simp [Host.warm, Host.live, failed] at warm
          | deviceRelease =>
              obtain ⟨silent, claim, -, lease⟩ := provisions
              exact warm_of_set warm lease claim (.inl silent)
          | renewal | disposal => exact fills.elim
      · exact .inl (unchanged present)
  | stamp target initial expiresAt updatedAt =>
      simp only [Op.hostEffect, HostQuery.effect] at present
      split at present
      · obtain ⟨old, was, rfl⟩ := Option.map_eq_some_iff.mp present
        obtain ⟨stop, shorter, rfl⟩ := fills
        refine .inl ⟨old, was, by split <;> rfl, ?_⟩
        split at warm
        · next lease => exact warm_of_stamp shorter lease warm
        · exact warm
      · exact .inl (unchanged present)
  | delete target =>
      simp only [Op.hostEffect, HostQuery.effect] at present
      split at present
      · contradiction
      · exact .inl (unchanged present)

theorem warmHosts_le (provider : String)
    (answered : deployment.Answered task op answer before after)
    (known : actor.Standing task before)
    (provisions : (Provisioner.contract deployment).allows actor op)
    (fills : (contract deployment).allows phase op)
    (other : ∀ host, Inserts op answer host → host.provider ≠ provider) :
    after.state.warmHosts provider ≤ before.state.warmHosts provider := by
  apply Table.count_le
  intro id row present counted
  simp only [Pool.eligible, Bool.and_eq_true, beq_iff_eq] at counted
  obtain ⟨rfl, warm⟩ := counted
  rcases warm_row answered known provisions fills present warm with
    ⟨old, was, same, warm_before⟩ | ⟨inserts, -⟩
  · exact ⟨old, was, by simp [Pool.eligible, same, warm_before]⟩
  · exact absurd rfl (other row inserts)

theorem warmHosts_le_succ (provider : String)
    (answered : deployment.Answered task op answer before after)
    (known : actor.Standing task before)
    (provisions : (Provisioner.contract deployment).allows actor op)
    (fills : (contract deployment).allows phase op) {host : Host}
    (inserts : Inserts op answer host) :
    after.state.warmHosts provider ≤ before.state.warmHosts provider + 1 := by
  apply Table.count_le_succ host.id
  intro id row different present counted
  simp only [Pool.eligible, Bool.and_eq_true, beq_iff_eq] at counted
  obtain ⟨rfl, warm⟩ := counted
  rcases warm_row answered known provisions fills present warm with
    ⟨old, was, same, warm_before⟩ | ⟨⟨lease, rfl, accepted⟩, same⟩
  · exact ⟨old, was, by simp [Pool.eligible, same, warm_before]⟩
  · obtain ⟨lease', written, -⟩ := inserts
    obtain ⟨rfl, -⟩ := HostQuery.insert.inj (Op.hosts.inj written)
    exact absurd same different

/-- The operation is the draw of the tick's batch. -/
def Draws (phase : Ticker) (op : Op) : Prop :=
  phase.pending = none ∧ ∃ names, op = .outside (.shuffle names)

/-- But for the draw, no answer adds a create to the batch. -/
theorem outstanding_next_le (drawn : ¬ Draws phase op) :
    ((contract deployment).next phase op answer).outstanding.count provider ≤
      phase.outstanding.count provider := by
  have tail_le (providers : List String) :
      providers.tail.count provider ≤ providers.count provider :=
    (List.tail_sublist providers).count_le provider
  cases op with
  | hosts query =>
      cases query with
      | insert host lease =>
          cases answer with
          | error failure => exact le_rfl
          | ok =>
              simp only [contract, outstanding]
              cases phase.pending with
              | none => exact le_rfl
              | some providers =>
                  simp only [if_true]
                  split
                  · exact le_rfl
                  · exact tail_le providers
      | get | lock | expired | warm | excess | count | candidate | claim | update | stamp
      | delete => exact le_rfl
  | rollback =>
      simp only [contract, outstanding]
      cases phase.pending with
      | none => exact le_rfl
      | some providers =>
          simp only [Option.map_some, Bool.false_eq_true, if_false]
          split
          · exact le_rfl
          · exact tail_le providers
  | outside call =>
      cases call with
      | shuffle names =>
          cases pending : phase.pending with
          | none => exact absurd ⟨pending, names, rfl⟩ drawn
          | some providers =>
              simp only [contract, pending]
              exact le_rfl
      | issueJoinCredentials | mintSecret | fetchSecret | putSecret | waitForDevice
      | scanKnownHosts | releaseDevice | deleteSecrets | refreshBaseImage | buildTemplateImage
      | deleteTemplateImage => exact le_rfl
  | clock =>
      simp only [contract]
      split <;> exact le_rfl
  | uuid7 | advisoryLock | keys | templates | vm => exact le_rfl

/-- But for the draw, a batch that is drawn stays drawn. -/
theorem pending_next (drawn : ¬ Draws phase op) :
    ((contract deployment).next phase op answer).pending = none ↔ phase.pending = none := by
  cases op with
  | hosts query =>
      cases query with
      | insert host lease => cases answer <;> exact Iff.rfl
      | get | lock | expired | warm | excess | count | candidate | claim | update | stamp
      | delete => exact Iff.rfl
  | rollback => simp [contract]
  | outside call =>
      cases call with
      | shuffle names =>
          cases pending : phase.pending with
          | none => exact absurd ⟨pending, names, rfl⟩ drawn
          | some providers => simp [contract, pending]
      | issueJoinCredentials | mintSecret | fetchSecret | putSecret | waitForDevice
      | scanKnownHosts | releaseDevice | deleteSecrets | refreshBaseImage | buildTemplateImage
      | deleteTemplateImage => exact Iff.rfl
  | clock =>
      simp only [contract]
      split <;> exact Iff.rfl
  | uuid7 | advisoryLock | keys | templates | vm => exact Iff.rfl

theorem now_next {now : ℤ}
    (clocked : ((contract deployment).next phase op answer).now = some now) :
    phase.now = some now ∨ op = .clock ∧ HEq answer now := by
  cases op with
  | hosts query =>
      cases query with
      | insert host lease => cases answer <;> exact .inl clocked
      | get | lock | expired | warm | excess | count | candidate | claim | update | stamp
      | delete => exact .inl clocked
  | outside call =>
      cases call with
      | shuffle names =>
          simp only [contract] at clocked
          split at clocked <;> exact .inl clocked
      | issueJoinCredentials | mintSecret | fetchSecret | putSecret | waitForDevice
      | scanKnownHosts | releaseDevice | deleteSecrets | refreshBaseImage | buildTemplateImage
      | deleteTemplateImage => exact .inl clocked
  | clock =>
      simp only [contract] at clocked
      split at clocked
      · exact .inr ⟨rfl, heq_of_eq (Option.some.inj clocked)⟩
      · exact .inl clocked
  | uuid7 | advisoryLock | rollback | keys | templates | vm => exact .inl clocked

theorem counts_next (other : ∀ now, op ≠ .hosts (.warm now)) :
    ((contract deployment).next phase op answer).counts = phase.counts := by
  cases op with
  | hosts query =>
      cases query with
      | warm now => exact absurd rfl (other now)
      | insert host lease => cases answer <;> rfl
      | get | lock | expired | excess | count | candidate | claim | update | stamp | delete => rfl
  | outside call =>
      cases call with
      | shuffle names =>
          simp only [contract]
          split <;> rfl
      | issueJoinCredentials | mintSecret | fetchSecret | putSecret | waitForDevice
      | scanKnownHosts | releaseDevice | deleteSecrets | refreshBaseImage | buildTemplateImage
      | deleteTemplateImage => rfl
  | clock =>
      simp only [contract]
      split <;> rfl
  | uuid7 | advisoryLock | rollback | keys | templates | vm => rfl

/-- The warm hosts and the creates of a tick that are still to come never become more, but for its
draw. -/
theorem tally_le (provider : String)
    (answered : deployment.Answered task op answer before after)
    (known : actor.Standing task before)
    (provisions : (Provisioner.contract deployment).allows actor op)
    (fills : (contract deployment).allows phase op) (drawn : ¬ Draws phase op) :
    after.state.warmHosts provider +
        ((contract deployment).next phase op answer).outstanding.count provider ≤
      before.state.warmHosts provider + phase.outstanding.count provider := by
  by_cases inserts : ∃ host, Inserts op answer host ∧ host.provider = provider
  · obtain ⟨host, inserts, rfl⟩ := inserts
    have added := warmHosts_le_succ host.provider answered known provisions fills
      inserts
    obtain ⟨lease, rfl, accepted⟩ := inserts
    obtain rfl := eq_of_heq accepted
    obtain ⟨empty, rest, pending⟩ := fills
    have before_count : phase.outstanding.count host.provider = rest.count host.provider + 1 := by
      simp [outstanding, pending, empty]
    have after_count :
        ((contract deployment).next phase (.hosts (.insert host lease)) (.ok ())).outstanding.count
          host.provider = rest.count host.provider := by
      simp [outstanding, contract, pending]
    omega
  · have kept := warmHosts_le provider answered known provisions fills
      fun host new same => inserts ⟨host, new, same⟩
    have fewer : ((contract deployment).next phase op answer).outstanding.count provider ≤
        phase.outstanding.count provider := outstanding_next_le drawn
    omega

/-- The phase of a tick, from its own answers. -/
def ofLog (deployment : Deployment) (task : ι) (log : List (Entry ι Op.Answer)) : Ticker :=
  (contract deployment).replay task {} log

/-- The entry ends the task. -/
def endedBy (task : ι) : Entry ι Op.Answer → Bool
  | .abandoned other => other = task
  | .answered _ _ _ => false

end Ticker

open Ticker

namespace Pool

/-- What the hosts of some providers exceed their targets by. -/
def excess (deployment : Deployment) (hosts : String → ℕ) (providers : Finset String) : ℕ :=
  ∑ provider ∈ providers, (hosts provider - current deployment.settings.getPoolTargets provider)

/-- A round-robin deal of at most a budget of creates over what the providers lack. -/
structure Dealt (lacking : String → ℕ) (budget : ℕ) (deal : String → ℕ) : Prop where
  within : ∀ provider, deal provider ≤ lacking provider
  total : ∀ providers : Finset String, ∑ provider ∈ providers, deal provider ≤ budget
  /-- A provider that still lacks a host is no more than one create behind another. -/
  fair : ∀ provider other, deal other < lacking other → deal provider ≤ deal other + 1

/-- What a tick may still insert: the rest of its batch, or, before that is drawn, any deal over
what it has counted. -/
def May (deployment : Deployment) (phase : Ticker) (deal : String → ℕ) : Prop :=
  match phase.pending, phase.counts with
  | some _, _ => deal = fun provider => phase.outstanding.count provider
  | none, some counts =>
      Dealt (deficit deployment.settings.getPoolTargets counts)
        deployment.settings.poolMaxCreatesPerTick deal
  | none, none => deal = 0

/-- What a tick that has not ended may still insert. -/
def Remains (deployment : Deployment) (log : List (Entry ι Op.Answer)) (task : ι)
    (deal : String → ℕ) : Prop :=
  if log.any (endedBy task) then deal = 0 else May deployment (ofLog deployment task log) deal

/-- The warm hosts that a count finds above a target, and the creates beyond what it finds missing:
those that are still to come of the other ticks, and those of a deal of its own. -/
def surplus (deployment : Deployment) (found pending deal : String → ℕ) (provider : String) : ℕ :=
  let target := current deployment.settings.getPoolTargets provider
  (found provider - target) + (pending provider + deal provider - (target - found provider))

/-- Whenever a tick counts, the surplus of every deal over what it finds missing is within the
budget of one tick. -/
def countsWithin (deployment : Deployment) : Condition ι Op.Answer (State ι) (Nature ι) where
  perform task op world := ∀ now, op = .hosts (.warm now) →
    ∀ (others : Finset ι) (deals : ι → String → ℕ) (deal : String → ℕ), task ∉ others →
      (∀ tick ∈ others, Remains deployment world.log tick (deals tick)) →
        Dealt (fun provider => current deployment.settings.getPoolTargets provider -
            world.state.warmAt now provider) deployment.settings.poolMaxCreatesPerTick deal →
          ∀ providers : Finset String,
            ∑ provider ∈ providers,
                surplus deployment (world.state.warmAt now)
                  (fun provider => ∑ tick ∈ others, deals tick provider) deal provider ≤
              deployment.settings.poolMaxCreatesPerTick

/-- The warm hosts of a provider, with those that some ticks may still insert. -/
def committed (state : State ι) (ticks : Finset ι) (deals : ι → String → ℕ) (provider : String) :
    ℕ :=
  state.warmHosts provider + ∑ tick ∈ ticks, deals tick provider

/-- The warm hosts and the creates to come exceed the targets by no more than the budget. -/
def Budgeted (deployment : Deployment) (world : Deployment.World ι) : Prop :=
  ∀ (providers : Finset String) (ticks : Finset ι) (deals : ι → String → ℕ),
    (∀ tick ∈ ticks, Remains deployment world.log tick (deals tick)) →
      excess deployment (committed world.state ticks deals) providers ≤
        deployment.settings.poolMaxCreatesPerTick

variable {deployment : Deployment}

theorem excess_mono {hosts more : String → ℕ} {providers : Finset String}
    (fewer : ∀ provider, hosts provider ≤ more provider) :
    excess deployment hosts providers ≤ excess deployment more providers :=
  Finset.sum_le_sum fun provider _ => Nat.sub_le_sub_right (fewer provider) _

theorem Dealt.zero (lacking : String → ℕ) (budget : ℕ) : Dealt lacking budget 0 where
  within _ := Nat.zero_le _
  total _ := by simp
  fair _ _ _ := Nat.zero_le _

theorem sum_count_le_length (batch : List String) (providers : Finset String) :
    ∑ provider ∈ providers, batch.count provider ≤ batch.length := by
  have every := Multiset.sum_count_eq_card (s := providers ∪ batch.toFinset)
    (m := (batch : Multiset String)) fun provider member =>
      Finset.mem_union_right _ (List.mem_toFinset.mpr (Multiset.mem_coe.mp member))
  simp only [Multiset.coe_count, Multiset.coe_card] at every
  rw [← every]
  exact Finset.sum_le_sum_of_subset Finset.subset_union_left

theorem dealt_batch {targets counts : Dict ℕ} {budget : ℕ} {order : List String}
    (unique : (targets.map Prod.fst).Nodup) (perm : order.Perm (underfilled targets counts)) :
    Dealt (deficit targets counts) budget
      fun provider => (batch targets counts budget order).count provider := by
  have topsUp : TopsUp targets counts budget order (batch targets counts budget order) :=
    batch_topsUp unique perm
  refine ⟨topsUp.atMost, fun providers => ?_, fun provider other lacks => ?_⟩
  · refine (sum_count_le_length _ providers).trans ?_
    rw [topsUp.length]
    exact min_le_left _ _
  · by_contra behind
    have served : provider ∈ batch targets counts budget order :=
      List.count_pos_iff.mp (by omega)
    have exactly := topsUp.fair provider other (topsUp.lacking provider served)
      (by rw [deficit] at lacks; omega) (by omega)
    omega

/-- Before the draw only the count matters. -/
theorem may_of_counted {phase later : Ticker} (undrawn : phase.pending = none)
    (undrawn_later : later.pending = none) (counts : later.counts = phase.counts)
    {deal : String → ℕ} (may : May deployment later deal) : May deployment phase deal := by
  unfold May at may ⊢
  rw [undrawn_later, counts] at may
  rw [undrawn]
  cases counted : phase.counts <;> simpa only [counted] using may

theorem exists_may (phase : Ticker) : ∃ deal, May deployment phase deal := by
  unfold May
  split
  · exact ⟨_, rfl⟩
  · exact ⟨0, .zero _ _⟩
  · exact ⟨0, rfl⟩

theorem exists_remains (deployment : Deployment) (log : List (Entry ι Op.Answer)) (task : ι) :
    ∃ deal, Remains deployment log task deal := by
  unfold Remains
  split
  · exact ⟨0, rfl⟩
  · exact exists_may _

section Steps

variable {task other : ι} {op : Op} {answer : op.Answer} {choice : Choice}
  {before after : Deployment.World ι} {phase : Provisioner × Ticker}

/-- What a running tick may still insert. -/
theorem remains_running (running : before.log.any (endedBy task) = false) {deal : String → ℕ} :
    Remains deployment before.log task deal ↔
      May deployment (ofLog deployment task before.log) deal := by
  simp [Remains, running]

theorem running_kept (answered : deployment.Answered task op answer before after) :
    after.log.any (endedBy other) = before.log.any (endedBy other) := by
  simp [answered.log, endedBy]

theorem ofLog_self (answered : deployment.Answered task op answer before after) :
    ofLog deployment task after.log =
      (contract deployment).next (ofLog deployment task before.log) op answer := by
  rw [ofLog, answered.log, Contract.replay_append, Contract.after_self]
  rfl

/-- The other ticks are not concerned by an answer. -/
theorem remains_other (answered : deployment.Answered task op answer before after)
    (different : other ≠ task) {deal : String → ℕ} :
    Remains deployment after.log other deal ↔ Remains deployment before.log other deal := by
  have same : ofLog deployment other after.log = ofLog deployment other before.log := by
    rw [ofLog, answered.log, Contract.replay_append, Contract.after_other different.symm]
    rfl
  rw [Remains, Remains, running_kept answered, same]

/-- A tick that is cancelled inserts nothing more. -/
theorem remains_abandoned {deal : String → ℕ}
    (remains : Remains deployment (deployment.system.abandoned task before).log other deal) :
    ∃ earlier, Remains deployment before.log other earlier ∧
      ∀ provider, deal provider ≤ earlier provider := by
  simp only [System.abandoned, Remains, List.any_append, ofLog, Contract.replay_append,
    Contract.after_abandoned] at remains
  split at remains
  · obtain ⟨earlier, remains_before⟩ := exists_remains deployment before.log other
    exact ⟨earlier, remains_before, fun provider => by simp [remains]⟩
  · next running =>
      refine ⟨deal, ?_, fun _ => le_rfl⟩
      rw [Bool.or_eq_true, not_or] at running
      rw [Remains, if_neg running.1]
      exact remains

/-- What a running tick knows. -/
structure Runs (deployment : Deployment) (task : ι) (phase : Provisioner × Ticker)
    (world : Deployment.World ι) : Prop where
  stands : phase.1.Standing task world
  replayed : phase.2 = ofLog deployment task world.log
  running : world.log.any (endedBy task) = false
  clocked : ∀ now, phase.2.now = some now → now ≤ world.state.now

/-- But for a count, what a tick may insert behind a step, with the warm hosts there, is no more
than what it might before. -/
theorem may_step (answered : deployment.Answered task op answer before after)
    (shuffles : ∀ names, op = .outside (.shuffle names) → ∀ order, HEq answer order →
      List.Perm order names)
    (allowed : ((Provisioner.contract deployment).prod (contract deployment)).allows phase op)
    (runs : Runs deployment task phase before) (uncounted : ∀ now, op ≠ .hosts (.warm now))
    {deal : String → ℕ} (may : May deployment ((contract deployment).next phase.2 op answer) deal) :
    ∃ earlier, May deployment phase.2 earlier ∧ ∀ provider,
      after.state.warmHosts provider + deal provider ≤
        before.state.warmHosts provider + earlier provider := by
  obtain ⟨actor, phase⟩ := phase
  by_cases drawn : Draws phase op
  · -- The draw deals what the tick has counted.
    obtain ⟨undrawn, names, rfl⟩ := drawn
    obtain ⟨counts, counted, rfl⟩ := allowed.2 undrawn
    have perm : List.Perm answer (underfilled deployment.settings.getPoolTargets counts) :=
      shuffles _ rfl answer .rfl
    refine ⟨fun provider => (batch deployment.settings.getPoolTargets counts
      deployment.settings.poolMaxCreatesPerTick answer).count provider, ?_, fun provider => ?_⟩
    · rw [May, undrawn, counted]
      exact dealt_batch deployment.settings.nodup_getPoolTargets perm
    · have same : after.state = before.state := answered.outcome
      have given : phase.counts = some counts := counted
      simp only [May, contract, undrawn, given, Option.getD_some, outstanding] at may
      rw [may, same]
      refine Nat.add_le_add_left ?_ _
      dsimp only
      split
      · exact (List.tail_sublist _).count_le provider
      · exact le_rfl
  · have tally (provider : String) :=
      tally_le provider answered runs.stands allowed.1 allowed.2 drawn
    cases pending : phase.pending with
    | none =>
        have later : ((contract deployment).next phase op answer).pending = none :=
          (pending_next drawn).mpr pending
        refine ⟨deal, ?_, fun provider => ?_⟩
        · have counts : ((contract deployment).next phase op answer).counts = phase.counts :=
            counts_next uncounted
          exact may_of_counted pending later counts may
        · have fewer := tally provider
          simp only [outstanding, pending, later, List.count_nil] at fewer
          omega
    | some providers =>
        cases later : ((contract deployment).next phase op answer).pending with
        | none =>
            rw [pending_next drawn, pending] at later
            contradiction
        | some left =>
            rw [May, later] at may
            refine ⟨fun provider => phase.outstanding.count provider, ?_, fun provider => ?_⟩
            · rw [May, pending]
            · rw [may]
              exact tally provider

/-- But for a count, a step keeps the budget. -/
theorem step_budgeted (answered : deployment.Answered task op answer before after)
    (shuffles : ∀ names, op = .outside (.shuffle names) → ∀ order, HEq answer order →
      List.Perm order names)
    (allowed : ((Provisioner.contract deployment).prod (contract deployment)).allows phase op)
    (runs : Runs deployment task phase before) (uncounted : ∀ now, op ≠ .hosts (.warm now))
    (budgeted : Budgeted deployment before) : Budgeted deployment after := by
  intro providers ticks deals remains
  have running : after.log.any (endedBy task) = false :=
    (running_kept answered).trans runs.running
  -- What the tick itself may insert counts, whether it is among these ticks or not.
  obtain ⟨own, may_own, within⟩ : ∃ own, Remains deployment after.log task own ∧
      ∀ provider, (if task ∈ ticks then deals task provider else 0) ≤ own provider := by
    by_cases member : task ∈ ticks
    · exact ⟨deals task, remains task member, fun _ => by rw [if_pos member]⟩
    · obtain ⟨own, may⟩ := exists_remains deployment after.log task
      exact ⟨own, may, fun _ => by rw [if_neg member]; exact Nat.zero_le _⟩
  rw [remains_running running, ofLog_self answered, ← runs.replayed] at may_own
  obtain ⟨earlier, may, fewer⟩ :=
    may_step answered shuffles allowed runs uncounted may_own
  have before_ := budgeted providers (insert task ticks) (Function.update deals task earlier)
    fun tick member => by
      by_cases same : tick = task
      · subst same
        rw [Function.update_self, remains_running runs.running, ← runs.replayed]
        exact may
      · rw [Function.update_of_ne same]
        exact (remains_other answered same).mp
          (remains tick ((Finset.mem_insert.mp member).resolve_left same))
  refine (excess_mono fun provider => ?_).trans before_
  have others : ∑ tick ∈ ticks.erase task, Function.update deals task earlier tick provider =
      ∑ tick ∈ ticks.erase task, deals tick provider :=
    Finset.sum_congr rfl fun tick member => by
      rw [Function.update_of_ne (Finset.ne_of_mem_erase member)]
  have total := Finset.add_sum_erase (insert task ticks)
    (fun tick => Function.update deals task earlier tick provider) (Finset.mem_insert_self _ _)
  rw [Finset.erase_insert_eq_erase, others, Function.update_self] at total
  have mine : ∑ tick ∈ ticks, deals tick provider =
      (if task ∈ ticks then deals task provider else 0) +
        ∑ tick ∈ ticks.erase task, deals tick provider := by
    split
    · next member => exact (Finset.add_sum_erase _ (fun tick => deals tick provider) member).symm
    · next absent => rw [Finset.erase_eq_of_notMem absent, Nat.zero_add]
  have bound := within provider
  have less := fewer provider
  simp only [committed]
  omega

/-- A host that is warm at an instant was warm before it. -/
theorem eligible_of_later {provider : String} {now later : ℤ} {host : Host}
    (passes : now ≤ later) (warm : eligible provider later host) : eligible provider now host := by
  simp only [eligible, Host.warm, Host.live, Host.unexpired, Bool.and_eq_true] at warm ⊢
  obtain ⟨same, member, live, unexpired⟩ := warm
  refine ⟨same, member, live, ?_⟩
  split at unexpired
  · rfl
  · simp only [decide_eq_true_eq] at unexpired ⊢
    omega

omit [DecidableEq ι] in
/-- As time passes, fewer of the hosts are warm. -/
theorem warmAt_anti {state : State ι} {now later : ℤ} (passes : now ≤ later) (provider : String) :
    state.warmAt later provider ≤ state.warmAt now provider :=
  Table.count_le fun _ row present counted => ⟨row, present, eligible_of_later passes counted⟩

/-- A count whose surplus is within the budget keeps the budget. -/
theorem count_budgeted {now : ℤ} {counts : Dict ℕ}
    (answered : deployment.Answered task (.hosts (.warm now)) counts before after)
    (counted : ∀ provider, current counts provider = before.state.warmAt now provider)
    (allowed : (contract deployment).allows phase.2 (.hosts (.warm now)))
    (runs : Runs deployment task phase before)
    (within : (countsWithin deployment).perform task (.hosts (.warm now)) before)
    (budgeted : Budgeted deployment before) : Budgeted deployment after := by
  intro providers ticks deals remains
  obtain ⟨clock, -, undrawn⟩ := allowed
  have hosts : after.state = before.state := answered.outcome.2
  have others {tick : ι} (member : tick ∈ ticks.erase task) :
      Remains deployment before.log tick (deals tick) :=
    (remains_other answered (Finset.ne_of_mem_erase member)).mp
      (remains tick (Finset.mem_of_mem_erase member))
  by_cases member : task ∈ ticks
  · have may := remains task member
    rw [remains_running ((running_kept answered).trans runs.running), ofLog_self answered,
      ← runs.replayed] at may
    have deal : Dealt (fun provider => current deployment.settings.getPoolTargets provider -
        before.state.warmAt now provider) deployment.settings.poolMaxCreatesPerTick
          (deals task) := by
      simp only [May, contract, undrawn] at may
      have lacking : deficit deployment.settings.getPoolTargets counts = fun provider =>
          current deployment.settings.getPoolTargets provider -
            before.state.warmAt now provider := by
        funext provider
        rw [deficit, counted]
      rwa [lacking] at may
    refine (Finset.sum_le_sum fun provider _ => ?_).trans
      (within now rfl (ticks.erase task) deals (deals task) (Finset.notMem_erase _ _)
        (fun tick => others) deal providers)
    have split := Finset.add_sum_erase ticks (fun tick => deals tick provider) member
    have fewer : before.state.warmHosts provider ≤ before.state.warmAt now provider :=
      warmAt_anti (runs.clocked now clock) provider
    have less := deal.within provider
    simp only [surplus, committed, hosts]
    omega
  · rw [Finset.erase_eq_of_notMem member] at others
    rw [hosts]
    exact budgeted providers ticks deals fun tick inside => others inside

omit [DecidableEq ι] in
theorem warmHosts_of_later {state later : State ι} (hosts : later.hosts = state.hosts)
    (passes : state.now ≤ later.now) (provider : String) :
    later.warmHosts provider ≤ state.warmHosts provider := by
  apply Table.count_le
  intro id row present counted
  rw [hosts] at present
  refine ⟨row, present, ?_⟩
  exact eligible_of_later passes counted

theorem shuffled_perm
    (chosen : deployment.system.answer task op choice before = some (answer, after))
    (names : List String) (shuffle : op = .outside (.shuffle names)) (order : List String)
    (same : HEq answer order) : order.Perm names := by
  subst shuffle
  obtain rfl := eq_of_heq same
  obtain ⟨performed, -⟩ := System.answer_eq_some.mp chosen
  have reads : Reads deployment before.state.hosts (.outside (.shuffle names)) answer :=
    ⟨ι, inferInstance, task, choice, _, _, rfl, performed⟩
  exact perm_of_reads reads

end Steps

/-- Every run whose counts are within the budget stays within it. -/
theorem upheld (deployment : Deployment) :
    Upheld (deployment.system : System ι _ _ _ _) (countsWithin deployment)
      ((Provisioner.contract deployment).prod (contract deployment))
      (fun world => Registry world ∧ Budgeted deployment world) (Runs deployment) := by
  constructor
  · intro task phase op choice answer before after allowed holds runs within chosen
    have answered := Deployment.answered chosen
    obtain ⟨expected, registry, stands⟩ :=
      (Provisioner.upheld deployment).perform allowed.1 holds.1 runs.stands trivial chosen
    refine ⟨⟨expected, trivial⟩, ⟨registry, ?_⟩, stands, ?_, ?_, fun now clocked => ?_⟩
    · by_cases count : ∃ now, op = .hosts (.warm now)
      · obtain ⟨now, rfl⟩ := count
        obtain ⟨performed, -⟩ := System.answer_eq_some.mp chosen
        have reads : Reads deployment before.state.hosts (.hosts (.warm now)) answer :=
          ⟨ι, inferInstance, task, choice, _, _, rfl, performed⟩
        exact count_budgeted answered (current_of_reads reads) allowed.2 runs within holds.2
      · exact step_budgeted answered (shuffled_perm chosen) allowed runs
          (not_exists.mp count) holds.2
    · rw [ofLog_self answered, ← runs.replayed]
      rfl
    · rw [running_kept answered]
      exact runs.running
    · rw [answered.now]
      rcases now_next clocked with old | ⟨rfl, same⟩
      · exact runs.clocked now old
      · have time := answered.outcome.1
        rw [← eq_of_heq same]
        exact time.le
  · intro task phase op choice answer before after other standing allowed holds runs within chosen
      different held
    have answered := Deployment.answered chosen
    refine ⟨(Provisioner.upheld deployment).others allowed.1 holds.1 runs.stands trivial chosen
      different held.stands, ?_, ?_, fun now clocked => ?_⟩
    · rw [ofLog, answered.log, Contract.replay_append, Contract.after_other different.symm]
      exact held.replayed
    · rw [running_kept answered]
      exact held.running
    · rw [answered.now]
      exact held.clocked now clocked
  · intro task before _ holds
    have same : Deployment.Unanswered before (deployment.system.abandoned task before) :=
      .abandoned task before
    refine ⟨⟨same.registry holds.1, fun providers ticks deals remains => ?_⟩,
      fun {other standing} different held => ⟨same.stands held.stands, ?_, ?_, fun now clocked =>
        (held.clocked now clocked).trans same.now⟩⟩
    · have earlier (tick : ι) : ∃ deal, (tick ∈ ticks → Remains deployment before.log tick deal ∧
          ∀ provider, deals tick provider ≤ deal provider) := by
        by_cases member : tick ∈ ticks
        · obtain ⟨deal, remains_before, fewer⟩ := remains_abandoned (remains tick member)
          exact ⟨deal, fun _ => ⟨remains_before, fewer⟩⟩
        · exact ⟨0, fun inside => absurd inside member⟩
      choose deals_before known using earlier
      refine (excess_mono fun provider => ?_).trans
        (holds.2 providers ticks deals_before fun tick member => (known tick member).1)
      have fewer : ∑ tick ∈ ticks, deals tick provider ≤
          ∑ tick ∈ ticks, deals_before tick provider :=
        Finset.sum_le_sum fun tick member => (known tick member).2 provider
      have hosts := warmHosts_of_later same.hosts same.now provider
      simp only [committed]
      omega
    · rw [ofLog, System.abandoned, Contract.replay_append, Contract.after_abandoned]
      exact held.replayed
    · simp [System.abandoned, endedBy, held.running, Ne.symm different]
  · intro move before state _ holds moved
    have same : Deployment.Unanswered before { before with state } := .nature moved
    refine ⟨⟨same.registry holds.1, fun providers ticks deals remains => ?_⟩,
      fun {task standing} held => ⟨same.stands held.stands, held.replayed, held.running,
        fun now clocked => (held.clocked now clocked).trans same.now⟩⟩
    refine (excess_mono fun provider => ?_).trans (holds.2 providers ticks deals remains)
    exact Nat.add_le_add_right (warmHosts_of_later same.hosts same.now provider) _

theorem budgeted_of_filled {state : State ι} (filled : ∀ provider,
    state.warmHosts provider ≤ current deployment.settings.getPoolTargets provider) :
    Budgeted deployment { state, log := [] } := by
  intro providers ticks deals remains
  have fits (provider : String) :
      committed state ticks deals provider -
        current deployment.settings.getPoolTargets provider = 0 := by
    have enough := filled provider
    have none_ : ∑ tick ∈ ticks, deals tick provider = 0 :=
      Finset.sum_eq_zero fun tick member => by
        have nothing : deals tick = 0 := remains tick member
        rw [nothing, Pi.zero_apply]
    rw [committed, none_]
    omega
  rw [excess, Finset.sum_eq_zero fun provider _ => fits provider]
  exact Nat.zero_le _

/-- A tick counts no warm host and draws its batch. -/
def tickDraws {ι : Type} (tick : ι) : List (Event ι Choice (Nature ι)) :=
  [.perform tick .go, .perform tick (.names []), .perform tick .go, .perform tick (.names ["exe"])]

/-- It inserts its host. -/
def tickInserts {ι : Type} (tick : ι) (id : ℕ) : List (Event ι Choice (Nature ι)) :=
  [.perform tick .go, .perform tick (.number id), .perform tick .go, .perform tick .go]

/-- What a tick may still insert is within the budget of one, as its batch is. -/
theorem Remains.total {log : List (Entry ι Op.Answer)} {tick : ι} {deal : String → ℕ}
    (remains : Remains deployment log tick deal)
    (short : (ofLog deployment tick log).outstanding.length ≤
      deployment.settings.poolMaxCreatesPerTick) (providers : Finset String) :
    ∑ provider ∈ providers, deal provider ≤ deployment.settings.poolMaxCreatesPerTick := by
  unfold Remains at remains
  split at remains
  · simp [remains]
  · unfold May at remains
    split at remains
    · rw [remains]
      exact (sum_count_le_length _ _).trans short
    · exact remains.total providers
    · simp [remains]

omit [DecidableEq ι] in
/-- A count that finds no host too many and lets no other tick but one insert any is within the
budget. -/
theorem surplus_within {tick : ι} {others : Finset ι} {deals : ι → String → ℕ}
    {found deal : String → ℕ} {budget : ℕ} {providers : Finset String} (only : others ⊆ {tick})
    (enough : ∀ provider, found provider ≤ current deployment.settings.getPoolTargets provider)
    (dealt : ∀ provider, deal provider ≤
      current deployment.settings.getPoolTargets provider - found provider)
    (total : tick ∈ others → ∑ provider ∈ providers, deals tick provider ≤ budget) :
    ∑ provider ∈ providers, surplus deployment found
      (fun provider => ∑ other ∈ others, deals other provider) deal provider ≤ budget := by
  have pending (provider : String) : surplus deployment found
      (fun provider => ∑ other ∈ others, deals other provider) deal provider ≤
        ∑ other ∈ others, deals other provider := by
    have fits := enough provider
    have own := dealt provider
    simp only [surplus]
    omega
  refine (Finset.sum_le_sum fun provider _ => pending provider).trans ?_
  rcases Finset.subset_singleton_iff.mp only with rfl | rfl
  · simp
  · simpa using total (Finset.mem_singleton_self tick)

/-- Whether `countsWithin` allows an event of two ticks, for sure. -/
def isWithin (config : Config Bool Op.Answer (State Bool) Failure Reply) :
    Event Bool Choice (Nature Bool) → Bool
  | .perform task _ =>
      match config.tasks task with
      | some (.call (.hosts (.warm _)) _) =>
          decide (config.world.state.hosts.keys = ∅) &&
            decide ((ofLog Deployment.sample (!task) config.world.log).outstanding.length ≤
              Deployment.sample.settings.poolMaxCreatesPerTick)
      | _ => true
  | _ => true

theorem isWithin_sound (config : Config Bool Op.Answer (State Bool) Failure Reply)
    (event : Event Bool Choice (Nature Bool)) (passes : isWithin config event) :
    (countsWithin Deployment.sample).Allows config event := by
  cases event with
  | abandon | world => trivial
  | perform task choice =>
  rintro op resume program now rfl others deals deal absent remains dealt providers
  simp only [isWithin, program, Bool.and_eq_true, decide_eq_true_eq] at passes
  obtain ⟨cold, short⟩ := passes
  have only : others ⊆ {!task} := fun other member => by
    have different : other ≠ task := fun same => absent (same ▸ member)
    cases other <;> cases task <;> simp_all
  refine surplus_within only (fun provider => ?_) dealt.within fun member =>
    (remains _ member).total short providers
  simp [State.warmAt, Table.count, cold]

/-- Two ticks draw before either of them inserts its host. -/
def twoTicks : List (Event Bool Choice (Nature Bool)) :=
  tickDraws true ++ tickDraws false ++ tickInserts true 1 ++ tickInserts false 2

theorem twoTicks_executed :
    (Deployment.sample.system.runChecked isWithin
      (Deployment.sample.start (.resting 0 .empty .empty .empty) fun _ => some .maintain)
      twoTicks).isSome := by
  decide +kernel

theorem cold_filled {ι : Type} (provider : String) :
    (State.resting 0 .empty .empty .empty : State ι).warmHosts provider ≤
      current Deployment.sample.settings.getPoolTargets provider := by
  simp [State.warmHosts, State.warmAt, Table.count, State.resting, Table.empty]

/-- Three ticks draw before any of them inserts its host. -/
def threeTicks : List (Event ℕ Choice (Nature ℕ)) :=
  tickDraws 0 ++ tickDraws 1 ++ tickDraws 2 ++ tickInserts 0 1 ++ tickInserts 1 2 ++
    tickInserts 2 3

theorem threeTicks_executed :
    (Deployment.sample.system.run (Deployment.sample.start (.resting 0 .empty .empty .empty)
      fun _ => some .maintain) threeTicks).isSome := by
  decide +kernel

end Pool

end Drukbox
