import Drukbox.Await.Script
import Drukbox.Hosts.Ownership
import Drukbox.Hosts.Schemas
import Drukbox.Providers.Capabilities

/-!
# The environment of a box

`provision` merges the caller's variables, the join credentials, the variable of each secret and the
settings of the proxy, and the last write of a name wins.
-/

namespace Drukbox

open Await Await.Program

/-- What answers the operations of one `provision`. -/
structure BootOracle where
  answer : (op : Op) → op.Answer
  /-- The key that Tailscale would issue. -/
  joinKey : String

/-- An answer that each operation can have: nothing is there, and every call fails. -/
def Op.refusal : (op : Op) → op.Answer
  | .clock => (0 : ℤ)
  | .uuid7 => (0 : ℕ)
  | .advisoryLock _ | .rollback => ()
  | .hosts query => by
      cases query <;>
        first
        | exact none
        | exact ()
        | exact false
        | exact []
        | exact (0 : ℕ)
        | exact .error { kind := .other, detail := "" }
  | .keys query => by
      cases query <;> first | exact none | exact () | exact false
  | .templates query => by
      cases query <;> first | exact none | exact () | exact false | exact []
  | .outside party => by
      cases party <;> first | exact "" | exact [] | exact .error { kind := .other, detail := "" }
  | .vm provider => by
      cases provider <;> first | exact () | exact .error { kind := .other, detail := "" }

/-- Answers that let `provision` come to `create_vm`. -/
def BootOracle.smooth : BootOracle where
  joinKey := "tskey-auth-k1"
  answer
    | .hosts (.update _ _ _) => true
    | .outside .mintSecret => "random"
    | .outside (.issueJoinCredentials _) | .outside (.putSecret _ _ _ _) => .ok []
    | op => op.refusal

/-- What one `provision` has been issued, has minted and has passed to `create_vm`. -/
structure BootRecord where
  joinKey : Option String := none
  minted : Dict Placeholder := []
  started : Option (Dict String) := none

/-- `JoinCredentials.env`. -/
def joinCredentials (joinKey hostName : String) : Dict String :=
  [("TAILSCALE_AUTHKEY", joinKey), ("TAILSCALE_HOSTNAME", hostName)]

/-- The variables of the proxy's settings, where the box uses the proxy. -/
def proxyVariables (settings : Settings) (certificate : List UInt8) (vm : VMProvider) :
    Dict String :=
  if vm.needsValue then [] else ProxyInjection.proxyVariables settings certificate

/-- What `put_secret` returns, by the provider's injection. -/
def injected (settings : Settings) (certificate : List UInt8) (vm : VMProvider) (service : Service)
    (placeholder : Placeholder) : Dict String :=
  if vm.needsValue then SbxInjection.putSecret service placeholder
  else ProxyInjection.putSecret settings certificate service placeholder

/-- Answer an operation: the credentials and the injections are those of the source. -/
def boot (settings : Settings) (certificate : List UInt8) (vm : VMProvider) :
    (op : Op) → BootOracle → BootRecord → op.Answer × BootRecord
  | .outside (.issueJoinCredentials hostName), oracle, record =>
      match oracle.answer (.outside (.issueJoinCredentials hostName)) with
      | .error failure => (.error failure, record)
      | .ok _ =>
          (.ok (joinCredentials oracle.joinKey hostName),
            { record with joinKey := some oracle.joinKey })
  | .outside (.putSecret name service placeholder value), oracle, record =>
      match oracle.answer (.outside (.putSecret name service placeholder value)) with
      | .error failure => (.error failure, record)
      | .ok _ =>
          (.ok (injected settings certificate vm service placeholder),
            { record with minted := record.minted.set placeholder.service placeholder })
  | .vm (.start _ environment _), _, record => ((), { record with started := some environment })
  | op, oracle, record => (oracle.answer op, record)

/-- The operation leaves the record alone. -/
def Op.silent : Op → Prop
  | .outside (.issueJoinCredentials _) | .outside (.putSecret _ _ _ _) | .vm (.start _ _ _) => False
  | _ => True

section Injection

variable {settings : Settings} {certificate : List UInt8} {vm : VMProvider}

/-- The names that the proxy's settings have. -/
def proxyNames : List String :=
  ["HTTPS_PROXY", "https_proxy", "NO_PROXY", "SECRETS_PROXY_CA", "SSL_CERT_FILE",
    "REQUESTS_CA_BUNDLE", "CURL_CA_BUNDLE", "NODE_EXTRA_CA_CERTS"]

theorem proxyVariables_names (settings : Settings) (certificate : List UInt8) (vm : VMProvider) :
    (proxyVariables settings certificate vm).map Prod.fst =
      if vm.needsValue then [] else proxyNames := by
  rw [proxyVariables]
  split
  · rfl
  · rfl

theorem proxyVariables_nodup (settings : Settings) (certificate : List UInt8) (vm : VMProvider) :
    ((proxyVariables settings certificate vm).map Prod.fst).Nodup := by
  rw [proxyVariables_names]
  split
  · exact .nil
  · decide

theorem injected_nodup (service : Service) (placeholder : Placeholder) :
    ((injected settings certificate vm service placeholder).map Prod.fst).Nodup := by
  rw [injected]
  split
  · exact List.nodup_singleton _
  · have empty : (([] : Dict String).map Prod.fst).Nodup := .nil
    exact Dict.nodup_update empty _

/-- The settings of the proxy come behind the variable of the secret. -/
theorem lookup_injected (service : Service) (placeholder : Placeholder) (name : String) :
    (injected settings certificate vm service placeholder).lookup name =
      ((proxyVariables settings certificate vm).lookup name).or
        (if name = service.authVariable then some placeholder.toText else none) := by
  have distinct := proxyVariables_nodup settings certificate vm
  rw [injected, proxyVariables] at *
  split at distinct
  · next needs =>
      rw [if_pos needs, if_pos needs, SbxInjection.putSecret, Dict.lookup_cons]
      rfl
  · next swaps =>
      rw [if_neg swaps, if_neg swaps, ProxyInjection.putSecret]
      rw [Dict.update_cons, Dict.set_nil, Dict.lookup_update_of_nodup _ distinct, Dict.lookup_cons]
      rfl

/-- The environment that a list of injections makes. -/
def compose (settings : Settings) (certificate : List UInt8) (vm : VMProvider)
    (injections : List (Service × Placeholder)) (environment : Dict String) : Dict String :=
  injections.foldl
    (fun environment injection =>
      environment.update (injected settings certificate vm injection.1 injection.2))
    environment

theorem compose_nodup (injections : List (Service × Placeholder)) {environment : Dict String}
    (distinct : (environment.map Prod.fst).Nodup) :
    ((compose settings certificate vm injections environment).map Prod.fst).Nodup := by
  induction injections generalizing environment with
  | nil => exact distinct
  | cons injection rest ih => exact ih (Dict.nodup_update distinct _)

/-- A name that no injection sets keeps its value. -/
theorem lookup_compose_of_none {injections : List (Service × Placeholder)}
    (environment : Dict String) {name : String}
    (unset : ∀ injection ∈ injections,
      (injected settings certificate vm injection.1 injection.2).lookup name = none) :
    (compose settings certificate vm injections environment).lookup name =
      environment.lookup name := by
  induction injections generalizing environment with
  | nil => rfl
  | cons injection rest ih =>
      have step := ih (environment.update
        (injected settings certificate vm injection.1 injection.2))
        fun other member => unset other (List.mem_cons_of_mem _ member)
      rw [Dict.lookup_update_of_nodup _ (injected_nodup _ _),
        unset injection List.mem_cons_self] at step
      exact step

/-- A name that some injections set to one value has it. -/
theorem lookup_compose_of_some {injections : List (Service × Placeholder)}
    {environment : Dict String} {name value : String}
    (one : ∃ injection ∈ injections,
      (injected settings certificate vm injection.1 injection.2).lookup name = some value)
    (all : ∀ injection ∈ injections, ∀ other,
      (injected settings certificate vm injection.1 injection.2).lookup name = some other →
        other = value) :
    (compose settings certificate vm injections environment).lookup name = some value := by
  induction injections generalizing environment with
  | nil =>
      obtain ⟨injection, member, -⟩ := one
      cases member
  | cons injection rest ih =>
      have others := fun other member => all other (List.mem_cons_of_mem injection member)
      by_cases later : ∃ other ∈ rest,
          (injected settings certificate vm other.1 other.2).lookup name = some value
      · exact ih later others
      · have unset : ∀ other ∈ rest,
            (injected settings certificate vm other.1 other.2).lookup name = none := by
          intro other member
          cases found : (injected settings certificate vm other.1 other.2).lookup name with
          | none => rfl
          | some held =>
              obtain rfl := others other member held found
              exact absurd ⟨other, member, found⟩ later
        have first : (injected settings certificate vm injection.1 injection.2).lookup name =
            some value := by
          obtain ⟨other, member, found⟩ := one
          rcases List.mem_cons.mp member with rfl | member
          · exact found
          · exact absurd ⟨other, member, found⟩ later
        have step := lookup_compose_of_none (environment.update
          (injected settings certificate vm injection.1 injection.2)) unset
        rw [Dict.lookup_update_of_nodup _ (injected_nodup _ _), first] at step
        exact step

end Injection

namespace HostService

section Silent

variable {deployment : Deployment} {host : Host} {vm : VMProvider}

theorem commit_silent (place : HostCommit) (id : HostId) (columns : HostColumns) :
    (commit place id columns).All Op.silent := by
  refine .step trivial fun matched => ?_
  cases matched <;> trivial

theorem markFailed_silent (id : HostId) (secrets : Dict SecretEntry) (failure : Failure) :
    (markFailed id secrets failure).All Op.silent :=
  .step trivial fun _ => commit_silent _ _ _

theorem currentValue_silent (entry : SecretEntry) : (currentValue entry).All Op.silent := by
  unfold currentValue
  split
  · trivial
  · exact .step trivial fun _ => trivial
  · trivial

theorem activate_silent : (activate host).All Op.silent := by
  refine .step trivial fun scanned => ?_
  cases scanned with
  | error failure =>
      dsimp only
      split
      · exact markFailed_silent _ _ _
      · trivial
  | ok knownHosts => exact .step trivial fun _ => .step trivial fun _ => commit_silent _ _ _

theorem bootstrap_silent {tailnet : Option String} {result : VMCreateResult} :
    (bootstrap deployment host vm tailnet result).All Op.silent := by
  refine .step trivial fun _ => .bind (commit_silent _ _ _) fun _ => ?_
  cases tailnet with
  | none => exact activate_silent
  | some tailnet =>
      refine .step trivial fun waited => ?_
      cases waited with
      | error failure =>
          dsimp only
          split
          · exact markFailed_silent _ _ _
          · trivial
      | ok deviceId =>
          exact .step trivial fun _ => .bind (commit_silent _ _ _) fun _ => activate_silent

end Silent

section Boot

variable {deployment : Deployment} {certificate : List UInt8} {host : Host} {vm : VMProvider}

/-- The injections of some entries. -/
def Injects (host : Host) (entries : Dict SecretEntry)
    (injections : List (Service × Placeholder)) : Prop :=
  List.Forall₂
    (fun item injection => Catalog.service item.1 item.2 = some injection.1 ∧
      injection.2.hostId = host.id ∧ injection.2.service = item.1)
    entries injections

/-- The placeholders of some injections, by entry. -/
def mint (injections : List (Service × Placeholder)) (minted : Dict Placeholder) :
    Dict Placeholder :=
  minted.update (injections.map fun injection => (injection.2.service, injection.2))

theorem boot_silent {settings : Settings} {op : Op} (silent : op.silent) (oracle : BootOracle)
    (record : BootRecord) : (boot settings certificate vm op oracle record).2 = record := by
  cases op with
  | outside call => cases call <;> first | rfl | exact silent.elim
  | vm call => cases call <;> first | rfl | exact silent.elim
  | clock | uuid7 | advisoryLock | rollback | hosts | keys | templates => rfl

/-- A part of `provision` that neither injects nor starts leaves the record alone. -/
theorem ensures_of_silent {α : Type} {program : Task α} (all : program.All Op.silent)
    (settings : Settings) (record : BootRecord) :
    program.Ensures (boot settings certificate vm) record fun _ after => after = record :=
  all.ensures (fun _ oracle state silent same => (boot_silent silent oracle state).trans same) rfl

/-- The loop of `put_secrets` makes one injection for each entry. -/
theorem putEntries_spec (entries secrets : Dict SecretEntry) (environment : Dict String)
    (record : BootRecord) :
    (putEntries deployment host vm entries secrets environment).Ensures
      (boot deployment.settings certificate vm) record fun outcome after =>
        after.started = record.started ∧ after.joinKey = record.joinKey ∧
          ∀ stored added, outcome = .returned (stored, .ok added) →
            ∃ injections, Injects host entries injections ∧
              added = compose deployment.settings certificate vm injections environment ∧
              after.minted = mint injections record.minted := by
  induction entries generalizing secrets environment record with
  | nil =>
      refine ⟨rfl, rfl, ?_⟩
      rintro stored added ⟨⟩
      exact ⟨[], .nil, rfl, rfl⟩
  | cons item rest ih =>
      obtain ⟨name, entry⟩ := item
      refine ⟨⟨rfl, rfl, fun _ _ returned => by cases returned⟩, fun oracle => ?_⟩
      have value_silent : ((if vm.needsValue then currentValue entry else pure (.ok "")) :
          Task (Except Failure String)).All Op.silent := by
        split
        · exact currentValue_silent entry
        · trivial
      have stops {outcome : Outcome Failure (Dict SecretEntry × Except Failure (Dict String))}
          (stopped : ∀ stored added, outcome ≠ .returned (stored, .ok added)) :
          record.started = record.started ∧ record.joinKey = record.joinKey ∧
            ∀ stored added, outcome = .returned (stored, .ok added) →
              ∃ injections, Injects host ((name, entry) :: rest) injections ∧
                added = compose deployment.settings certificate vm injections environment ∧
                record.minted = mint injections record.minted :=
        ⟨rfl, rfl, fun stored added returned => absurd returned (stopped stored added)⟩
      refine (ensures_of_silent value_silent deployment.settings record).bind ?_ ?_ ?_
      · rintro (failure | value) after rfl
        · exact stops fun _ _ returned => by cases returned
        · cases resolved : Catalog.service name entry with
          | none => exact stops fun _ _ returned => by cases returned
          | some service =>
              refine ⟨stops fun _ _ returned => (by cases returned), fun put => ?_⟩
              generalize (boot deployment.settings certificate vm (.outside .mintSecret) oracle
                after).1 = secret
              cases answer : put.answer (.outside
                  (.putSecret host.name service { hostId := host.id, service := name, secret }
                    value)) with
              | error failure =>
                  simp only [boot, answer]
                  exact stops fun _ _ returned => by cases returned
              | ok _ =>
                  simp only [boot, answer, done_bind]
                  refine (ih _ _ _).mono ?_
                  rintro outcome last ⟨started, joinKey, composes⟩
                  refine ⟨started, joinKey, fun stored added returned => ?_⟩
                  obtain ⟨injections, made, rfl, minted⟩ := composes stored added returned
                  exact ⟨(service, { hostId := host.id, service := name, secret }) :: injections,
                    .cons ⟨resolved, rfl, rfl⟩ made, rfl, minted⟩
      · rintro failure after rfl
        exact stops fun _ _ returned => by cases returned
      · rintro after rfl
        exact stops fun _ _ returned => by cases returned

theorem createVm_spec (host : Host) (tailnet : Option String) (environment : Dict String)
    (setupScript : Option String) (record : BootRecord) :
    (createVm deployment host vm tailnet environment setupScript).Ensures
      (boot deployment.settings certificate vm) record fun _ after =>
        after = record ∨ after = { record with started := some environment } := by
  have settled {α : Type} {program : Task α} (all : program.All Op.silent) :
      program.Ensures (boot deployment.settings certificate vm) record fun _ after =>
        after = record ∨ after = { record with started := some environment } :=
    (ensures_of_silent all _ record).mono fun _ _ same => .inl same
  refine ⟨.inl rfl, fun clock => (ensures_of_silent (commit_silent _ _ _) _ record).bind ?_ ?_ ?_⟩
  · rintro _ after rfl
    split
    · exact settled (markFailed_silent _ _ _)
    · refine ⟨.inl rfl, fun start => ?_⟩
      refine (ensures_of_silent ?_ _ _).mono fun _ _ same => .inr same
      refine .step trivial fun created => ?_
      cases created with
      | error failure =>
          dsimp only
          split
          · exact markFailed_silent _ _ _
          · trivial
      | ok result => exact bootstrap_silent
  · rintro failure after rfl
    exact .inl rfl
  · rintro after rfl
    exact .inl rfl

theorem injectSecrets_spec (tailnet : Option String) (environment : Dict String)
    (setupScript : Option String) (record : BootRecord) (fresh : record.started = none) :
    (injectSecrets deployment host vm tailnet environment setupScript).Ensures
      (boot deployment.settings certificate vm) record fun _ after =>
        ∀ passed, after.started = some passed → after.joinKey = record.joinKey ∧
          ∃ injections, Injects host host.secrets injections ∧
            after.minted = mint injections record.minted ∧
            passed = environment.update
              (compose deployment.settings certificate vm injections []) := by
  refine (putEntries_spec host.secrets host.secrets [] record).bind ?_ ?_ ?_
  · rintro ⟨stored, outcome⟩ middle ⟨started, joinKey, composes⟩
    have settled {α : Type} {program : Task α} (all : program.All Op.silent) :
        program.Ensures (boot deployment.settings certificate vm) middle fun _ after =>
          ∀ passed, after.started = some passed → after.joinKey = record.joinKey ∧
            ∃ injections, Injects host host.secrets injections ∧
              after.minted = mint injections record.minted ∧
              passed = environment.update
                (compose deployment.settings certificate vm injections []) := by
      refine (ensures_of_silent all _ middle).mono ?_
      rintro _ after rfl passed reached
      rw [started, fresh] at reached
      cases reached
    have refused (failure : Failure) : Program.All Op.silent
        (if failure.kind = .missingSecret then
            (markFailed host.id stored failure).bind fun _ => (.raise failure : Task Unit)
          else if failure.kind.isIssuerError ∨ failure.kind.isProviderError ∨
              failure.kind = .value then
            markFailed host.id stored failure
          else .raise failure) := by
      split
      · exact .bind (markFailed_silent _ _ _) fun _ => trivial
      · split
        · exact markFailed_silent _ _ _
        · trivial
    cases outcome with
    | error failure => exact settled (refused failure)
    | ok added =>
        cases persisted : Environment.getPersist (environment.update added) with
        | error failure =>
            simp only [Bind.bind, Except.bind, persisted]
            exact settled (refused failure)
        | ok lines =>
            simp only [Bind.bind, Except.bind, persisted, Pure.pure, Except.pure]
            obtain ⟨injections, made, rfl, minted⟩ := composes stored added rfl
            refine (createVm_spec _ tailnet _ setupScript middle).mono ?_
            rintro _ after (rfl | rfl) passed reached
            · rw [started, fresh] at reached
              cases reached
            · exact ⟨joinKey, injections, made, minted, (Option.some.inj reached).symm⟩
  · rintro failure after ⟨started, -, -⟩ passed reached
    rw [started, fresh] at reached
    cases reached
  · rintro after ⟨started, -, -⟩ passed reached
    rw [started, fresh] at reached
    cases reached

/-- The environment before the secrets: the caller's, with the join credentials on the tailnet. -/
def Joined (host : Host) (vm : VMProvider) (record : BootRecord) (environment : Dict String) :
    Prop :=
  if vm.tailnet then
    ∃ joinKey, record.joinKey = some joinKey ∧
      environment = host.env.update (joinCredentials joinKey host.name)
  else
    environment = host.env

/-- What has been passed to `create_vm` is the environment before the secrets with their injections
behind it. -/
def Passes (deployment : Deployment) (certificate : List UInt8) (host : Host) (vm : VMProvider)
    (record : BootRecord) : Prop :=
  ∀ passed, record.started = some passed →
    ∃ environment injections, Joined host vm record environment ∧
      Injects host host.secrets injections ∧ record.minted = mint injections [] ∧
      passed = environment.update (compose deployment.settings certificate vm injections [])

theorem passes_of_idle {record : BootRecord} (idle : record.started = none) :
    Passes deployment certificate host vm record := by
  intro passed reached
  rw [idle] at reached
  cases reached

/-- What `provision` passes to `create_vm`. -/
theorem provision_spec (known : deployment.getVmProvider (some host.provider) = .ok vm) :
    (provision deployment host).Ensures (boot deployment.settings certificate vm) {}
      fun _ => Passes deployment certificate host vm := by
  have settled {program : Task Unit} (all : program.All Op.silent) (record : BootRecord)
      (idle : record.started = none) :
      program.Ensures (boot deployment.settings certificate vm) record
        fun _ => Passes deployment certificate host vm := by
    refine (ensures_of_silent all _ record).mono ?_
    rintro _ after rfl
    exact passes_of_idle idle
  refine ⟨passes_of_idle rfl, fun clock =>
    (ensures_of_silent (commit_silent _ _ _) _ {}).bind ?_ ?_ ?_⟩
  · rintro _ after rfl
    rw [known]
    simp only [ofExcept_ok, bind_eq_bind, done_bind]
    split
    · next joins =>
        split
        · exact settled (markFailed_silent _ _ _) _ rfl
        · next tailnet _ =>
            refine ⟨passes_of_idle rfl, fun issue => ?_⟩
            cases answer : issue.answer (.outside (.issueJoinCredentials host.name)) with
            | error failure =>
                simp only [boot, answer, done_bind]
                refine settled ?_ _ rfl
                split
                · exact markFailed_silent _ _ _
                · trivial
            | ok credentials =>
                simp only [boot, answer, done_bind]
                refine (injectSecrets_spec (some tailnet) _ _ _ rfl).mono ?_
                rintro _ after composes passed reached
                obtain ⟨issued, injections, made, minted, rfl⟩ := composes passed reached
                exact ⟨_, injections, by simp [Joined, joins, issued], made, minted, rfl⟩
    · next plain =>
        refine (injectSecrets_spec none host.env none {} rfl).mono ?_
        rintro _ after composes passed reached
        obtain ⟨-, injections, made, minted, rfl⟩ := composes passed reached
        exact ⟨host.env, injections, by simp [Joined, plain], made, minted, rfl⟩
  · rintro failure after rfl
    exact passes_of_idle rfl
  · rintro after rfl
    exact passes_of_idle rfl

end Boot

section Composition

open HostCreate

variable {settings : Settings} {certificate : List UInt8} {host : Host} {vm : VMProvider}
  {entries : Dict SecretEntry} {injections : List (Service × Placeholder)}

theorem Injects.services (made : Injects host entries injections) :
    injections.map (fun injection => some injection.1.authVariable) = entries.map variableOf := by
  induction made with
  | nil => rfl
  | cons made _ ih => rw [List.map_cons, List.map_cons, ih, variableOf, made.1, Option.map_some]

theorem Injects.names (made : Injects host entries injections) :
    injections.map (fun injection => injection.2.service) = entries.map Prod.fst := by
  induction made with
  | nil => rfl
  | cons made _ ih => rw [List.map_cons, List.map_cons, ih, made.2.2]

/-- Every entry has its injection. -/
theorem Injects.of_item (made : Injects host entries injections) {item : String × SecretEntry}
    (member : item ∈ entries) :
    ∃ injection ∈ injections, Catalog.service item.1 item.2 = some injection.1 ∧
      injection.2.hostId = host.id ∧ injection.2.service = item.1 := by
  induction made with
  | nil => cases member
  | cons made _ ih =>
      rcases List.mem_cons.mp member with rfl | member
      · exact ⟨_, List.mem_cons_self, made⟩
      · obtain ⟨injection, listed, facts⟩ := ih member
        exact ⟨injection, List.mem_cons_of_mem _ listed, facts⟩

theorem Injects.of_injection (made : Injects host entries injections)
    {injection : Service × Placeholder} (member : injection ∈ injections) :
    ∃ item ∈ entries, variableOf item = some injection.1.authVariable := by
  have listed : some injection.1.authVariable ∈ entries.map variableOf :=
    made.services ▸ List.mem_map.mpr ⟨injection, member, rfl⟩
  exact List.mem_map.mp listed

/-- The placeholder of an entry is the one that its injection carries. -/
theorem Injects.lookup_mint (made : Injects host entries injections)
    (names : (entries.map Prod.fst).Nodup) {injection : Service × Placeholder}
    (member : injection ∈ injections) :
    (mint injections []).lookup injection.2.service = some injection.2 := by
  have distinct : ((injections.map fun injection => (injection.2.service, injection.2)).map
      Prod.fst).Nodup := by
    rw [List.map_map]
    change (injections.map fun injection => injection.2.service).Nodup
    rw [made.names]
    exact names
  rw [mint, Dict.lookup_update_nil distinct]
  exact Dict.lookup_of_mem distinct (List.mem_map.mpr ⟨injection, member, rfl⟩)

/-- A setting of the proxy is never replaced. -/
theorem lookup_compose_proxy (filled : injections ≠ []) {name value : String}
    (setting : (proxyVariables settings certificate vm).lookup name = some value) :
    (compose settings certificate vm injections []).lookup name = some value := by
  obtain ⟨first, member⟩ := List.exists_mem_of_ne_nil _ filled
  refine lookup_compose_of_some ⟨first, member, ?_⟩ fun injection _ other found => ?_
  · rw [lookup_injected, setting, Option.some_or]
  · rw [lookup_injected, setting, Option.some_or] at found
    exact (Option.some.inj found).symm

/-- The variable of an entry holds its placeholder, unless it is a setting of the proxy. -/
theorem Injects.lookup_compose (made : Injects host entries injections)
    (distinct : (entries.map variableOf).Nodup) {injection : Service × Placeholder}
    (member : injection ∈ injections)
    (free : (proxyVariables settings certificate vm).lookup injection.1.authVariable = none) :
    (compose settings certificate vm injections []).lookup injection.1.authVariable =
      some injection.2.toText := by
  refine lookup_compose_of_some ⟨injection, member, ?_⟩ fun other listed value found => ?_
  · rw [lookup_injected, free, Option.none_or, if_pos rfl]
  · rw [lookup_injected, free, Option.none_or] at found
    split at found
    · next same =>
        have apart : (injections.map fun injection => some injection.1.authVariable).Nodup :=
          made.services ▸ distinct
        obtain rfl := List.inj_on_of_nodup_map apart listed member (congrArg some same.symm)
        exact (Option.some.inj found).symm
    · cases found

theorem Injects.lookup_compose_none (made : Injects host entries injections) {name : String}
    (unset : ∀ item ∈ entries, variableOf item ≠ some name)
    (free : injections ≠ [] → (proxyVariables settings certificate vm).lookup name = none) :
    (compose settings certificate vm injections []).lookup name = none := by
  refine (lookup_compose_of_none _ fun injection member => ?_).trans rfl
  have other : name ≠ injection.1.authVariable := by
    rintro rfl
    obtain ⟨item, listed, same⟩ := made.of_injection member
    exact unset item listed same
  rw [lookup_injected, free (List.ne_nil_of_mem member), Option.none_or, if_neg other]

end Composition

section Result

open HostCreate

variable {settings : Settings} {certificate : List UInt8} {host : Host} {vm : VMProvider}
  {record : BootRecord} {environment : Dict String}

/-- A name that the join credentials, a secret or the proxy fills. -/
def Filled (settings : Settings) (certificate : List UInt8) (host : Host) (vm : VMProvider)
    (name : String) : Prop :=
  (vm.tailnet ∧ name = "TAILSCALE_AUTHKEY") ∨
    (∃ item ∈ host.secrets, variableOf item = some name) ∨
    (host.secrets ≠ [] ∧ name ∈ (proxyVariables settings certificate vm).map Prod.fst)

/-- Each source of the environment has what it set. -/
structure Composed (settings : Settings) (certificate : List UInt8) (host : Host) (vm : VMProvider)
    (record : BootRecord) (environment : Dict String) : Prop where
  join : vm.tailnet → ∃ joinKey, record.joinKey = some joinKey ∧
    environment.lookup "TAILSCALE_AUTHKEY" = some joinKey
  secrets : ∀ item ∈ host.secrets, ∃ name placeholder, variableOf item = some name ∧
    record.minted.lookup item.1 = some placeholder ∧ placeholder.hostId = host.id ∧
    placeholder.service = item.1 ∧ environment.lookup name = some placeholder.toText
  proxy : host.secrets ≠ [] → ∀ item ∈ proxyVariables settings certificate vm,
    environment.lookup item.1 = some item.2
  caller : ∀ name value, host.env.lookup name = some value →
    ¬ Filled settings certificate host vm name → environment.lookup name = some value

/-- No two sources set one name. -/
structure Separate (host : Host) (vm : VMProvider) : Prop where
  join : vm.tailnet → ∀ item ∈ host.secrets, variableOf item ≠ some "TAILSCALE_AUTHKEY"
  proxy : vm.needsValue = false → ∀ item ∈ host.secrets, ∀ name ∈ proxyNames,
    variableOf item ≠ some name
  /-- The join credentials carry the host's name too. -/
  hostName : vm.tailnet → ∀ value, host.env.lookup "TAILSCALE_HOSTNAME" = some value →
    (∀ item ∈ host.secrets, variableOf item ≠ some "TAILSCALE_HOSTNAME") → value = host.name

theorem proxyVariables_tailnet :
    (proxyVariables settings certificate vm).lookup "TAILSCALE_AUTHKEY" = none ∧
      (proxyVariables settings certificate vm).lookup "TAILSCALE_HOSTNAME" = none := by
  rw [proxyVariables]
  split
  · exact ⟨rfl, rfl⟩
  · exact ⟨rfl, rfl⟩

/-- What Tailscale issues and where the proxy is are no placeholders. -/
structure Foreign (settings : Settings) (script : List BootOracle) : Prop where
  joinKey : ∀ oracle ∈ script, ∀ placeholder : Placeholder, oracle.joinKey ≠ placeholder.toText
  proxyUrl : ∀ placeholder : Placeholder, settings.secretsProxyUrl ≠ placeholder.toText

theorem ne_toText {text : String} (placeholder : Placeholder)
    (other : text.toList.head? ≠ some 'd') : text ≠ placeholder.toText := by
  rintro rfl
  obtain ⟨rest, starts⟩ := placeholder.toList_eq_cons
  rw [starts] at other
  exact other rfl

theorem encode_ne_toText (certificate : List UInt8) (placeholder : Placeholder) :
    String.ofList (Base64.encode certificate) ≠ placeholder.toText := by
  intro same
  have dotted : '.' ∈ placeholder.toText.toList := by
    rw [Placeholder.toList_toText, Placeholder.parts, List.intercalate_cons_cons]
    simp
  rw [← same, String.toList_ofList] at dotted
  rcases Base64.mem_encode dotted with digit | pad
  · exact absurd digit (by decide)
  · exact absurd pad (by decide)

theorem Foreign.proxyVariables {script : List BootOracle} (foreign : Foreign settings script)
    {item : String × String} (member : item ∈ proxyVariables settings certificate vm)
    (placeholder : Placeholder) : item.2 ≠ placeholder.toText := by
  rw [Drukbox.proxyVariables] at member
  split at member
  · cases member
  · simp only [ProxyInjection.proxyVariables, List.mem_cons, List.not_mem_nil, or_false] at member
    rcases member with rfl | rfl | rfl | rfl | rfl | rfl | rfl | rfl
    · exact foreign.proxyUrl placeholder
    · exact foreign.proxyUrl placeholder
    · exact ne_toText placeholder (by decide)
    · exact encode_ne_toText certificate placeholder
    · exact ne_toText placeholder (by decide)
    · exact ne_toText placeholder (by decide)
    · exact ne_toText placeholder (by decide)
    · exact ne_toText placeholder (by decide)

/-- A recorded join key is one that Tailscale issued. -/
theorem issued_of_play {α : Type} (program : Task α) (script : List BootOracle)
    (before : BootRecord) {joinKey : String}
    (issued : (program.play (boot settings certificate vm) script before).2.joinKey =
      some joinKey) :
    before.joinKey = some joinKey ∨ ∃ oracle ∈ script, oracle.joinKey = joinKey := by
  induction program generalizing before script with
  | done value => exact .inl issued
  | raise error => exact .inl issued
  | call op resume ih =>
      cases script with
      | nil => exact .inl issued
      | cons oracle script =>
          have step : (boot settings certificate vm op oracle before).2.joinKey = some joinKey →
              before.joinKey = some joinKey ∨ oracle.joinKey = joinKey := by
            intro recorded
            rw [boot.eq_def] at recorded
            split at recorded
            · split at recorded
              · exact .inl recorded
              · exact .inr (Option.some.inj recorded)
            · split at recorded
              · exact .inl recorded
              · exact .inl recorded
            · exact .inl recorded
            · exact .inl recorded
          rcases ih _ script _ issued with recorded | ⟨other, member, same⟩
          · rcases step recorded with old | new
            · exact .inl old
            · exact .inr ⟨oracle, List.mem_cons_self, new⟩
          · exact .inr ⟨other, List.mem_cons_of_mem _ member, same⟩

theorem Composed.separate (composed : Composed settings certificate host vm record environment)
    (joinKey : ∀ key, record.joinKey = some key → ∀ placeholder : Placeholder,
      key ≠ placeholder.toText)
    (foreign : ∀ item ∈ proxyVariables settings certificate vm, ∀ placeholder : Placeholder,
      item.2 ≠ placeholder.toText)
    (hostName : vm.tailnet →
      (∀ item ∈ host.secrets, variableOf item ≠ some "TAILSCALE_HOSTNAME") →
      environment.lookup "TAILSCALE_HOSTNAME" = some host.name) :
    Separate host vm := by
  refine ⟨?_, ?_, ?_⟩
  · intro joins item member fills
    obtain ⟨key, issued, holds⟩ := composed.join joins
    obtain ⟨name, placeholder, resolves, -, -, -, passed⟩ := composed.secrets item member
    obtain rfl := Option.some.inj (resolves.symm.trans fills)
    exact joinKey key issued placeholder (Option.some.inj (holds.symm.trans passed))
  · intro swaps item member name listed fills
    obtain ⟨other, placeholder, resolves, -, -, -, passed⟩ := composed.secrets item member
    obtain rfl := Option.some.inj (resolves.symm.trans fills)
    have names := proxyVariables_names settings certificate vm
    rw [if_neg (Bool.eq_false_iff.mp swaps)] at names
    rw [← names] at listed
    obtain ⟨setting, present, rfl⟩ := List.mem_map.mp listed
    have holds := composed.proxy (List.ne_nil_of_mem member) setting present
    exact foreign setting present placeholder (Option.some.inj (holds.symm.trans passed))
  · intro joins value given unset
    have free : ¬ Filled settings certificate host vm "TAILSCALE_HOSTNAME" := by
      rintro (⟨-, same⟩ | ⟨item, member, fills⟩ | ⟨-, listed⟩)
      · exact absurd same (by decide)
      · exact unset item member fills
      · obtain ⟨item, member, same⟩ := List.mem_map.mp listed
        have found := Dict.lookup_of_mem (proxyVariables_nodup _ _ _) member
        rw [same, proxyVariables_tailnet.2] at found
        cases found
    have holds := composed.caller _ value given free
    exact Option.some.inj (holds.symm.trans (hostName joins unset))

theorem lookup_passed (base : Dict String) (injections : List (Service × Placeholder))
    (name : String) :
    (base.update (compose settings certificate vm injections [])).lookup name =
      ((compose settings certificate vm injections []).lookup name).or (base.lookup name) := by
  have empty : (([] : Dict String).map Prod.fst).Nodup := .nil
  rw [Dict.lookup_update_of_nodup _ (compose_nodup injections empty)]

/-- The join credentials come behind the caller's environment. -/
theorem lookup_joined (joinKey name : String) :
    (host.env.update (joinCredentials joinKey host.name)).lookup name =
      if name = "TAILSCALE_AUTHKEY" then some joinKey
      else if name = "TAILSCALE_HOSTNAME" then some host.name
      else host.env.lookup name := by
  have distinct : ((joinCredentials joinKey host.name).map Prod.fst).Nodup := by
    change (["TAILSCALE_AUTHKEY", "TAILSCALE_HOSTNAME"] : List String).Nodup
    decide
  rw [Dict.lookup_update_of_nodup _ distinct, joinCredentials, Dict.lookup_cons, Dict.lookup_cons]
  split
  · rfl
  · split
    · rfl
    · rfl

variable {base : Dict String} {injections : List (Service × Placeholder)}

/-- On the tailnet the host's name stands unless a secret takes its variable. -/
theorem lookup_hostName (joined : Joined host vm record base)
    (made : Injects host host.secrets injections) (joins : vm.tailnet)
    (unset : ∀ item ∈ host.secrets, variableOf item ≠ some "TAILSCALE_HOSTNAME") :
    (base.update (compose settings certificate vm injections [])).lookup "TAILSCALE_HOSTNAME" =
      some host.name := by
  rw [Joined, if_pos joins] at joined
  obtain ⟨joinKey, -, rfl⟩ := joined
  rw [lookup_passed, made.lookup_compose_none unset fun _ => proxyVariables_tailnet.2,
    Option.none_or, lookup_joined]
  rfl

section Merge

variable (names : (host.secrets.map Prod.fst).Nodup)
  (distinct : (host.secrets.map variableOf).Nodup)
  (made : Injects host host.secrets injections) (minted : record.minted = mint injections [])

include names made minted in
theorem injection_of_item {item : String × SecretEntry} (member : item ∈ host.secrets) :
    ∃ injection ∈ injections, variableOf item = some injection.1.authVariable ∧
      record.minted.lookup item.1 = some injection.2 ∧ injection.2.hostId = host.id ∧
      injection.2.service = item.1 := by
  obtain ⟨injection, listed, resolves, hostId, service⟩ := made.of_item member
  have held := made.lookup_mint names listed
  rw [service] at held
  exact ⟨injection, listed, by rw [variableOf, resolves, Option.map_some], minted ▸ held, hostId,
    service⟩

include names distinct made minted in
theorem lookup_secret (base : Dict String) (separate : Separate host vm)
    {item : String × SecretEntry} (member : item ∈ host.secrets) :
    ∃ name placeholder, variableOf item = some name ∧
      record.minted.lookup item.1 = some placeholder ∧ placeholder.hostId = host.id ∧
      placeholder.service = item.1 ∧
      (base.update (compose settings certificate vm injections [])).lookup name =
        some placeholder.toText := by
  obtain ⟨injection, listed, resolves, held, hostId, service⟩ :=
    injection_of_item names made minted member
  refine ⟨_, injection.2, resolves, held, hostId, service, ?_⟩
  rw [lookup_passed]
  cases setting : (proxyVariables settings certificate vm).lookup injection.1.authVariable with
  | none => rw [made.lookup_compose distinct listed setting, Option.some_or]
  | some value =>
      have named : injection.1.authVariable ∈
          (proxyVariables settings certificate vm).map Prod.fst :=
        List.mem_map.mpr ⟨_, Dict.mem_of_lookup setting, rfl⟩
      rw [proxyVariables_names] at named
      split at named
      · cases named
      · next swaps =>
          exact absurd resolves (separate.proxy (Bool.eq_false_iff.mpr swaps) item member _ named)

include made in
theorem lookup_proxy (some_secret : host.secrets ≠ []) {item : String × String}
    (member : item ∈ proxyVariables settings certificate vm) :
    (base.update (compose settings certificate vm injections [])).lookup item.1 =
      some item.2 := by
  have filled : injections ≠ [] := by
    rintro rfl
    exact some_secret (List.map_eq_nil_iff.mp made.names.symm)
  rw [lookup_passed, lookup_compose_proxy filled
    (Dict.lookup_of_mem (proxyVariables_nodup _ _ _) member),
    Option.some_or]

include made in
theorem lookup_joinKey (separate : Separate host vm) (joined : Joined host vm record base)
    (joins : vm.tailnet) :
    ∃ joinKey, record.joinKey = some joinKey ∧
      (base.update (compose settings certificate vm injections [])).lookup "TAILSCALE_AUTHKEY" =
        some joinKey := by
  rw [Joined, if_pos joins] at joined
  obtain ⟨joinKey, issued, rfl⟩ := joined
  refine ⟨joinKey, issued, ?_⟩
  rw [lookup_passed, made.lookup_compose_none (separate.join joins) fun _ =>
    proxyVariables_tailnet.1, Option.none_or, lookup_joined, if_pos rfl]

include made in
theorem lookup_caller (separate : Separate host vm) (joined : Joined host vm record base)
    {name value : String}
    (given : host.env.lookup name = some value)
    (free : ¬ Filled settings certificate host vm name) :
    (base.update (compose settings certificate vm injections [])).lookup name = some value := by
  have unset : ∀ item ∈ host.secrets, variableOf item ≠ some name :=
    fun item member fills => free (.inr (.inl ⟨item, member, fills⟩))
  have unproxied (filled : injections ≠ []) :
      (proxyVariables settings certificate vm).lookup name = none := by
    have some_secret : host.secrets ≠ [] := by
      intro empty
      rw [empty] at made
      cases made
      exact filled rfl
    cases setting : (proxyVariables settings certificate vm).lookup name with
    | none => rfl
    | some held =>
        exact absurd (.inr (.inr ⟨some_secret,
          List.mem_map.mpr ⟨_, Dict.mem_of_lookup setting, rfl⟩⟩)) free
  rw [lookup_passed, made.lookup_compose_none unset unproxied, Option.none_or]
  rw [Joined] at joined
  split at joined
  · next joins =>
      obtain ⟨joinKey, -, rfl⟩ := joined
      rw [lookup_joined, if_neg fun same => free (.inl ⟨joins, same⟩)]
      split
      · next same =>
          subst same
          rw [separate.hostName joins value given unset]
      · exact given
  · rw [joined]
    exact given

end Merge

/-- If `provision` reaches `create_vm`, every source of the environment that it passes has what it
set where no two of them set one name, and only there: a join key or an address of the proxy that is
itself a placeholder apart. -/
theorem provision_composed_iff (deployment : Deployment) (certificate : List UInt8)
    (request : HostCreate) (secrets : Dict Registration)
    (valid : request.validate = .ok secrets) (host : Host)
    (stored : host.secrets = storage secrets) (vm : VMProvider)
    (known : deployment.getVmProvider (some host.provider) = .ok vm) (script : List BootOracle)
    (passed : Dict String)
    (reaches : ((provision deployment host).play (boot deployment.settings certificate vm) script
      {}).2.started = some passed) :
    let record := ((provision deployment host).play (boot deployment.settings certificate vm) script
      {}).2
    (Separate host vm → Composed deployment.settings certificate host vm record passed) ∧
      (Foreign deployment.settings script →
        Composed deployment.settings certificate host vm record passed → Separate host vm) := by
  intro record
  have accepted := accepted_of_validate valid
  rw [← stored] at accepted
  obtain ⟨base, injections, joined, made, minted, rfl⟩ :=
    (provision_spec known).play script passed reaches
  constructor
  · intro separate
    exact
      { join := lookup_joinKey made separate joined
        secrets := fun item member =>
          lookup_secret accepted.names accepted.distinct made minted base separate member
        proxy := fun some_secret item member => lookup_proxy made some_secret member
        caller := fun name value => lookup_caller made separate joined }
  · intro foreign composed
    refine composed.separate (fun key issued placeholder same => ?_)
      (fun item member placeholder => foreign.proxyVariables member placeholder)
      fun joins unset => lookup_hostName joined made joins unset
    rcases issued_of_play _ _ _ issued with fresh | ⟨oracle, member, rfl⟩
    · cases fresh
    · exact foreign.joinKey oracle member placeholder same

/-- AWS on the tailnet. -/
def awsOnTailnet : VMProvider where
  name := "aws"
  defaultImage := "ami-1"
  supportsInstanceType := true
  supportsDiskGb := true
  tailnet := true
  gateway := false
  buildsTemplates := false
  needsValue := false
  maxLifetime := none

/-- A deployment of it, with a proxy. -/
def withProxy : Deployment :=
  { Deployment.sample with
    settings :=
      { Deployment.sample.settings with
        secretsProxyUrl := "http://proxy:8880", secretsProxyCaFile := "/ca.pem" }
    providers := [awsOnTailnet] }

/-- A request with one secret, of a service of its own. -/
def stripe (name : String) : HostCreate where
  secrets :=
    [("stripe", { host := some "api.stripe.com", authVariable := some name, value := some "sk" })]
  secrets_nodup := List.nodup_singleton _

def stripeHost (name : String) : Host :=
  { Host.sample 7 with provider := "aws", secrets := storage (stripe name).secrets }

/-- What `provision` records of it. -/
def stripeRecord (name : String) : BootRecord :=
  ((provision withProxy (stripeHost name)).play (boot withProxy.settings [] awsOnTailnet)
    (List.replicate 8 .smooth) {}).2

/-- What that `provision` passes to `create_vm`. -/
def stripeEnvironment (name : String) : Dict String :=
  (stripeRecord name).started.getD []

theorem provision_composed_stripe :
    (stripeRecord "STRIPE_KEY").started = some (stripeEnvironment "STRIPE_KEY") ∧
      Composed withProxy.settings [] (stripeHost "STRIPE_KEY") awsOnTailnet
        (stripeRecord "STRIPE_KEY") (stripeEnvironment "STRIPE_KEY") := by
  have reaches : (stripeRecord "STRIPE_KEY").started = some (stripeEnvironment "STRIPE_KEY") := by
    decide +kernel
  have apart : ∀ item ∈ (stripeHost "STRIPE_KEY").secrets,
      variableOf item = some "STRIPE_KEY" := by
    intro item member
    cases List.mem_singleton.mp member
    rfl
  refine ⟨reaches, ?_⟩
  unfold stripeRecord at reaches ⊢
  refine (provision_composed_iff withProxy [] (stripe "STRIPE_KEY") _ rfl
    (stripeHost "STRIPE_KEY") rfl awsOnTailnet rfl _ _ reaches).1 ⟨?_, ?_, ?_⟩
  · intro _ item member fills
    exact absurd ((apart item member).symm.trans fills) (by decide)
  · intro _ item member name listed fills
    obtain rfl := Option.some.inj ((apart item member).symm.trans fills)
    exact absurd listed (by decide)
  · intro _ value given
    cases given

/-- A secret under the name of the join key takes its place. -/
theorem provision_replaces_joinKey :
    (stripe "TAILSCALE_AUTHKEY").validate = .ok (stripe "TAILSCALE_AUTHKEY").secrets ∧
      (stripeRecord "TAILSCALE_AUTHKEY").started =
        some (stripeEnvironment "TAILSCALE_AUTHKEY") ∧
      (stripeRecord "TAILSCALE_AUTHKEY").joinKey = some "tskey-auth-k1" ∧
      (stripeEnvironment "TAILSCALE_AUTHKEY").lookup "TAILSCALE_AUTHKEY" =
        some "drk.00000000000000000000000000000007.stripe.random" ∧
      ¬ Composed withProxy.settings [] (stripeHost "TAILSCALE_AUTHKEY") awsOnTailnet
        (stripeRecord "TAILSCALE_AUTHKEY") (stripeEnvironment "TAILSCALE_AUTHKEY") := by
  obtain ⟨issued, passed⟩ :
      (stripeRecord "TAILSCALE_AUTHKEY").joinKey = some "tskey-auth-k1" ∧
        (stripeEnvironment "TAILSCALE_AUTHKEY").lookup "TAILSCALE_AUTHKEY" =
          some "drk.00000000000000000000000000000007.stripe.random" := by
    decide +kernel
  have reaches : (stripeRecord "TAILSCALE_AUTHKEY").started =
      some (stripeEnvironment "TAILSCALE_AUTHKEY") := by
    cases started : (stripeRecord "TAILSCALE_AUTHKEY").started with
    | none => simp [stripeEnvironment, started] at passed
    | some environment => simp [stripeEnvironment, started]
  refine ⟨rfl, reaches, issued, passed, fun composed => ?_⟩
  obtain ⟨joinKey, same, holds⟩ := composed.join rfl
  have equal := (passed.symm.trans holds).trans (same.symm.trans issued)
  exact absurd equal (by decide)

end Result

end HostService

end Drukbox
