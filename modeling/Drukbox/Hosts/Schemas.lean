import Drukbox.HostSecrets.Schemas

/-!
# Host requests

`HostCreate` refuses an environment that a provider would change, and secrets that would overwrite
each other's variable.
-/

namespace Drukbox

/-- `hosts.schemas.HostCreate`, as far as the environment and the secrets go. -/
structure HostCreate where
  env : Dict String := []
  secrets : Dict Registration := []
  /-- A mapping has each key once. -/
  secrets_nodup : (secrets.map Prod.fst).Nodup := by decide

namespace HostCreate

def reservedHostEnvKeys : List String := ["TAILSCALE_AUTHKEY"]

/-- `", ".join(sorted(keys))`. -/
def joinSorted (keys : List String) : String :=
  ", ".intercalate (keys.mergeSort fun left right => left ≤ right)

def rejectReservedEnvKeys (env : Dict String) : Except Failure Unit := do
  let keys := env.map Prod.fst
  let badKeys := keys.filter fun key => !Environment.isName key.toList
  if badKeys ≠ [] then
    throw
      { kind := .value
        detail := "env keys must be valid environment variable names: " ++ joinSorted badKeys }
  let reservedKeys := keys.filter reservedHostEnvKeys.contains
  if reservedKeys ≠ [] then
    throw
      { kind := .value
        detail := "reserved env keys are not allowed: " ++ joinSorted reservedKeys }
  let _ ← Environment.getPersist env

/-- `reject_unknown_secret_services`, with the variables of the entries so far. -/
def rejectUnknownSecretServices : Dict Registration → Dict String → Except Failure Unit
  | [], _ => .ok ()
  | (name, registration) :: rest, taken => do
      if !isSecretName name.toList then
        throw { kind := .value, detail := "invalid secret service name '" ++ name ++ "'" }
      if (given registration.host).isNone ∧ (Catalog.catalog.lookup name).isNone then
        throw { kind := .value, detail := "unknown secret service '" ++ name ++ "'" }
      let service ← required name (Catalog.service name registration.toStorage)
      match taken.lookup service.authVariable with
      | some other =>
          throw
            { kind := .value
              detail :=
                "secret services '" ++ other ++ "' and '" ++ name ++ "' share the variable " ++
                  service.authVariable }
      | none => rejectUnknownSecretServices rest (taken.set service.authVariable name)

/-- The validation of a request: the registrations as they were accepted. -/
def validate (request : HostCreate) : Except Failure (Dict Registration) := do
  rejectReservedEnvKeys request.env
  let secrets ← request.secrets.mapM fun item => do
    let registration ← item.2.read
    return (item.1, registration)
  rejectUnknownSecretServices secrets []
  return secrets

/-- The entries that the host row stores. -/
def storage (secrets : Dict Registration) : Dict SecretEntry :=
  secrets.map fun item => (item.1, item.2.toStorage)

/-- The variable that an entry fills in the box. -/
def variableOf (item : String × SecretEntry) : Option String :=
  (Catalog.service item.1 item.2).map Service.authVariable

/-- Accepted entries resolve, to variables of their own. -/
theorem resolves_of_rejectUnknownSecretServices {secrets : Dict Registration}
    {taken : Dict String} (accepted : rejectUnknownSecretServices secrets taken = .ok ()) :
    (∀ item ∈ storage secrets, ∃ service, Catalog.service item.1 item.2 = some service ∧
      taken.lookup service.authVariable = none) ∧
    ((storage secrets).map variableOf).Nodup := by
  induction secrets generalizing taken with
  | nil => simp [storage]
  | cons item rest ih =>
      obtain ⟨name, registration⟩ := item
      simp only [rejectUnknownSecretServices, bind, Except.bind, throw, throwThe,
        MonadExceptOf.throw] at accepted
      split at accepted
      · cases accepted
      · split at accepted
        · cases accepted
        · cases resolved : Catalog.service name registration.toStorage with
          | none =>
              rw [resolved] at accepted
              cases accepted
          | some service =>
              rw [resolved] at accepted
              simp only [required] at accepted
              split at accepted
              · cases accepted
              · next free =>
                  obtain ⟨later, distinct⟩ := ih accepted
                  have others : ∀ item ∈ storage rest, ∃ other,
                      Catalog.service item.1 item.2 = some other ∧
                        other.authVariable ≠ service.authVariable ∧
                        taken.lookup other.authVariable = none := by
                    intro item member
                    obtain ⟨other, resolves, unset⟩ := later item member
                    rw [Dict.lookup_set] at unset
                    by_cases same : other.authVariable = service.authVariable
                    · rw [if_pos same] at unset
                      cases unset
                    · rw [if_neg same] at unset
                      exact ⟨other, resolves, same, unset⟩
                  constructor
                  · intro item member
                    rcases List.mem_cons.mp member with rfl | member
                    · exact ⟨service, resolved, free⟩
                    · obtain ⟨other, resolves, -, unset⟩ := others item member
                      exact ⟨other, resolves, unset⟩
                  · refine List.nodup_cons.mpr ⟨fun repeated => ?_, distinct⟩
                    obtain ⟨item, member, same⟩ := List.mem_map.mp repeated
                    obtain ⟨other, resolves, different, -⟩ := others item member
                    simp only [variableOf, resolves, resolved, Option.map_some,
                      Option.some.injEq] at same
                    exact different same

theorem known_of_rejectUnknownSecretServices {secrets : Dict Registration} {taken : Dict String}
    (accepted : rejectUnknownSecretServices secrets taken = .ok ()) :
    ∀ item ∈ secrets, (given item.2.host).isSome ∨ (Catalog.catalog.lookup item.1).isSome := by
  induction secrets generalizing taken with
  | nil => rintro item ⟨⟩
  | cons first rest ih =>
      simp only [rejectUnknownSecretServices, bind, Except.bind, throw, throwThe,
        MonadExceptOf.throw] at accepted
      split at accepted
      · cases accepted
      · split at accepted
        · cases accepted
        · next known =>
            split at accepted
            · cases accepted
            · split at accepted
              · cases accepted
              · intro item member
                rcases List.mem_cons.mp member with rfl | member
                · rw [not_and_or] at known
                  simpa [Option.isSome_iff_ne_none] using known
                · exact ih accepted item member

/-- Every accepted entry is read from the registration of its name. -/
theorem read_of_mapM {secrets accepted : Dict Registration}
    (read : (secrets.mapM fun item : String × Registration => do
      let registration ← item.2.read
      return (item.1, registration)) = Except.ok (ε := Failure) accepted) :
    List.Forall₂ (fun sent item => item.1 = sent.1 ∧ sent.2.read = .ok item.2) secrets
      accepted := by
  induction secrets generalizing accepted with
  | nil =>
      cases read
      exact .nil
  | cons item rest ih =>
      rw [List.mapM_cons] at read
      cases first : item.2.read with
      | error failure =>
          rw [first] at read
          cases read
      | ok registration =>
          rw [first] at read
          simp only [bind, Except.bind, pure, Except.pure] at read ih
          split at read
          · cases read
          · next others later =>
              cases read
              exact .cons ⟨rfl, first⟩ (ih later)

theorem names_of_read {secrets accepted : Dict Registration}
    (read : List.Forall₂ (fun sent item => item.1 = sent.1 ∧ Registration.read sent.2 = .ok item.2)
      secrets accepted) : accepted.map Prod.fst = secrets.map Prod.fst := by
  induction read with
  | nil => rfl
  | cons here _ ih => rw [List.map_cons, List.map_cons, here.1, ih]

theorem raw_of_read {secrets accepted : Dict Registration}
    (read : List.Forall₂ (fun sent item => item.1 = sent.1 ∧ Registration.read sent.2 = .ok item.2)
      secrets accepted) : ∀ item ∈ accepted, ∃ raw, Registration.read raw = .ok item.2 := by
  induction read with
  | nil => rintro item ⟨⟩
  | cons here _ ih => exact List.forall_mem_cons.mpr ⟨⟨_, here.2⟩, ih⟩

/-- An accepted request: distinct names, entries that resolve to distinct variables, and a caller
environment without reserved key. -/
structure Accepted (request : HostCreate) (secrets : Dict SecretEntry) : Prop where
  names : (secrets.map Prod.fst).Nodup
  resolves : ∀ item ∈ secrets, ∃ service, Catalog.service item.1 item.2 = some service
  distinct : (secrets.map variableOf).Nodup
  unreserved : ∀ key ∈ reservedHostEnvKeys, request.env.lookup key = none

theorem unreserved_of_rejectReservedEnvKeys {env : Dict String}
    (accepted : rejectReservedEnvKeys env = .ok ()) :
    ∀ key ∈ reservedHostEnvKeys, env.lookup key = none := by
  intro key reserved
  simp only [rejectReservedEnvKeys, bind, Except.bind, throw, throwThe, MonadExceptOf.throw, pure,
    Except.pure] at accepted
  split at accepted
  · cases accepted
  · split at accepted
    · cases accepted
    · next free =>
        have absent : key ∉ env.map Prod.fst := by
          intro member
          have listed := List.mem_filter.mpr ⟨member, List.contains_iff_mem.mpr reserved⟩
          rw [not_not.mp free] at listed
          cases listed
        refine List.lookup_eq_none_iff.mpr fun item member => ?_
        have different : key ≠ item.1 := by
          rintro rfl
          exact absent (List.mem_map_of_mem member)
        simpa using different

/-- Validation checks the environment, reads the registrations and checks them together. -/
theorem checked_of_validate {request : HostCreate} {secrets : Dict Registration}
    (valid : request.validate = .ok secrets) :
    rejectReservedEnvKeys request.env = .ok () ∧
      List.Forall₂ (fun sent item => item.1 = sent.1 ∧ Registration.read sent.2 = .ok item.2)
        request.secrets secrets ∧ rejectUnknownSecretServices secrets [] = .ok () := by
  simp only [validate, bind, Except.bind, pure, Except.pure] at valid
  split at valid
  · cases valid
  · next environment =>
      split at valid
      · cases valid
      · next read =>
          split at valid
          · cases valid
          · next checked =>
              cases valid
              exact ⟨environment, read_of_mapM read, checked⟩

/-- What validation accepts. -/
theorem accepted_of_validate {request : HostCreate} {secrets : Dict Registration}
    (valid : request.validate = .ok secrets) : request.Accepted (storage secrets) := by
  obtain ⟨environment, read, checked⟩ := checked_of_validate valid
  obtain ⟨resolves, distinct⟩ := resolves_of_rejectUnknownSecretServices checked
  refine ⟨?_, fun item member => ?_, distinct, ?_⟩
  · have names := names_of_read read
    rw [storage, List.map_map]
    change (List.map Prod.fst _).Nodup
    rw [names]
    exact request.secrets_nodup
  · obtain ⟨service, resolved, -⟩ := resolves item member
    exact ⟨service, resolved⟩
  · exact unreserved_of_rejectReservedEnvKeys environment

/-- What an accepted request stores: every entry resolves to what the request asks for, and no two
to one variable. -/
theorem storage_resolves (request : HostCreate) (secrets : Dict Registration)
    (valid : request.validate = .ok secrets) :
    ((storage secrets).map variableOf).Nodup ∧
      List.Forall₂ (fun sent entry => entry.1 = sent.1 ∧ sent.2.Resolves entry.1 entry.2)
        request.secrets (storage secrets) := by
  obtain ⟨-, read, checked⟩ := checked_of_validate valid
  refine ⟨(resolves_of_rejectUnknownSecretServices checked).2, ?_⟩
  have known := known_of_rejectUnknownSecretServices checked
  rw [storage, List.forall₂_map_right_iff]
  refine List.forall₂_iff_zip.mpr ⟨read.length_eq, fun {sent item} paired => ?_⟩
  obtain ⟨same, accepted⟩ := (List.forall₂_iff_zip.mp read).2 paired
  have member : item ∈ secrets := (List.of_mem_zip paired).2
  exact ⟨same, Registration.resolves_of_read accepted (known item member)⟩

/-- A built-in host under a name of the caller's own, and a host with a variable of its own. -/
def githubRequest : HostCreate where
  secrets :=
    [("git", { host := some "GitHub.com", authHeader := some "X-Token", value := some "s"
               authVariable := some "T" }),
      ("mine", { host := some "api.example.com", authVariable := some "TOKEN", value := some "s" })]

theorem storage_resolves_github :
    List.Forall₂ (fun sent entry => entry.1 = sent.1 ∧ sent.2.Resolves entry.1 entry.2)
      githubRequest.secrets
      [("git", { host := some "github.com", value := some "s" }),
        ("mine", { host := some "api.example.com", authVariable := some "TOKEN"
                   authHeader := some "Authorization", authPrefix := some "Bearer "
                   value := some "s" })] :=
  (storage_resolves githubRequest
    [("git", { host := some "github.com", authHeader := some "X-Token", value := some "s"
               authVariable := some "T" }),
      ("mine", { host := some "api.example.com", authVariable := some "TOKEN", value := some "s" })]
    (by decide)).2

end HostCreate

end Drukbox
