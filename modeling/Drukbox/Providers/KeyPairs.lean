import Drukbox.Await.Script
import Drukbox.Core

/-!
# Key pairs at the providers

`create_vm` and `delete_vm` of the providers that keep a key pair for each VM, as far as they make
and remove remote objects.  A deletion of a key succeeds when it is made; any other request may
fail, with or without effect, and a VM may end by itself.
-/

namespace Drukbox

open Await

namespace Providers

/-- What a provider has: its key pairs, and the VMs that its lookups list. -/
structure Cloud where
  keys : String → Bool := fun _ => false
  servers : String → Bool := fun _ => false

/-- The requests that the three APIs make. -/
inductive Request
  /-- A request about neither a key pair nor a VM: images, instance types, security groups. -/
  | inquire
  | findKey (key : String)
  | importKey (key : String)
  | deleteKey (key : String)
  | createServer (name : String)
  /-- The polls of `wait_for_running_with_ip`. -/
  | awaitServer (name : String)
  | findServer (name : String)
  | deleteServer (name : String)
  deriving DecidableEq, Repr

inductive Reply
  | done
  /-- An empty list, or a 404. -/
  | absent
  | failed
  deriving DecidableEq, Repr

inductive Fate
  | served
  /-- It fails and has no effect. -/
  | refused
  /-- It has its effect, and its answer is lost. -/
  | lost
  /-- It is served after the VM has ended by itself. -/
  | gone
  deriving DecidableEq, Repr

namespace Cloud

def setKey (cloud : Cloud) (key : String) (present : Bool) : Cloud :=
  { cloud with keys := Function.update cloud.keys key present }

def setServer (cloud : Cloud) (name : String) (present : Bool) : Cloud :=
  { cloud with servers := Function.update cloud.servers name present }

@[simp] theorem setKey_keys (cloud : Cloud) (key : String) (present : Bool) :
    (cloud.setKey key present).keys key = present := by
  simp [setKey]

@[simp] theorem setServer_keys (cloud : Cloud) (name : String) (present : Bool) :
    (cloud.setServer name present).keys = cloud.keys := rfl

/-- A lookup or a deletion of one object that is there or not. -/
def reply (present : Bool) : Reply :=
  if present then .done else .absent

@[simp] theorem reply_true : reply true = .done := rfl

@[simp] theorem reply_false : reply false = .absent := rfl

def perform : Request → Fate → Cloud → Reply × Cloud
  | .deleteKey key, _, cloud => (reply (cloud.keys key), cloud.setKey key false)
  | .inquire, .served, cloud | .inquire, .gone, cloud => (.done, cloud)
  | .findKey key, .served, cloud | .findKey key, .gone, cloud => (reply (cloud.keys key), cloud)
  | .importKey key, .served, cloud | .importKey key, .gone, cloud =>
      if cloud.keys key then (.failed, cloud) else (.done, cloud.setKey key true)
  | .importKey key, .lost, cloud => (.failed, cloud.setKey key true)
  | .createServer name, .served, cloud | .createServer name, .gone, cloud =>
      (.done, cloud.setServer name true)
  | .createServer name, .lost, cloud => (.failed, cloud.setServer name true)
  | .awaitServer _, .served, cloud => (.done, cloud)
  | .awaitServer name, .gone, cloud => (.absent, cloud.setServer name false)
  | .findServer name, .served, cloud => (reply (cloud.servers name), cloud)
  | .findServer name, .gone, cloud => (.absent, cloud.setServer name false)
  | .deleteServer name, .served, cloud =>
      (reply (cloud.servers name), cloud.setServer name false)
  | .deleteServer name, .lost, cloud => (.failed, cloud.setServer name false)
  | .deleteServer name, .gone, cloud => (.absent, cloud.setServer name false)
  | _, _, cloud => (.failed, cloud)

theorem perform_deleteKey (key : String) (fate : Fate) (cloud : Cloud) :
    cloud.perform (.deleteKey key) fate = (reply (cloud.keys key), cloud.setKey key false) := by
  cases fate <;> rfl

end Cloud

abbrev Remote := Program (fun _ : Request => Reply)

inductive ApiError
  /-- `AwsVMNotFoundError`, `HetznerVMNotFoundError`, `ExoscaleVMNotFoundError`. -/
  | vmNotFound
  /-- Any other error of the API. -/
  | transport
  deriving DecidableEq, Repr

namespace ApiError

/-- `ProviderTransportError(str(exc))`. -/
def toTransport : ApiError → Failure
  | vmNotFound => { kind := .provider, detail := "not found" }
  | transport => { kind := .provider, detail := "transport failed" }

/-- The error itself, where nothing catches it. -/
def uncaught : ApiError → Failure
  | vmNotFound => { kind := .other, detail := "not found" }
  | transport => { kind := .other, detail := "transport failed" }

end ApiError

/-- A request whose 404 raises. -/
def send (request : Request) : Remote ApiError Unit := do
  match ← Program.await request with
  | .done => pure ()
  | .absent => .raise .vmNotFound
  | .failed => .raise .transport

/-- A lookup. -/
def has (request : Request) : Remote ApiError Bool := do
  match ← Program.await request with
  | .done => pure true
  | .absent => pure false
  | .failed => .raise .transport

/-- `except VMNotFoundError: return`. -/
def suppressing (body : Remote ApiError Unit) : Remote ApiError Unit := do
  match ← body.attempt with
  | .ok _ | .error .vmNotFound => pure ()
  | .error error => .raise error

/-- `except ProviderError as exc: await cleanup(); raise ProviderTransportError(str(exc))`. -/
def transporting {α : Type} (body : Remote ApiError α) (cleanup : Remote ApiError Unit) :
    Remote Failure α := do
  match ← body.attempt with
  | .ok value => pure value
  | .error error =>
      match ← cleanup.attempt with
      | .ok _ => .raise error.toTransport
      | .error raised => .raise raised.uncaught

/-- `f"drukbox-{name}"`. -/
def keyName (name : String) : String :=
  "drukbox-" ++ name

namespace Aws

/-- `AwsAPI.delete_key_pair`: it logs its errors. -/
def deleteKeyPair (key : String) : Remote ApiError Unit := do
  let _ ← Program.await (Request.deleteKey key)

/-- `AWSProvider.create_vm`, for an image by its id or not, a cached security group or not, and the
outcome of `get_cloud_init`. -/
def createVm (tailnet knownImage cachedGroup : Bool) (userData : Except Failure Unit)
    (name : String) : Remote Failure Unit := do
  if !knownImage then
    transporting (send .inquire) (pure ())
  if !tailnet then
    transporting (send (.importKey (keyName name))) (pure ())
    if !cachedGroup then
      transporting (send .inquire) (deleteKeyPair (keyName name))
  Program.ofExcept userData
  transporting (send (.createServer name))
    (if tailnet then pure () else deleteKeyPair (keyName name))
  if !tailnet then
    transporting (send (.awaitServer name)) (pure ())

/-- The body of `AWSProvider.delete_vm`; `false` is its own `ProviderNotFoundError`. -/
def removeVm (name : String) : Remote ApiError Bool := do
  if ← has (.findServer name) then
    send (.deleteServer name)
    deleteKeyPair (keyName name)
    pure true
  else
    pure false

def deleteVm (name : String) : Remote Failure Unit := do
  match ← (removeVm name).attempt with
  | .ok true => pure ()
  | .ok false =>
      .raise { kind := .providerNotFound, detail := "aws VM '" ++ name ++ "' was not found" }
  | .error .vmNotFound => .raise { kind := .providerNotFound, detail := name }
  | .error .transport => .raise ApiError.transport.toTransport

end Aws

/-- `create_vm` of a provider that always keeps a key pair. -/
def createKeyed (ensureSshKey deleteSshKey : String → Remote ApiError Unit)
    (createServer : String → Remote ApiError Unit) (userData : Except Failure Unit)
    (name : String) : Remote Failure Unit := do
  transporting (ensureSshKey (keyName name)) (pure ())
  Program.ofExcept userData
  transporting (createServer name) (deleteSshKey (keyName name))
  transporting (send (.awaitServer name)) (pure ())

/-- The body of `delete_vm` of such a provider; `false` is its own `ProviderNotFoundError`. -/
def removeKeyed (deleteSshKey : String → Remote ApiError Unit) (name : String) :
    Remote ApiError Bool := do
  deleteSshKey (keyName name)
  if ← has (.findServer name) then
    suppressing (send (.deleteServer name))
    pure true
  else
    pure false

/-- `delete_vm` of such a provider. -/
def deleteKeyed (provider : String) (deleteSshKey : String → Remote ApiError Unit)
    (name : String) : Remote Failure Unit := do
  if ← transporting (removeKeyed deleteSshKey name) (pure ()) then
    pure ()
  else
    .raise
      { kind := .providerNotFound, detail := provider ++ " VM '" ++ name ++ "' was not found" }

namespace Hetzner

def ensureSshKey (key : String) : Remote ApiError Unit := do
  if !(← has (.findKey key)) then
    send (.importKey key)

def deleteSshKey (key : String) : Remote ApiError Unit := do
  if ← has (.findKey key) then
    suppressing (send (.deleteKey key))

def createVm : Except Failure Unit → String → Remote Failure Unit :=
  createKeyed ensureSshKey deleteSshKey fun name => send (.createServer name)

def deleteVm : String → Remote Failure Unit :=
  deleteKeyed "hetzner" deleteSshKey

end Hetzner

namespace Exoscale

def ensureSshKey (key : String) : Remote ApiError Unit := do
  match ← (send (.findKey key)).attempt with
  | .ok _ => pure ()
  | .error .vmNotFound => send (.importKey key)
  | .error error => .raise error

def deleteSshKey (key : String) : Remote ApiError Unit :=
  suppressing (send (.deleteKey key))

/-- `ExoscaleAPI.create_instance`, which resolves the template and the instance type. -/
def createInstance (name : String) : Remote ApiError Unit := do
  send .inquire
  send .inquire
  send (.createServer name)

def createVm : Except Failure Unit → String → Remote Failure Unit :=
  createKeyed ensureSshKey deleteSshKey createInstance

def deleteVm : String → Remote Failure Unit :=
  deleteKeyed "exoscale" deleteSshKey

end Exoscale

/-- The providers that keep a key pair for each VM, AWS with its settings. -/
inductive KeyedProvider
  | aws (tailnet knownImage cachedGroup : Bool)
  | hetzner
  | exoscale
  deriving DecidableEq, Repr

namespace KeyedProvider

def createVm : KeyedProvider → Except Failure Unit → String → Remote Failure Unit
  | aws tailnet knownImage cachedGroup => Aws.createVm tailnet knownImage cachedGroup
  | hetzner => Hetzner.createVm
  | exoscale => Exoscale.createVm

def deleteVm : KeyedProvider → String → Remote Failure Unit
  | aws _ _ _ => Aws.deleteVm
  | hetzner => Hetzner.deleteVm
  | exoscale => Exoscale.deleteVm

def isAws : KeyedProvider → Bool
  | aws _ _ _ => true
  | _ => false

/-- What a `create_vm` and a sequence of `delete_vm` attempts leave behind. -/
def leaves (provider : KeyedProvider) (userData : Except Failure Unit) (name : String)
    (create : List Fate) (deletes : List (List Fate)) (start : Cloud) : Cloud :=
  deletes.foldl (fun cloud script => ((provider.deleteVm name).play Cloud.perform script cloud).2)
    ((provider.createVm userData name).play Cloud.perform create start).2

end KeyedProvider

/-- The host row is removed after such a `delete_vm`. -/
def removesRow : Outcome Failure Unit → Bool
  | .returned _ => true
  | .raised failure => failure.kind = .providerNotFound
  | .crashed => false

section Specs

variable {cloud : Cloud} {key name : String} {request : Request}

/-- The request imports no key pair of that name. -/
def spares (key : String) (request : Request) : Prop :=
  request ≠ .importKey key

theorem perform_spares (request : Request) (fate : Fate) (cloud : Cloud)
    (spared : spares key request) (absent : cloud.keys key = false) :
    (cloud.perform request fate).2.keys key = false := by
  have kept (other : String) (present : Bool) (harmless : other = key → present = false) :
      (cloud.setKey other present).keys key = false := by
    by_cases same : other = key
    · subst same
      rw [Cloud.setKey_keys, harmless rfl]
    · exact (Function.update_of_ne (Ne.symm same) present cloud.keys).trans absent
  cases request with
  | deleteKey other => exact kept other false fun _ => rfl
  | importKey other =>
      have different : other = key → true = false := fun same => absurd (same ▸ rfl) spared
      cases fate with
      | refused => exact absent
      | lost => exact kept other true different
      | served | gone =>
          rw [Cloud.perform]
          split
          · exact absent
          · exact kept other true different
  | inquire | findKey | createServer | awaitServer | findServer | deleteServer =>
      cases fate <;> exact absent

theorem send_all (spared : spares key request) : (send request).All (spares key) := by
  refine .step spared fun reply => ?_
  cases reply <;> trivial

theorem has_all (spared : spares key request) : (has request).All (spares key) := by
  refine .step spared fun reply => ?_
  cases reply <;> trivial

theorem suppressing_all {body : Remote ApiError Unit} (all : body.All (spares key)) :
    (suppressing body).All (spares key) := by
  refine all.attempt.bind fun outcome => ?_
  rcases outcome with (- | -) | - <;> trivial

/-- A key pair is gone once `delete_ssh_key` has returned. -/
def Removes (deleteSshKey : String → Remote ApiError Unit) : Prop :=
  ∀ key cloud, (deleteSshKey key).Ensures Cloud.perform cloud fun outcome after =>
    outcome = .returned () → after.keys key = false

theorem deleteKey_removes (key : String) (cloud : Cloud) :
    (suppressing (send (.deleteKey key))).Ensures Cloud.perform cloud fun outcome after =>
      outcome = .returned () → after.keys key = false := by
  constructor
  · intro returned
    cases returned
  · intro fate
    rw [Cloud.perform_deleteKey]
    cases cloud.keys key <;> exact fun _ => Cloud.setKey_keys cloud key false

theorem Hetzner.deleteSshKey_removes : Removes Hetzner.deleteSshKey := by
  intro key cloud
  constructor
  · intro returned
    cases returned
  · intro fate
    cases fate with
    | refused | lost =>
        intro returned
        cases returned
    | served | gone =>
        cases present : cloud.keys key with
        | false =>
            simp only [Cloud.perform, Cloud.reply, present]
            exact fun _ => present
        | true =>
            simp only [Cloud.perform, Cloud.reply, present]
            exact deleteKey_removes key cloud

theorem Exoscale.deleteSshKey_removes : Removes Exoscale.deleteSshKey := by
  intro key cloud
  exact deleteKey_removes key cloud

/-- The lookup and the deletion of the VM come after the key pair. -/
theorem removeKeyed_spec {deleteSshKey : String → Remote ApiError Unit}
    (removes : Removes deleteSshKey) (name : String) (cloud : Cloud) :
    (removeKeyed deleteSshKey name).Ensures Cloud.perform cloud fun outcome after =>
      ∀ found, outcome = .returned found → after.keys (keyName name) = false := by
  refine (removes (keyName name) cloud).bind ?_ ?_ ?_
  · intro _ after removed
    have rest : Program.All (spares (keyName name))
        ((has (.findServer name)).bind fun found =>
          if found then (suppressing (send (.deleteServer name))).bind fun _ => .done true
          else .done false) := by
      refine (has_all (by simp [spares])).bind fun found => ?_
      cases found with
      | false => trivial
      | true => exact (suppressing_all (send_all (by simp [spares]))).bind fun _ => trivial
    exact (rest.ensures (fun request fate state spared absent =>
      perform_spares request fate state spared absent) (removed rfl)).mono
      fun outcome state absent found returned => absent
  · intro error state middle found returned
    cases returned
  · intro state middle found returned
    cases returned

/-- The error that a handler raises is no `ProviderNotFoundError`. -/
theorem transporting_spec {α : Type} {body : Remote ApiError α} {holds : α → Cloud → Prop}
    (ensures : body.Ensures Cloud.perform cloud fun outcome after =>
      ∀ value, outcome = .returned value → holds value after) :
    (transporting body (pure ())).Ensures Cloud.perform cloud fun outcome after =>
      match outcome with
      | .returned value => holds value after
      | .raised failure => failure.kind ≠ .providerNotFound
      | .crashed => True := by
  have attempted : (body.attempt : Remote Failure _).Ensures Cloud.perform cloud
      fun outcome after => (∀ value, outcome = .returned (.ok value) → holds value after) ∧
        ∀ failure, outcome ≠ .raised failure := by
    refine Program.Ensures.attempt (ensures.mono fun outcome after result => ?_)
    cases outcome with
    | returned value =>
        refine ⟨fun other same => ?_, fun failure different => ?_⟩
        · cases same
          exact result value rfl
        · cases different
    | raised error | crashed => simp
  refine attempted.bind ?_ ?_ ?_
  · rintro outcome after ⟨result, -⟩
    cases outcome with
    | ok value => exact result value rfl
    | error error => cases error <;> exact ErrorKind.noConfusion
  · rintro failure after ⟨-, impossible⟩
    exact absurd rfl (impossible failure)
  · intro after crashed
    trivial

theorem deleteKeyed_spec {provider : String} {deleteSshKey : String → Remote ApiError Unit}
    (removes : Removes deleteSshKey) (name : String) (cloud : Cloud) :
    (deleteKeyed provider deleteSshKey name).Ensures Cloud.perform cloud fun outcome after =>
      removesRow outcome → after.keys (keyName name) = false := by
  refine (transporting_spec (removeKeyed_spec removes name cloud)).bind ?_ ?_ ?_
  · intro found after absent
    cases found <;> exact fun _ => absent
  · intro failure after different removed
    exact absurd (of_decide_eq_true removed) different
  · intro after crashed removed
    cases removed

theorem Aws.deleteVm_eq (name : String) :
    Aws.deleteVm name = .call (.findServer name) fun
      | .done => .call (.deleteServer name) fun
        | .done => .call (.deleteKey (keyName name)) fun _ => .done ()
        | .absent => .raise { kind := .providerNotFound, detail := name }
        | .failed => .raise ApiError.transport.toTransport
      | .absent =>
          .raise { kind := .providerNotFound, detail := "aws VM '" ++ name ++ "' was not found" }
      | .failed => .raise ApiError.transport.toTransport := by
  refine congrArg (Program.call _) (funext fun found => ?_)
  cases found with
  | done =>
      refine congrArg (Program.call _) (funext fun deleted => ?_)
      cases deleted <;> rfl
  | absent | failed => rfl

/-- `delete_vm` of AWS leaves a key pair exactly where it finds no VM for it. -/
theorem Aws.deleteVm_iff (name : String) (script : List Fate) (cloud : Cloud)
    (removes : removesRow ((Aws.deleteVm name).play Cloud.perform script cloud).1) :
    ((Aws.deleteVm name).play Cloud.perform script cloud).2.keys (keyName name) = false ↔
      (cloud.keys (keyName name) → cloud.servers name ∧ Fate.gone ∉ script.take 2) := by
  rw [Aws.deleteVm_eq] at removes ⊢
  cases script with
  | nil => cases removes
  | cons first script =>
      cases first with
      | refused | lost => cases removes
      | gone => simp [Program.play, Cloud.perform]
      | served =>
          cases present : cloud.servers name with
          | false => simp [Program.play, Cloud.perform, present]
          | true =>
              simp only [Program.play, Cloud.perform, present, Cloud.reply_true] at removes ⊢
              cases script with
              | nil => cases removes
              | cons second script =>
                  cases second with
                  | refused | lost => cases removes
                  | gone => simp [Program.play, Cloud.perform]
                  | served =>
                      simp only [Program.play, Cloud.perform, present,
                        Cloud.reply_true] at removes ⊢
                      cases script with
                      | nil => cases removes
                      | cons third script => simp [Program.play, Cloud.perform_deleteKey]

end Specs

/-- The state that an attempt of `delete_vm` meets lets it leave no key pair: only AWS looks for the
VM first. -/
def Findable (provider : KeyedProvider) (name : String) (script : List Fate) (cloud : Cloud) :
    Prop :=
  provider.isAws → cloud.keys (keyName name) → cloud.servers name ∧ Fate.gone ∉ script.take 2

/-- After a `create_vm` and any attempts of `delete_vm`, each of which may have ended anywhere, an
attempt that removes the host row leaves no key pair exactly where it met no key pair without VM. -/
theorem deleteVm_leaves_no_key (provider : KeyedProvider) (userData : Except Failure Unit)
    (name : String) (start : Cloud) (create : List Fate) (earlier : List (List Fate))
    (script : List Fate)
    (removes : removesRow
      ((provider.deleteVm name).play Cloud.perform script
        (provider.leaves userData name create earlier start)).1) :
    (provider.leaves userData name create (earlier ++ [script]) start).keys (keyName name) = false ↔
      Findable provider name script (provider.leaves userData name create earlier start) := by
  have last : provider.leaves userData name create (earlier ++ [script]) start =
      ((provider.deleteVm name).play Cloud.perform script
        (provider.leaves userData name create earlier start)).2 := by
    rw [KeyedProvider.leaves, List.foldl_append]
    rfl
  rw [last]
  cases provider with
  | aws tailnet knownImage cachedGroup =>
      refine (Aws.deleteVm_iff name script _ removes).trans ⟨fun found _ => found, ?_⟩
      exact fun findable => findable rfl
  | hetzner =>
      have removed := (deleteKeyed_spec Hetzner.deleteSshKey_removes name _).play script removes
      exact ⟨fun _ aws => (by cases aws), fun _ => removed⟩
  | exoscale =>
      have removed := (deleteKeyed_spec Exoscale.deleteSshKey_removes name _).play script removes
      exact ⟨fun _ aws => (by cases aws), fun _ => removed⟩

/-- AWS creates a VM, and the first attempt to delete it fails at the lookup.  The second one meets
the VM, and leaves no key pair. -/
theorem deleteVm_leaves_no_key_aws :
    let met := (KeyedProvider.aws false true true).leaves (.ok ()) "sb-1"
      [.served, .served, .served, .served] [[.refused]] {}
    met.keys "drukbox-sb-1" = true ∧ met.servers "sb-1" = true ∧
      removesRow (((KeyedProvider.aws false true true).deleteVm "sb-1").play Cloud.perform
        [.served, .served, .served] met).1 ∧
      ((KeyedProvider.aws false true true).leaves (.ok ()) "sb-1"
        [.served, .served, .served, .served] [[.refused], [.served, .served, .served]] {}).keys
          "drukbox-sb-1" = false := by
  intro met
  have removes : removesRow (((KeyedProvider.aws false true true).deleteVm "sb-1").play
      Cloud.perform [.served, .served, .served] met).1 := by
    rfl
  exact ⟨by rfl, by rfl, removes, (deleteVm_leaves_no_key (.aws false true true) (.ok ()) "sb-1" {}
    _ [[.refused]] _ removes).mpr fun _ _ => ⟨by rfl, by decide⟩⟩

/-- The process of an AWS create that crashes behind the key import leaves a key pair that the
teardown does not remove. -/
theorem deleteVm_leaves_key :
    removesRow (((KeyedProvider.aws false true true).deleteVm "sb-1").play Cloud.perform [.served]
        ((KeyedProvider.aws false true true).leaves (.ok ()) "sb-1" [.served] [] {})).1 ∧
      ((KeyedProvider.aws false true true).leaves (.ok ()) "sb-1" [.served] [[.served]] {}).keys
        "drukbox-sb-1" = true := by
  constructor <;> rfl

end Providers

end Drukbox
