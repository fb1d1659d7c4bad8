import Drukbox.Await.Script
import Drukbox.Core

/-!
# Sandboxes at Boat

`create_vm` and `delete_vm` of the Boat provider and the requests that they make.  Boat itself is a
parameter: what its answers are and what becomes of its sandboxes is known by its documentation
only.  A sandbox exists before it has the name by which `delete_vm` finds it. -/

namespace Drukbox

open Await

namespace Boat

/-- `BoatAuthError`, `BoatCommandError` and `BoatTransportError`. -/
inductive Fault
  | auth
  | command
  | transport
  deriving DecidableEq, Repr

/-- The requests of `BoatAPI`, over Boat's IDs and cursors. -/
inductive Request (ι κ : Type)
  | create (key : String)
  | rename (id : ι) (name : String)
  /-- The polls of `wait_ready`. -/
  | awaitReady (id : ι)
  | run (id : ι)
  | configureSsh (id : ι)
  | list (cursor : Option κ)
  | delete (id : ι)
  deriving DecidableEq, Repr

/-- What `request` returns or raises. -/
inductive Reply (ι κ : Type)
  | done
  | created (id : ι)
  | page (entries : List (ι × Option String)) (nextCursor : Option κ)
  /-- An object of another shape: whether reading it raises one of the exceptions that `create_vm`
  catches. -/
  | garbled (caught : Bool)
  /-- `BoatNotFoundError`, for a 404 on any path. -/
  | absent
  | fault (fault : Fault)
  deriving DecidableEq, Repr

/-- Boat answers with a success. -/
def Reply.accepted {ι κ : Type} : Reply ι κ → Bool
  | done | created _ | page _ _ | garbled _ => true
  | absent | fault _ => false

/-- The exceptions of `BoatAPI`. -/
inductive ApiError
  | notFound
  | fault (fault : Fault)
  /-- An answer of another shape. -/
  | shape (caught : Bool)
  /-- The caller has stopped waiting. -/
  | cancelled
  deriving DecidableEq, Repr

namespace ApiError

/-- `isinstance(exc, BoatError)`. -/
def isBoatError : ApiError → Bool
  | notFound | fault _ => true
  | shape _ | cancelled => false

/-- `isinstance(exc, (BoatError, KeyError, TypeError, ValueError))`. -/
def isCaught : ApiError → Bool
  | notFound | fault _ => true
  | shape caught => caught
  | cancelled => false

/-- The exception itself, where nothing catches it. -/
def uncaught : ApiError → Failure
  | notFound => { kind := .providerNotFound, detail := "Boat resource was not found" }
  | fault _ => { kind := .provider, detail := "Boat API transport failed" }
  | shape _ => { kind := .other, detail := "" }
  | cancelled => { kind := .other, detail := "" }

end ApiError

abbrev Remote (ι κ : Type) := Program (fun _ : Request ι κ => Reply ι κ)

section Programs

variable {ι κ : Type}

/-- A request whose answer is not read. -/
def submit (request : Request ι κ) : Remote ι κ ApiError Unit := do
  match ← Program.await request with
  | .absent => .raise .notFound
  | .fault fault => .raise (.fault fault)
  | .done | .created _ | .page _ _ | .garbled _ => pure ()

/-- A request whose answer is read. -/
def consult (request : Request ι κ) : Remote ι κ ApiError Unit := do
  match ← Program.await request with
  | .absent => .raise .notFound
  | .fault fault => .raise (.fault fault)
  | .garbled caught => .raise (.shape caught)
  | .done | .created _ | .page _ _ => pure ()

/-- One `POST` of `create_sandbox`. -/
def postSandbox (key : String) : Remote ι κ ApiError ι := do
  match ← Program.await (Request.create key) with
  | .created id => pure id
  | .absent => .raise .notFound
  | .fault fault => .raise (.fault fault)
  | .garbled caught => .raise (.shape caught)
  | .done | .page _ _ => .raise (.shape true)

def createRetries : ℕ := 2

/-- `create_sandbox`, with the retries that are left. -/
def createSandbox (key : String) : ℕ → Remote ι κ ApiError ι
  | 0 => postSandbox key
  | retries + 1 => do
      match ← (postSandbox key).attempt with
      | .ok id => pure id
      | .error (.fault .transport) => createSandbox key retries
      | .error error => .raise error

/-- `find_sandbox`.  The caller stops waiting after so many pages. -/
def findSandbox (name : String) : ℕ → Option κ → Remote ι κ ApiError ι
  | 0, _ => .raise .cancelled
  | pages + 1, cursor => do
      match ← Program.await (Request.list cursor) with
      | .page entries nextCursor =>
          match entries.find? (·.2 = some name) with
          | some entry => pure entry.1
          | none =>
              match nextCursor with
              | none => .raise .notFound
              | some cursor => findSandbox name pages (some cursor)
      | .absent => .raise .notFound
      | .fault fault => .raise (.fault fault)
      | .garbled caught => .raise (.shape caught)
      | .done | .created _ => .raise (.shape true)

/-- The body of the second `try` of `create_vm`. -/
def setUp (id : ι) (resourceName : String) : Remote ι κ ApiError Unit := do
  submit (.rename id resourceName)
  consult (.awaitReady id)
  consult (.run id)
  consult (.configureSsh id)

/-- `create_vm` from the ID on. -/
def provision [ToString ι] (id : ι) (resourceName : String) : Remote ι κ Failure ι := do
  match ← (setUp id resourceName).attempt with
  | .ok _ => pure id
  | .error error =>
      if error.isCaught then do
        let _ ← (submit (.delete id)).attempt
        .raise
          { kind := .provider
            detail := "Boat sandbox " ++ toString id ++ " provisioning failed" }
      else
        .raise error.uncaught

/-- `f"{self.service_label}:{name}"`. -/
def resourceName (serviceLabel name : String) : String :=
  serviceLabel ++ ":" ++ name

/-- `create_vm`, for the outcome of `get_cloud_init`. -/
def createVm [ToString ι] (serviceLabel name size : String) (script : Except Failure String) :
    Remote ι κ Failure ι := do
  if size ∉ ["small", "default", "large"] then
    .raise
      { kind := .provider, detail := "Boat instance_type must be small, default, or large" }
  else do
    let _ ← Program.ofExcept script
    match ← (createSandbox (resourceName serviceLabel name) createRetries).attempt with
    | .ok id => provision id (resourceName serviceLabel name)
    | .error error =>
        if error.isBoatError then
          .raise { kind := .provider, detail := "Boat sandbox allocation failed" }
        else
          .raise error.uncaught

def deleteVm (serviceLabel name : String) (pages : ℕ) : Remote ι κ ApiError Unit := do
  let id ← findSandbox (resourceName serviceLabel name) pages none
  submit (.delete id)

end Programs

/-- The host row goes after an attempt that ends so. -/
def Settles : Outcome ApiError Unit → Prop
  | .returned _ | .raised .notFound => True
  | .raised _ | .crashed => False

/-- A sandbox of the account. -/
structure Sandbox where
  /-- The idempotency key that it was made with. -/
  key : String
  /-- The display name that it was given. -/
  name : Option String := none
  /-- Boat has accepted its deletion. -/
  given : Bool := false
  deriving DecidableEq, Repr

/-- Boat, by the answer and the effect of a request, whatever becomes of it on its way. -/
structure Service (ι κ χ σ : Type) where
  perform : Request ι κ → χ → σ → Reply ι κ × σ
  sandbox : σ → ι → Option Sandbox
  /-- What the pages of the list hold from a cursor on. -/
  listing : σ → Option κ → List (ι × Option String)

namespace Service

variable {ι κ χ σ : Type}

/-- Boat has accepted the deletion of a sandbox. -/
def Given (service : Service ι κ χ σ) (state : σ) (id : ι) : Prop :=
  ∃ sandbox, service.sandbox state id = some sandbox ∧ sandbox.given

/-- A sandbox has a display name. -/
def Named (service : Service ι κ χ σ) (state : σ) (id : ι) (name : String) : Prop :=
  ∃ sandbox, service.sandbox state id = some sandbox ∧ sandbox.name = some name

/-- The one change of a sandbox that a request may cause. -/
def Changes (id : ι) : Request ι κ → Option Sandbox → Option Sandbox → Prop
  | .create key, none, some sandbox =>
      sandbox.key = key ∧ sandbox.name ≠ some key ∧ sandbox.given = false
  | .rename target name, some sandbox, changed =>
      target = id ∧ changed = some { sandbox with name := some name }
  | .delete target, some sandbox, changed =>
      target = id ∧ changed = some { sandbox with given := true }
  | _, _, _ => False

/-- What the provider relies on. -/
structure Documented (service : Service ι κ χ σ) : Prop where
  /-- A request has its one effect or none. -/
  effect : ∀ request choice state id,
    service.sandbox (service.perform request choice state).2 id = service.sandbox state id ∨
      Changes id request (service.sandbox state id)
        (service.sandbox (service.perform request choice state).2 id)
  /-- To read the list changes nothing. -/
  reads : ∀ cursor choice state, (service.perform (.list cursor) choice state).2 = state
  /-- The ID that a create returns is that of a sandbox of its key. -/
  created : ∀ key choice state id,
    (service.perform (.create key) choice state).1 = .created id →
      ∃ sandbox, service.sandbox (service.perform (.create key) choice state).2 id = some sandbox ∧
        sandbox.key = key
  /-- A name that Boat accepts is given, to a sandbox that still is there. -/
  renamed : ∀ id name choice state sandbox, service.sandbox state id = some sandbox →
    sandbox.given = false →
      (service.perform (.rename id name) choice state).1.accepted →
        service.Named (service.perform (.rename id name) choice state).2 id name
  /-- Boat owns a purge that it has accepted. -/
  deleted : ∀ id choice state sandbox, service.sandbox state id = some sandbox →
    (service.perform (.delete id) choice state).1.accepted →
      service.Given (service.perform (.delete id) choice state).2 id
  /-- A page has the next of the sandboxes, as far as Boat does not hide them. -/
  page : ∀ cursor choice state entries next,
    (service.perform (.list cursor) choice state).1 = .page entries next →
      ∃ shown, service.listing state cursor =
          shown ++ next.elim [] (fun cursor => service.listing state (some cursor)) ∧
        (next.isSome → shown ≠ []) ∧ entries ⊆ shown ∧
        ∀ entry ∈ shown, entry ∈ entries ∨ service.Given state entry.1
  /-- Boat can answer a lookup. -/
  answers : ∀ cursor state, ∃ choice entries next,
    (service.perform (.list cursor) choice state).1 = .page entries next
  /-- The list has the sandboxes of the account. -/
  listed : ∀ state id sandbox, service.sandbox state id = some sandbox →
    (id, sandbox.name) ∈ service.listing state none
  lists : ∀ state cursor id name, (id, name) ∈ service.listing state cursor →
    ∃ sandbox, service.sandbox state id = some sandbox ∧ sandbox.name = name

end Service

/-- An attempt at `delete_vm`: the pages that it waits for, and what becomes of its requests. -/
structure Attempt (χ : Type) where
  pages : ℕ
  script : List χ

section Leaks

variable {ι κ χ σ : Type} (service : Service ι κ χ σ)

/-- A 404 is true: the sandbox has been given for deletion. -/
def Truthful (id : ι) (request : Request ι κ) (choice : χ) (state : σ) : Prop :=
  (service.perform request choice state).1 = .absent →
    service.Given (service.perform request choice state).2 id

/-- How an attempt ends. -/
def Attempt.play (attempt : Attempt χ) (serviceLabel name : String) (state : σ) :
    Outcome ApiError Unit × σ :=
  (deleteVm serviceLabel name attempt.pages).play service.perform attempt.script state

/-- The state after a sequence of attempts. -/
def teardown (serviceLabel name : String) (state : σ) (attempts : List (Attempt χ)) : σ :=
  attempts.foldl (fun state attempt => (attempt.play service serviceLabel name state).2) state

/-- Whatever sequence of attempts follows, the sandbox is given for deletion as soon as one whose
answers meet a condition ends so that the host row goes. -/
def NeverLeaks (meets : Request ι κ → χ → σ → Prop) (serviceLabel name : String) (state : σ)
    (id : ι) : Prop :=
  ∀ attempts (attempt : Attempt χ),
    (deleteVm serviceLabel name attempt.pages).Along service.perform meets attempt.script
        (teardown service serviceLabel name state attempts) →
      ∀ outcome later,
        attempt.play service serviceLabel name (teardown service serviceLabel name state attempts) =
            (outcome, later) →
          Settles outcome → service.Given later id

/-- The account has no sandbox for a host. -/
def Fresh (state : σ) (resourceName : String) : Prop :=
  ∀ id sandbox, service.sandbox state id = some sandbox →
    sandbox.key ≠ resourceName ∧ sandbox.name ≠ some resourceName

/-- From the ID on, the request that names the sandbox has its effect, or the inline deletion that
follows when it has none. -/
def Reclaims (id : ι) (resourceName : String) (state : σ) : List χ → Prop
  | [] => False
  | naming :: rest =>
      let named := (service.perform (.rename id resourceName) naming state).2
      service.Named named id resourceName ∨
        ∃ deletion ∈ rest.head?, service.Given (service.perform (.delete id) deletion named).2 id

end Leaks

section Lookup

variable {ι κ χ σ : Type} {service : Service ι κ χ σ} {state : σ} {id : ι} {resource : String}

/-- The sandbox is given for deletion, or has the name, which no other sandbox has. -/
structure Traced (service : Service ι κ χ σ) (state : σ) (id : ι) (resource : String) : Prop where
  found : service.Given state id ∨ service.Named state id resource
  alone : ∀ other sandbox, service.sandbox state other = some sandbox →
    sandbox.name = some resource → other = id

/-- The sandbox is there, without the name, and is not given for deletion. -/
structure Nameless (service : Service ι κ χ σ) (state : σ) (id : ι) (resource : String) :
    Prop where
  present : ∃ sandbox, service.sandbox state id = some sandbox ∧ sandbox.given = false
  names : ∀ other sandbox, service.sandbox state other = some sandbox →
    sandbox.name ≠ some resource

/-- Until the ID is known, what was made with the key has no name and is not given for deletion. -/
def Creating (service : Service ι κ χ σ) (state : σ) (resource : String) : Prop :=
  ∀ id sandbox, service.sandbox state id = some sandbox →
    sandbox.name ≠ some resource ∧ (sandbox.key = resource → sandbox.given = false)

/-- A request gives the name to no other sandbox. -/
def Spares (id : ι) (resource : String) : Request ι κ → Prop
  | .create _ => False
  | .rename target name => target = id ∧ name = resource
  | .awaitReady _ | .run _ | .configureSsh _ | .list _ | .delete _ => True

theorem name_of_changes {request : Request ι κ} {old new : Sandbox}
    (changes : Service.Changes id request (some old) (some new)) :
    new.name = old.name ∨ ∃ name, request = .rename id name ∧ new.name = some name := by
  cases request with
  | rename target name =>
      obtain ⟨rfl, changed⟩ := changes
      exact .inr ⟨name, rfl, by rw [Option.some.inj changed]⟩
  | delete target =>
      obtain ⟨rfl, changed⟩ := changes
      exact .inl (by rw [Option.some.inj changed])
  | create | awaitReady | run | configureSsh | list => exact changes.elim

theorem given_of_changes {request : Request ι κ} {old new : Sandbox}
    (changes : Service.Changes id request (some old) (some new)) (given : old.given) :
    new.given := by
  cases request with
  | rename target name =>
      obtain ⟨rfl, changed⟩ := changes
      rw [Option.some.inj changed]
      exact given
  | delete target =>
      obtain ⟨rfl, changed⟩ := changes
      rw [Option.some.inj changed]
  | create | awaitReady | run | configureSsh | list => exact changes.elim

theorem present_of_changes {request : Request ι κ} {old : Sandbox} {after : Option Sandbox}
    (changes : Service.Changes id request (some old) after) : ∃ new, after = some new := by
  cases request with
  | rename target name => exact ⟨_, changes.2⟩
  | delete target => exact ⟨_, changes.2⟩
  | create | awaitReady | run | configureSsh | list => exact changes.elim

theorem submit_all {good : Request ι κ → Prop} {request : Request ι κ} (holds : good request) :
    (submit request).All good := by
  refine .step holds fun reply => ?_
  cases reply <;> trivial

theorem consult_all {good : Request ι κ → Prop} {request : Request ι κ} (holds : good request) :
    (consult request).All good := by
  refine .step holds fun reply => ?_
  cases reply <;> trivial

/-- From the ID on, `create_vm` gives the name to its own sandbox only. -/
theorem provision_spares [ToString ι] (id : ι) (resource : String) :
    (provision id resource : Remote ι κ Failure ι).All (Spares id resource) := by
  refine .bind (.attempt ?_) fun outcome => ?_
  · refine .bind (submit_all ⟨rfl, rfl⟩) fun _ => ?_
    refine .bind (consult_all trivial) fun _ => ?_
    exact .bind (consult_all trivial) fun _ => consult_all trivial
  · cases outcome with
    | ok _ => trivial
    | error error =>
        dsimp only
        split
        · exact .bind (.attempt (submit_all trivial)) fun _ => trivial
        · trivial

/-- The requests of an attempt name no sandbox. -/
theorem deleteVm_spares (serviceLabel name : String) (pages : ℕ) :
    (deleteVm serviceLabel name pages : Remote ι κ ApiError Unit).All (Spares id resource) := by
  refine .bind ?_ fun found => submit_all trivial
  generalize (none : Option κ) = cursor
  induction pages generalizing cursor with
  | zero => trivial
  | succ pages ih =>
      refine .step trivial fun reply => ?_
      cases reply with
      | page entries next =>
          dsimp only
          split
          · trivial
          · cases next with
            | none => trivial
            | some cursor => exact ih (some cursor)
      | done | created | garbled | absent | fault => trivial

/-- A naming request that Boat does not accept turns `create_vm` to the inline deletion. -/
theorem provision_refused [ToString ι] (naming : χ) (rest : List χ)
    (refused : (service.perform (.rename id resource) naming state).1.accepted = false) :
    (provision id resource : Remote ι κ Failure ι).play service.perform (naming :: rest) state =
      ((submit (.delete id)).attempt.bind fun _ => .raise
          { kind := .provider
            detail := "Boat sandbox " ++ toString id ++ " provisioning failed" } :
        Remote ι κ Failure ι).play service.perform rest
          (service.perform (.rename id resource) naming state).2 := by
  simp only [provision, setUp, submit, Program.bind_eq_bind, Program.await_bind, Program.attempt,
    Program.call_bind, Program.play]
  cases answer : (service.perform (.rename id resource) naming state).1 with
  | absent => rfl
  | fault fault => rfl
  | done | created | page | garbled =>
      rw [answer] at refused
      cases refused

theorem inline_play {failure : Failure} (deletion : χ) (rest : List χ) :
    (((submit (.delete id)).attempt.bind fun _ => .raise failure : Remote ι κ Failure ι).play
      service.perform (deletion :: rest) state).2 =
        (service.perform (.delete id) deletion state).2 := by
  rw [submit]
  simp only [Program.bind_eq_bind, Program.await_bind, Program.attempt, Program.call_bind,
    Program.play]
  cases (service.perform (.delete id) deletion state).1 <;> rfl

namespace Service.Documented

variable (documented : service.Documented)
include documented

theorem given_perform (request : Request ι κ) (choice : χ) (given : service.Given state id) :
    service.Given (service.perform request choice state).2 id := by
  obtain ⟨old, present, accepted⟩ := given
  rcases documented.effect request choice state id with same | changes
  · exact ⟨old, same.trans present, accepted⟩
  · rw [present] at changes
    obtain ⟨new, after⟩ := present_of_changes changes
    rw [after] at changes
    exact ⟨new, after, given_of_changes changes accepted⟩

/-- A sandbox had its name before, but for a request that gives it. -/
theorem name_perform (request : Request ι κ) (choice : χ) {sandbox : Sandbox}
    (spares : Spares id resource request) {other : ι}
    (present : service.sandbox (service.perform request choice state).2 other = some sandbox)
    (named : sandbox.name = some resource) :
    service.Named state other resource ∨ other = id ∧ request = .rename id resource := by
  rcases documented.effect request choice state other with same | changes
  · exact .inl ⟨sandbox, same.symm.trans present, named⟩
  · rw [present] at changes
    cases before : service.sandbox state other with
    | none =>
        rw [before] at changes
        cases request with
        | create => exact spares.elim
        | rename | delete | awaitReady | run | configureSsh | list => exact changes.elim
    | some old =>
        rw [before] at changes
        rcases name_of_changes changes with kept | ⟨name, rfl, -⟩
        · exact .inl ⟨old, before, kept.symm.trans named⟩
        · obtain ⟨rfl, rfl⟩ := spares
          exact .inr ⟨rfl, rfl⟩

theorem traced_perform (request : Request ι κ) (choice : χ) (spares : Spares id resource request)
    (traced : Traced service state id resource) :
    Traced service (service.perform request choice state).2 id resource := by
  constructor
  · rcases traced.found with given | ⟨old, present, named⟩
    · exact .inl (documented.given_perform request choice given)
    · rcases documented.effect request choice state id with same | changes
      · exact .inr ⟨old, same.trans present, named⟩
      · rw [present] at changes
        obtain ⟨new, after⟩ := present_of_changes changes
        rw [after] at changes
        refine .inr ⟨new, after, ?_⟩
        rcases name_of_changes changes with kept | ⟨name, rfl, renamed⟩
        · exact kept.trans named
        · obtain ⟨-, rfl⟩ := spares
          exact renamed
  · intro other sandbox present named
    rcases documented.name_perform request choice spares present named with
      ⟨old, before, had⟩ | ⟨same, -⟩
    · exact traced.alone other old before had
    · exact same

theorem traced_ensures {ε α : Type} {program : Remote ι κ ε α}
    (spares : program.All (Spares id resource)) (traced : Traced service state id resource) :
    program.Ensures service.perform state fun _ later => Traced service later id resource :=
  spares.ensures (fun request choice _ spare => documented.traced_perform request choice spare)
    traced

/-- A lookup that ends for want of the sandbox was told so by a 404, or the sandbox is given. -/
theorem findSandbox_spec (traced : Traced service state id resource) (pages : ℕ)
    (cursor : Option κ) {before : Prop}
    (ahead : service.Given state id ∨ (id, some resource) ∈ service.listing state cursor) :
    (findSandbox resource pages cursor).Ensures
    (Program.watch service.perform (Truthful service id))
      (state, before) fun outcome later =>
        later.1 = state ∧ (outcome = .raised .notFound → later.2 → service.Given state id) ∧
          ∀ found, outcome = .returned found → found = id := by
  induction pages generalizing cursor before with
  | zero => exact ⟨rfl, nofun, nofun⟩
  | succ pages ih =>
      refine ⟨⟨rfl, nofun, nofun⟩, fun choice => ?_⟩
      have same := documented.reads cursor choice state
      simp only [Program.watch, same, Program.done_bind]
      cases answer : (service.perform (.list cursor) choice state).1 with
      | absent =>
          refine ⟨rfl, fun _ holds => ?_, nofun⟩
          have given := holds.2 answer
          rwa [same] at given
      | fault fault => exact ⟨rfl, nofun, nofun⟩
      | garbled caught => exact ⟨rfl, nofun, nofun⟩
      | done => exact ⟨rfl, nofun, nofun⟩
      | created other => exact ⟨rfl, nofun, nofun⟩
      | page entries next =>
          obtain ⟨shown, listing, -, subset, visible⟩ :=
            documented.page cursor choice state entries next answer
          dsimp only
          cases found : entries.find? (·.2 = some resource) with
          | some entry =>
              refine ⟨rfl, nofun, ?_⟩
              rintro _ ⟨⟩
              have member : entry ∈ service.listing state cursor := by
                rw [listing]
                exact List.mem_append_left _ (subset (List.mem_of_find?_eq_some found))
              have named : entry.2 = some resource := by
                simpa using List.find?_some found
              obtain ⟨sandbox, present, name⟩ :=
                documented.lists state cursor entry.1 entry.2 member
              exact traced.alone _ _ present (name.trans named)
          | none =>
              have passed : service.Given state id ∨ (id, some resource) ∈
                  next.elim [] fun cursor => service.listing state (some cursor) := by
                refine ahead.elim .inl fun member => ?_
                rw [listing, List.mem_append] at member
                refine member.elim (fun here => .inl ?_) .inr
                refine (visible _ here).resolve_left fun listed => ?_
                have unnamed := List.find?_eq_none.mp found _ listed
                simp at unnamed
              cases next with
              | none => exact ⟨rfl, fun _ _ => passed.resolve_right List.not_mem_nil, nofun⟩
              | some cursor => exact ih (some cursor) passed

/-- An attempt that ends so that the host row goes has given the sandbox for deletion, unless a 404
was not true. -/
theorem deleteVm_spec {serviceLabel name : String} (before : Prop)
    (traced : Traced service state id (resourceName serviceLabel name)) (pages : ℕ) :
    (deleteVm serviceLabel name pages).Ensures
      (Program.watch service.perform (Truthful service id)) (state, before) fun outcome later =>
        Traced service later.1 id (resourceName serviceLabel name) ∧
          (later.2 → Settles outcome → service.Given later.1 id) := by
  have ahead : service.Given state id ∨
      (id, some (resourceName serviceLabel name)) ∈ service.listing state none :=
    traced.found.imp_right fun ⟨sandbox, present, named⟩ =>
      named ▸ documented.listed state id sandbox present
  refine (documented.findSandbox_spec traced pages none ahead).bind ?_ ?_ ?_
  · rintro found ⟨later, holds⟩ ⟨same, -, target⟩
    obtain rfl : later = state := same
    obtain rfl := target found rfl
    refine ⟨⟨traced, fun _ => nofun⟩, fun choice => ?_⟩
    have kept := documented.traced_perform (.delete found) choice trivial traced
    have accepted (accepted : (service.perform (.delete found) choice later).1.accepted) :
        service.Given (service.perform (.delete found) choice later).2 found := by
      rcases traced.found with given | ⟨sandbox, present, -⟩
      · exact documented.given_perform _ _ given
      · exact documented.deleted found choice later sandbox present accepted
    simp only [Program.watch, Program.done_bind]
    cases answer : (service.perform (.delete found) choice later).1 with
    | absent => exact ⟨kept, fun true_ _ => true_.2 answer⟩
    | fault fault => exact ⟨kept, fun _ => nofun⟩
    | done | created | page | garbled => exact ⟨kept, fun _ _ => accepted (by rw [answer]; rfl)⟩
  · rintro error ⟨later, holds⟩ ⟨same, missing, -⟩
    obtain rfl : later = state := same
    refine ⟨traced, fun true_ => ?_⟩
    cases error with
    | notFound => exact fun _ => missing rfl true_
    | fault | shape | cancelled => exact nofun
  · rintro ⟨later, holds⟩ ⟨same, -, -⟩
    obtain rfl : later = state := same
    exact ⟨traced, fun _ => nofun⟩

theorem teardown_traced {serviceLabel name : String}
    (traced : Traced service state id (resourceName serviceLabel name))
    (attempts : List (Attempt χ)) :
    Traced service (teardown service serviceLabel name state attempts) id
      (resourceName serviceLabel name) := by
  induction attempts generalizing state with
  | nil => exact traced
  | cons attempt attempts ih =>
      have kept := documented.traced_ensures
        (deleteVm_spares serviceLabel name attempt.pages) traced
      exact ih (kept.play attempt.script)

/-- A sandbox that can be found does not leak where every 404 is true. -/
theorem neverLeaks_of_traced {serviceLabel name : String}
    (traced : Traced service state id (resourceName serviceLabel name)) :
    NeverLeaks service (Truthful service id) serviceLabel name state id := by
  intro attempts attempt along outcome later played settles
  have ensures := documented.deleteVm_spec True
    (documented.teardown_traced traced attempts) attempt.pages
  obtain ⟨holds, true_, -, given⟩ := ensures.along trivial along
  rw [Attempt.play] at played
  rw [played] at given
  exact given true_ settles

/-- A sandbox that is given for deletion does not leak, whatever the answers. -/
theorem neverLeaks_of_given {serviceLabel name : String} (given : service.Given state id) :
    NeverLeaks service (fun _ _ _ => True) serviceLabel name state id := by
  have keeps (attempt : Attempt χ) {state : σ} (given : service.Given state id) :
      service.Given (attempt.play service serviceLabel name state).2 id := by
    have spares : (deleteVm serviceLabel name attempt.pages : Remote ι κ ApiError Unit).All
        (Spares id name) := deleteVm_spares serviceLabel name attempt.pages
    have kept : (deleteVm serviceLabel name attempt.pages).Ensures service.perform state
        fun _ later => service.Given later id :=
      spares.ensures (fun request choice _ _ => documented.given_perform request choice) given
    exact kept.play attempt.script
  rintro attempts attempt - outcome later played -
  have stays : service.Given (teardown service serviceLabel name state attempts) id := by
    clear played
    induction attempts generalizing state with
    | nil => exact given
    | cons attempt attempts ih => exact ih (keeps attempt given)
  have ends := keeps attempt stays
  rwa [played] at ends

/-- A lookup that Boat answers page by page finds no sandbox where none has the name. -/
theorem findSandbox_misses (nameless : Nameless service state id resource) (cursor : Option κ) :
    ∃ pages script,
      (findSandbox resource pages cursor).play service.perform script state =
          (.raised .notFound, state) ∧
        (findSandbox resource pages cursor).Along service.perform (Truthful service id) script
          state := by
  generalize length : (service.listing state cursor).length = count
  induction count using Nat.strongRecOn generalizing cursor with
  | ind count ih =>
  obtain ⟨choice, entries, next, answer⟩ := documented.answers cursor state
  obtain ⟨shown, listing, more, subset, -⟩ :=
    documented.page cursor choice state entries next answer
  have same := documented.reads cursor choice state
  have missing : entries.find? (·.2 = some resource) = none := by
    refine List.find?_eq_none.mpr fun entry member => ?_
    have here : entry ∈ service.listing state cursor := by
      rw [listing]
      exact List.mem_append_left _ (subset member)
    obtain ⟨sandbox, present, name⟩ := documented.lists state cursor entry.1 entry.2 here
    simpa [← name] using nameless.names entry.1 sandbox present
  have vacuous : Truthful service id (.list cursor) choice state := by
    intro absent
    rw [answer] at absent
    cases absent
  cases next with
  | none =>
      refine ⟨1, [choice], ?_, vacuous, ?_⟩
      · simp only [findSandbox, Program.bind_eq_bind, Program.await_bind, Program.play, answer,
          missing, same]
      · simp only [Program.done_bind, answer, missing]
        trivial
  | some cursor' =>
      have shorter : (service.listing state (some cursor')).length < count := by
        have positive := List.length_pos_iff.mpr (more rfl)
        rw [← length, listing, List.length_append, Option.elim_some]
        omega
      obtain ⟨pages, script, played, along⟩ := ih _ shorter (some cursor') rfl
      refine ⟨pages + 1, choice :: script, ?_, vacuous, ?_⟩
      · simp only [findSandbox, Program.bind_eq_bind, Program.await_bind, Program.play, answer,
          missing, same, played]
      · simp only [Program.done_bind, answer, missing, same]
        exact along

theorem leaks_of_nameless {serviceLabel name : String}
    (nameless : Nameless service state id (resourceName serviceLabel name)) :
    ¬ NeverLeaks service (Truthful service id) serviceLabel name state id := by
  intro never
  obtain ⟨sandbox, present, kept⟩ := nameless.present
  obtain ⟨pages, script, played, along⟩ := documented.findSandbox_misses nameless none
  obtain ⟨other, same, given⟩ := never [] ⟨pages, script⟩ (along.bind_raised played) _ _
    (Program.play_bind_raised played) trivial
  rw [Option.some.inj (same.symm.trans present), kept] at given
  cases given

/-- A 404 for the list ends an attempt, and the host row goes. -/
theorem leaks_of_absent {serviceLabel name : String} {choice : χ}
    (absent : (service.perform (.list none) choice state).1 = .absent)
    (kept : ¬ service.Given state id) :
    ¬ NeverLeaks service (fun _ _ _ => True) serviceLabel name state id := by
  intro never
  have same := documented.reads none choice state
  have played : (findSandbox (resourceName serviceLabel name) 1 none : Remote ι κ ApiError ι).play
      service.perform [choice] state = (.raised .notFound, state) := by
    simp only [findSandbox, Program.bind_eq_bind, Program.await_bind, Program.play, absent, same]
  have along : (findSandbox (resourceName serviceLabel name) 1 none : Remote ι κ ApiError ι).Along
      service.perform (fun _ _ _ => True) [choice] state := by
    refine ⟨trivial, ?_⟩
    simp only [Program.done_bind, absent]
    trivial
  exact kept (never [] ⟨1, [choice]⟩ (along.bind_raised played) _ _
    (Program.play_bind_raised played) trivial)

theorem creating_perform (choice : χ) (creating : Creating service state resource) :
    Creating service (service.perform (.create resource) choice state).2 resource := by
  intro other sandbox present
  rcases documented.effect (.create resource) choice state other with same | changes
  · exact creating other sandbox (same.symm.trans present)
  · rw [present] at changes
    cases before : service.sandbox state other with
    | none =>
        rw [before] at changes
        obtain ⟨-, unnamed, kept⟩ := changes
        exact ⟨unnamed, fun _ => kept⟩
    | some old =>
        rw [before] at changes
        exact changes.elim

theorem postSandbox_spec (creating : Creating service state resource) :
    (postSandbox resource : Remote ι κ ApiError ι).Ensures service.perform state
      fun outcome later => Creating service later resource ∧
        ∀ id, outcome = .returned id → Nameless service later id resource := by
  refine ⟨⟨creating, nofun⟩, fun choice => ?_⟩
  have kept := documented.creating_perform choice creating
  cases answer : (service.perform (.create resource) choice state).1 with
  | created id =>
      refine ⟨kept, ?_⟩
      rintro _ ⟨⟩
      obtain ⟨sandbox, present, key⟩ := documented.created resource choice state id answer
      exact ⟨⟨sandbox, present, (kept id sandbox present).2 key⟩,
        fun other found listed => (kept other found listed).1⟩
  | done | page | garbled | absent | fault => exact ⟨kept, nofun⟩

theorem createSandbox_spec (creating : Creating service state resource) (retries : ℕ) :
    (createSandbox resource retries : Remote ι κ ApiError ι).Ensures service.perform state
      fun outcome later => Creating service later resource ∧
        ∀ id, outcome = .returned id → Nameless service later id resource := by
  induction retries generalizing state with
  | zero => exact documented.postSandbox_spec creating
  | succ retries ih =>
      have posted : ((postSandbox resource : Remote ι κ ApiError ι).attempt :
          Remote ι κ ApiError (Except ApiError ι)).Ensures service.perform state
            fun outcome later => Creating service later resource ∧
              ∀ id, outcome = .returned (.ok id) → Nameless service later id resource := by
        refine .attempt ((documented.postSandbox_spec creating).mono fun outcome later ended => ?_)
        cases outcome with
        | returned id =>
            refine ⟨ended.1, ?_⟩
            rintro _ ⟨⟩
            exact ended.2 id rfl
        | raised error => exact ⟨ended.1, nofun⟩
        | crashed => exact ⟨ended.1, nofun⟩
      refine posted.bind ?_ (fun _ _ ended => ⟨ended.1, nofun⟩) (fun _ ended => ⟨ended.1, nofun⟩)
      rintro outcome later ⟨kept, nameless⟩
      split
      · refine ⟨kept, ?_⟩
        rintro _ ⟨⟩
        exact nameless _ rfl
      · exact ih kept
      · exact ⟨kept, nofun⟩

/-- A request that gives the name to no sandbox but its own leaves another without it. -/
theorem nameless_perform (request : Request ι κ) (choice : χ) (spares : Spares id resource request)
    (nameless : Nameless service state id resource)
    (unnamed : ¬ service.Named (service.perform request choice state).2 id resource)
    (kept : ¬ service.Given (service.perform request choice state).2 id) :
    Nameless service (service.perform request choice state).2 id resource := by
  obtain ⟨old, present, -⟩ := nameless.present
  constructor
  · have still : ∃ new,
        service.sandbox (service.perform request choice state).2 id = some new := by
      rcases documented.effect request choice state id with same | changes
      · exact ⟨old, same.trans present⟩
      · rw [present] at changes
        exact present_of_changes changes
    obtain ⟨new, there⟩ := still
    exact ⟨new, there, Bool.eq_false_iff.mpr fun given => kept ⟨new, there, given⟩⟩
  · intro other sandbox there named
    rcases documented.name_perform request choice spares there named with
      ⟨before, was, had⟩ | ⟨rfl, -⟩
    · exact nameless.names other before was had
    · exact unnamed ⟨sandbox, there, named⟩

/-- A request about a sandbox without the name that gives it the name, or for deletion, lets it be
found. -/
theorem traced_of_nameless (request : Request ι κ) (choice : χ)
    (spares : Spares id resource request) (nameless : Nameless service state id resource)
    (found : service.Given (service.perform request choice state).2 id ∨
      service.Named (service.perform request choice state).2 id resource) :
    Traced service (service.perform request choice state).2 id resource := by
  refine ⟨found, fun other sandbox there named => ?_⟩
  rcases documented.name_perform request choice spares there named with
    ⟨before, was, had⟩ | ⟨same, -⟩
  · exact absurd had (nameless.names other before was)
  · exact same

/-- To name a sandbox does not give it for deletion. -/
theorem not_given_rename (choice : χ) {sandbox : Sandbox}
    (present : service.sandbox state id = some sandbox) (kept : sandbox.given = false) :
    ¬ service.Given (service.perform (.rename id resource) choice state).2 id := by
  rintro ⟨new, there, given⟩
  have unchanged : new.given = sandbox.given := by
    rcases documented.effect (.rename id resource) choice state id with same | changes
    · rw [present, there] at same
      rw [Option.some.inj same]
    · rw [present, there] at changes
      rw [Option.some.inj changes.2]
  rw [unchanged, kept] at given
  cases given

/-- From the ID on, the sandbox can be found or is given for deletion where a request that sees to
it takes effect, and stays without a name where none does. -/
theorem provision_play [ToString ι] (nameless : Nameless service state id resource)
    (script : List χ) :
    Reclaims service id resource state script ∧ Traced service
        ((provision id resource : Remote ι κ Failure ι).play service.perform script state).2 id
          resource ∨
      ¬ Reclaims service id resource state script ∧ Nameless service
        ((provision id resource : Remote ι κ Failure ι).play service.perform script state).2 id
          resource := by
  cases script with
  | nil => exact .inr ⟨nofun, nameless⟩
  | cons naming rest =>
  have names : Spares id resource (.rename id resource : Request ι κ) := ⟨rfl, rfl⟩
  by_cases named : service.Named (service.perform (.rename id resource) naming state).2 id resource
  · have traced : Traced service (service.perform (.rename id resource) naming state).2 id
        resource := documented.traced_of_nameless _ naming names nameless (.inr named)
    have onward := documented.traced_ensures ((provision_spares id resource).2
      (service.perform (.rename id resource) naming state).1) traced
    exact .inl ⟨.inl named, onward.play rest⟩
  -- The naming request has no effect, so it is not accepted, and the inline deletion follows.
  obtain ⟨old, present, kept⟩ := nameless.present
  have still : Nameless service (service.perform (.rename id resource) naming state).2 id
      resource :=
    documented.nameless_perform _ naming names nameless named
      (documented.not_given_rename naming present kept)
  have refused : (service.perform (.rename id resource) naming state).1.accepted = false := by
    refine Bool.eq_false_iff.mpr fun accepted => named ?_
    exact documented.renamed id resource naming state old present kept accepted
  rw [provision_refused naming rest refused]
  cases rest with
  | nil =>
      refine .inr ⟨?_, still⟩
      rintro (there | ⟨_, nothing, -⟩)
      · exact named there
      · cases nothing
  | cons deletion rest =>
      rw [inline_play]
      by_cases given : service.Given (service.perform (.delete id) deletion
          (service.perform (.rename id resource) naming state).2).2 id
      · exact .inl ⟨.inr ⟨deletion, rfl, given⟩,
          documented.traced_of_nameless _ deletion trivial still (.inl given)⟩
      · refine .inr ⟨?_, documented.nameless_perform _ deletion trivial still ?_ given⟩
        · rintro (there | ⟨_, ⟨⟩, accepted⟩)
          · exact named there
          · exact given accepted
        · rintro ⟨sandbox, there, has⟩
          have spares : Spares id resource (.delete id : Request ι κ) := trivial
          rcases documented.name_perform (.delete id) deletion spares there has with
            before | ⟨-, other⟩
          · exact named before
          · cases other

end Service.Documented

end Lookup

section Ends

variable {ι κ χ σ : Type} {service : Service ι κ χ σ}

/-- The sandbox that `create_sandbox` returned the ID of does not leak to an attempt whose 404s are
true exactly where Boat has named it, or has accepted the inline deletion; and where the list can be
answered 404 it does not leak to any attempt exactly where it is given for deletion by then. -/
theorem createVm_neverLeaks_iff [ToString ι] (documented : service.Documented) {state middle : σ}
    {serviceLabel name size data : String} {script later : List χ} {id : ι}
    (fresh : Fresh service state (resourceName serviceLabel name))
    (sized : size ∈ ["small", "default", "large"])
    (created : (createSandbox (resourceName serviceLabel name) createRetries :
      Remote ι κ ApiError ι).run service.perform script state = (.returned id, later, middle))
    {ended : σ}
    (ends : ((createVm serviceLabel name size (.ok data) : Remote ι κ Failure ι).play
      service.perform script state).2 = ended) :
    (NeverLeaks service (Truthful service id) serviceLabel name ended id ↔
        Reclaims service id (resourceName serviceLabel name) middle later) ∧
      ((∃ choice, (service.perform (.list none) choice ended).1 = .absent) →
        (NeverLeaks service (fun _ _ _ => True) serviceLabel name ended id ↔
          service.Given ended id)) := by
  have creating : Creating service state (resourceName serviceLabel name) :=
    fun other sandbox present => ⟨(fresh other sandbox present).2,
      fun key => absurd key (fresh other sandbox present).1⟩
  have allocated := (documented.createSandbox_spec creating createRetries).run script
  rw [created] at allocated
  have nameless := allocated.2 id rfl
  have plays : (createVm serviceLabel name size (.ok data) : Remote ι κ Failure ι).play
      service.perform script state =
        (provision id (resourceName serviceLabel name)).play service.perform later middle := by
    rw [createVm, if_neg (not_not.mpr sized)]
    exact Program.play_bind (Program.run_attempt created)
  refine ⟨?_, fun ⟨choice, absent⟩ => ⟨fun never => ?_, documented.neverLeaks_of_given⟩⟩
  · rw [← ends, plays]
    rcases documented.provision_play nameless later with ⟨reclaims, traced⟩ | ⟨misses, still⟩
    · exact iff_of_true (documented.neverLeaks_of_traced traced) reclaims
    · exact iff_of_false (documented.leaks_of_nameless still) misses
  · by_contra kept
    exact documented.leaks_of_absent absent kept never

end Ends

/-- The sandboxes of an account, by their places in the list. -/
abbrev Account := List Sandbox

inductive Fate
  /-- It is served, and shows the sandboxes that are given for deletion, or hides them. -/
  | served (shown : Bool)
  | garbled (caught : Bool)
  /-- It has its effect, and its answer is lost. -/
  | lost (fault : Fault)
  /-- It fails and has no effect. -/
  | refused (fault : Fault)
  /-- It is answered 404 and has no effect. -/
  | missed
  deriving DecidableEq, Repr

namespace Account

/-- A request about one sandbox. -/
def alter (account : Account) (shown : Bool) (id : ℕ) (change : Sandbox → Sandbox) :
    Reply ℕ ℕ × Account :=
  match account[id]? with
  | none => (.absent, account)
  | some sandbox =>
      if sandbox.given && !shown then (.absent, account)
      else (.done, account.set id (change sandbox))

/-- `limit`. -/
def pageSize : ℕ := 100

/-- The list from a cursor on. -/
def listing (account : Account) (cursor : Option ℕ) : List (ℕ × Option String) :=
  (account.zipIdx.drop (cursor.getD 0)).map fun entry => (entry.2, entry.1.name)

/-- A page of the list, from a cursor on. -/
def page (account : Account) (shown : Bool) (cursor : Option ℕ) : Reply ℕ ℕ :=
  .page
    ((((account.zipIdx.drop (cursor.getD 0)).take pageSize).filter fun entry =>
      shown || !entry.1.given).map fun entry => (entry.2, entry.1.name))
    (if cursor.getD 0 + pageSize < account.length then some (cursor.getD 0 + pageSize) else none)

/-- What a request does. -/
def serve (account : Account) (shown : Bool) : Request ℕ ℕ → Reply ℕ ℕ × Account
  | .create key =>
      match account.findIdx? (·.key = key) with
      | some id => (.created id, account)
      | none => (.created account.length, account ++ [{ key }])
  | .rename id name => account.alter shown id fun sandbox => { sandbox with name := some name }
  | .awaitReady id | .run id | .configureSsh id => account.alter shown id fun sandbox => sandbox
  | .list cursor => (account.page shown cursor, account)
  | .delete id => account.alter shown id fun sandbox => { sandbox with given := true }

def perform (request : Request ℕ ℕ) (fate : Fate) (account : Account) : Reply ℕ ℕ × Account :=
  match fate with
  | .served shown => account.serve shown request
  | .garbled caught => (.garbled caught, (account.serve true request).2)
  | .lost fault => (.fault fault, (account.serve true request).2)
  | .refused fault => (.fault fault, account)
  | .missed => (.absent, account)

/-- An account whose requests are served, fail, or lose their answers. -/
def service : Service ℕ ℕ Fate Account where
  perform := perform
  sandbox account id := account[id]?
  listing := listing

section Documented

variable {account : Account} {shown : Bool} {id target : ℕ} {change : Sandbox → Sandbox}

theorem alter_other (different : id ≠ target) :
    (account.alter shown target change).2[id]? = account[id]? := by
  unfold alter
  split
  · rfl
  · split
    · rfl
    · exact List.getElem?_set_ne different.symm

theorem alter_self {sandbox : Sandbox} (present : account[id]? = some sandbox) :
    (account.alter shown id change).2[id]? = some sandbox ∨
      (account.alter shown id change).2[id]? = some (change sandbox) := by
  have inside : id < account.length := (List.getElem?_eq_some_iff.mp present).1
  simp only [alter, present]
  split
  · exact .inl present
  · exact .inr (List.getElem?_set_self inside)

theorem alter_done {sandbox : Sandbox} (present : account[id]? = some sandbox)
    (visible : (account.alter shown id change).1 ≠ .absent) :
    (account.alter shown id change).2[id]? = some (change sandbox) := by
  have inside : id < account.length := (List.getElem?_eq_some_iff.mp present).1
  simp only [alter, present] at visible ⊢
  split
  · next hidden => exact absurd (by rw [if_pos hidden]) visible
  · exact List.getElem?_set_self inside

theorem alter_absent (absent : account[id]? = none) :
    (account.alter shown id change).2 = account := by
  simp only [alter, absent]

theorem serve_effect (request : Request ℕ ℕ) (shown : Bool) (account : Account) (id : ℕ) :
    (account.serve shown request).2[id]? = account[id]? ∨
      Service.Changes id request account[id]? (account.serve shown request).2[id]? := by
  have altered (target : ℕ) (change : Sandbox → Sandbox) :
      (account.alter shown target change).2[id]? = account[id]? ∨
        ∃ sandbox, target = id ∧ account[id]? = some sandbox ∧
          (account.alter shown target change).2[id]? = some (change sandbox) := by
    by_cases same : target = id
    · subst same
      cases present : account[target]? with
      | none => exact .inl (by rw [alter_absent present, present])
      | some sandbox =>
          exact (alter_self present).imp_right fun changed => ⟨sandbox, rfl, rfl, changed⟩
    · exact .inl (alter_other (Ne.symm same))
  cases request with
  | create key =>
      rw [serve]
      split
      · exact .inl rfl
      · rcases Nat.lt_trichotomy id account.length with before | rfl | behind
        · exact .inl (List.getElem?_append_left before)
        · refine .inr ?_
          simp [Service.Changes]
        · refine .inl ?_
          have longer : (account ++ [({ key } : Sandbox)]).length ≤ id := by
            rw [List.length_append, List.length_singleton]
            exact behind
          rw [List.getElem?_eq_none longer, List.getElem?_eq_none (Nat.le_of_lt behind)]
  | rename target name =>
      refine (altered target _).imp_right ?_
      rintro ⟨sandbox, same, present, changed⟩
      rw [serve, present, changed]
      exact ⟨same, rfl⟩
  | delete target =>
      refine (altered target _).imp_right ?_
      rintro ⟨sandbox, same, present, changed⟩
      rw [serve, present, changed]
      exact ⟨same, rfl⟩
  | awaitReady target | run target | configureSsh target =>
      refine .inl ((altered target _).elim (fun same => same) ?_)
      rintro ⟨sandbox, -, present, changed⟩
      exact changed.trans present.symm
  | list cursor => exact .inl rfl

theorem perform_effect (request : Request ℕ ℕ) (fate : Fate) (account : Account) (id : ℕ) :
    (perform request fate account).2[id]? = account[id]? ∨
      Service.Changes id request account[id]? (perform request fate account).2[id]? := by
  cases fate with
  | served shown => exact serve_effect request shown account id
  | garbled caught => exact serve_effect request true account id
  | lost fault => exact serve_effect request true account id
  | refused fault => exact .inl rfl
  | missed => exact .inl rfl

theorem perform_alter {request : Request ℕ ℕ} {fate : Fate} {sandbox : Sandbox}
    (serves : ∀ shown, account.serve shown request = account.alter shown id change)
    (present : account[id]? = some sandbox)
    (accepted : (perform request fate account).1.accepted) :
    (perform request fate account).2[id]? = some (change sandbox) := by
  cases fate with
  | served shown =>
      rw [perform, serves] at accepted ⊢
      refine alter_done present fun absent => ?_
      rw [absent] at accepted
      cases accepted
  | garbled caught =>
      rw [perform, serves]
      refine alter_done present ?_
      simp [alter, present]
  | lost fault | refused fault | missed => cases accepted

theorem create_key (key : String) (shown : Bool)
    (created : (account.serve shown (.create key)).1 = .created id) :
    ∃ sandbox, (account.serve shown (.create key)).2[id]? = some sandbox ∧ sandbox.key = key := by
  rw [serve] at created ⊢
  split at created
  · next found =>
      obtain rfl := Reply.created.inj created
      obtain ⟨inside, same, -⟩ := List.findIdx?_eq_some_iff_getElem.mp found
      exact ⟨account[_], List.getElem?_eq_getElem inside, by simpa using same⟩
  · obtain rfl := Reply.created.inj created
    exact ⟨{ key }, by simp, rfl⟩

theorem mem_listing {entry : ℕ × Option String} {cursor : Option ℕ}
    (member : entry ∈ account.listing cursor) :
    ∃ sandbox, account[entry.1]? = some sandbox ∧ sandbox.name = entry.2 := by
  obtain ⟨⟨sandbox, place⟩, inside, rfl⟩ := List.mem_map.mp member
  exact ⟨sandbox, List.mem_zipIdx_iff_getElem?.mp (List.mem_of_mem_drop inside), rfl⟩

/-- A page has the next hundred sandboxes, but for those that are hidden. -/
theorem page_spec {cursor next : Option ℕ} {entries : List (ℕ × Option String)}
    (paged : account.page shown cursor = .page entries next) :
    ∃ here, account.listing cursor =
        here ++ next.elim [] (fun cursor => account.listing (some cursor)) ∧
      (next.isSome → here ≠ []) ∧ entries ⊆ here ∧
        ∀ entry ∈ here, entry ∈ entries ∨
          ∃ sandbox, account[entry.1]? = some sandbox ∧ sandbox.given := by
  obtain ⟨rfl, rfl⟩ := Reply.page.inj paged
  refine ⟨((account.zipIdx.drop (cursor.getD 0)).take pageSize).map fun entry =>
    (entry.2, entry.1.name), ?_, ?_, ?_, ?_⟩
  · by_cases more : cursor.getD 0 + pageSize < account.length
    · rw [if_pos more, Option.elim_some, listing, listing, Option.getD_some, ← List.drop_drop,
        ← List.map_append, List.take_append_drop]
    · rw [if_neg more, Option.elim_none, List.append_nil, listing, List.take_of_length_le]
      rw [List.length_drop, List.length_zipIdx]
      omega
  · intro more
    have length : cursor.getD 0 + pageSize < account.length := by
      by_contra none_
      rw [if_neg none_] at more
      cases more
    simp only [ne_eq, List.map_eq_nil_iff, List.take_eq_nil_iff, List.drop_eq_nil_iff,
      List.length_zipIdx, pageSize] at length ⊢
    omega
  · exact List.map_subset _ (List.filter_subset_self _)
  · intro entry member
    obtain ⟨⟨sandbox, place⟩, inside, rfl⟩ := List.mem_map.mp member
    by_cases visible : shown || !sandbox.given
    · exact .inl (List.mem_map.mpr ⟨_, List.mem_filter.mpr ⟨inside, visible⟩, rfl⟩)
    · refine .inr ⟨sandbox, List.mem_zipIdx_iff_getElem?.mp
        (List.mem_of_mem_drop (List.mem_of_mem_take inside)), ?_⟩
      simp only [Bool.or_eq_true, Bool.not_eq_true', not_or, Bool.not_eq_false] at visible
      exact visible.2

theorem documented : service.Documented where
  effect := perform_effect
  reads cursor fate account := by cases fate <;> rfl
  created key fate account id created := by
    cases fate with
    | served shown => exact create_key key shown created
    | garbled | lost | refused | missed => cases created
  renamed id name fate account sandbox present _ accepted :=
    ⟨_, perform_alter (fun _ => rfl) present accepted, rfl⟩
  deleted id fate account sandbox present accepted :=
    ⟨_, perform_alter (fun _ => rfl) present accepted, rfl⟩
  page cursor fate account entries next paged := by
    cases fate with
    | served shown => exact page_spec paged
    | garbled | lost | refused | missed => cases paged
  answers cursor account := ⟨.served true, _, _, rfl⟩
  listed account id sandbox present :=
    List.mem_map.mpr ⟨(sandbox, id), List.mem_zipIdx_iff_getElem?.mpr present, rfl⟩
  lists account cursor id name member := mem_listing member

end Documented

end Account

/-- The account has a sandbox of another host. -/
def neighbour : Sandbox where
  key := "drukbox:other"
  name := some "drukbox:other"

/-- A sandbox that is named although the answer is lost, and whose inline deletion fails, is deleted
by an attempt whose 404s are true, but not by one that is answered 404 for the list. -/
theorem createVm_neverLeaks_lost :
    ∃ ended : Account,
      ended = [neighbour, { key := "drukbox:host", name := some "drukbox:host" }] ∧
        NeverLeaks Account.service (Truthful Account.service 1) "drukbox" "host" ended 1 ∧
          ¬ NeverLeaks Account.service (fun _ _ _ => True) "drukbox" "host" ended 1 := by
  have fresh : Fresh Account.service [neighbour] (resourceName "drukbox" "host") := by
    intro other sandbox present
    obtain rfl := List.mem_singleton.mp (List.mem_of_getElem? present)
    exact ⟨by decide, by decide⟩
  have created : (createSandbox (resourceName "drukbox" "host") createRetries :
      Remote ℕ ℕ ApiError ℕ).run Account.service.perform
        [.served true, .lost .transport, .refused .transport] [neighbour] =
          (.returned 1, [.lost .transport, .refused .transport],
            [neighbour, { key := "drukbox:host" }]) := rfl
  have small : "small" ∈ ["small", "default", "large"] := by decide
  have ends : ((createVm "drukbox" "host" "small" (.ok "") : Remote ℕ ℕ Failure ℕ).play
      Account.service.perform [.served true, .lost .transport, .refused .transport]
        [neighbour]).2 = [neighbour, { key := "drukbox:host", name := some "drukbox:host" }] := rfl
  obtain ⟨truthful, refused⟩ :=
    createVm_neverLeaks_iff Account.documented fresh small created ends
  refine ⟨_, rfl, truthful.mpr (.inl ⟨_, rfl, rfl⟩), fun never => ?_⟩
  obtain ⟨sandbox, present, given⟩ := (refused ⟨.missed, rfl⟩).mp never
  obtain rfl := Option.some.inj present
  cases given

/-- A sandbox whose naming and deletion fail stays, and the next attempt at `delete_vm` does not
find it. -/
theorem createVm_leaks_nameless :
    ∃ ended, (createVm "drukbox" "host" "small" (.ok "") : Remote ℕ ℕ Failure ℕ).play
        Account.service.perform [.served true, .refused .transport, .refused .transport] [] =
          (.raised { kind := .provider, detail := "Boat sandbox 0 provisioning failed" }, ended) ∧
      ¬ NeverLeaks Account.service (Truthful Account.service 0) "drukbox" "host" ended 0 := by
  refine ⟨[{ key := "drukbox:host" }], by rfl, Account.documented.leaks_of_nameless
    ⟨⟨{ key := "drukbox:host" }, rfl, rfl⟩, fun other sandbox present => ?_⟩⟩
  have member := List.mem_of_getElem? present
  obtain rfl := List.mem_singleton.mp member
  exact nofun

end Boat

end Drukbox
