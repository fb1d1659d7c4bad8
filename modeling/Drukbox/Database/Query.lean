import Drukbox.Await.Program
import Drukbox.Database.HostQuery

/-!
# Everything that a task awaits

The statements on idempotency keys and templates, the calls to outside parties, and the one system
that answers them all.
-/

namespace Drukbox

open Await

/-- Statements on `idempotency_keys`. -/
inductive KeyQuery
  | get (key : String)
  /-- The garbage collection of a stale record, in a session of its own. -/
  | delete (key : String)
  /-- The `INSERT`, in a session of its own: false for its `IntegrityError`. -/
  | insert (record : IdempotencyKey)

/-- What a statement on `idempotency_keys` returns. -/
@[reducible] def KeyQuery.Answer : KeyQuery → Type
  | get _ => Option IdempotencyKey
  | delete _ => Unit
  | insert _ => Bool

/-- Statements on `templates`. -/
inductive TemplateQuery
  | get (id : TemplateId)
  /-- `SELECT ... FOR UPDATE` by id. -/
  | lock (id : TemplateId)
  /-- `SELECT ... FOR UPDATE` by the unique index. -/
  | lockKey (key : TemplateKey)
  /-- The janitor's candidates. -/
  | reapable (now : ℤ)
  /-- The janitor's second look at one row. -/
  | isReapable (id : TemplateId) (now : ℤ)
  /-- The autoflush of a lease: its `UPDATE` locks the row, and is seen when it commits. -/
  | touch (lease : TemplateLease)
  /-- The `INSERT`: false for its `IntegrityError`. -/
  | insert (template : Template)
  /-- The restart of a failed template. -/
  | restart (id : TemplateId) (updatedAt : ℤ)
  /-- The outcome of a build: the columns that the ORM found changed. -/
  | finish (id : TemplateId) (columns : TemplateColumns)
  /-- The janitor's `UPDATE` of abandoned builds. -/
  | abandon (before : ℤ) (lastError : String) (updatedAt : ℤ)
  | delete (id : TemplateId)

/-- What a statement on `templates` returns. -/
@[reducible] def TemplateQuery.Answer : TemplateQuery → Type
  | get _ => Option Template
  | lock _ => Option Template
  | lockKey _ => Option Template
  | reapable _ => List TemplateId
  | isReapable _ _ => Bool
  | touch _ => Bool
  | insert _ => Bool
  | restart _ _ => Unit
  | finish _ _ => Bool
  | abandon _ _ _ => Unit
  | delete _ => Unit

/-- Calls to outside parties that leave the shared state alone. -/
inductive OutsideCall
  | issueJoinCredentials (hostName : String)
  /-- `secrets.token_urlsafe`. -/
  | mintSecret
  /-- `random.shuffle`. -/
  | shuffle (names : List String)
  /-- `Secret.fetch`. -/
  | fetchSecret (issuer : Issuer)
  | putSecret (vm : String) (service : Service) (placeholder : Placeholder) (value : String)
  | waitForDevice (hostName : String)
  | scanKnownHosts (host : Host)
  | releaseDevice (deviceId : String)
  | deleteSecrets (vm : String)
  | refreshBaseImage (image : String)
  | buildTemplateImage (baseImage setupScript label : String)
  | deleteTemplateImage (image : String)

/-- What an outside party answers: a value or any exception. -/
@[reducible] def OutsideCall.Answer : OutsideCall → Type
  | issueJoinCredentials _ => Except Failure (Dict String)
  | mintSecret => String
  | shuffle _ => List String
  | fetchSecret _ => Except Failure String
  | putSecret _ _ _ _ => Except Failure (Dict String)
  | waitForDevice _ => Except Failure String
  | scanKnownHosts _ => Except Failure String
  | releaseDevice _ => Except Failure Unit
  | deleteSecrets _ => Except Failure Unit
  | refreshBaseImage _ => Except Failure String
  | buildTemplateImage _ _ _ => Except Failure String
  | deleteTemplateImage _ => Except Failure Unit

/-- Calls that make or remove VMs.  A create is two steps: the VM can appear in between. -/
inductive VMCall
  /-- `create_vm` begins. -/
  | start (host : Host) (environment : Dict String) (setupScript : Option String)
  /-- `create_vm` returns or raises. -/
  | finish
  /-- `delete_vm(host.name)`. -/
  | delete (host : Host)

/-- What a provider answers. -/
@[reducible] def VMCall.Answer : VMCall → Type
  | start _ _ _ => Unit
  | finish => Except Failure VMCreateResult
  | delete _ => Except Failure Unit

/-- Everything that a task awaits. -/
inductive Op
  /-- `utc_now()`. -/
  | clock
  /-- `uuid7()`. -/
  | uuid7
  | advisoryLock (key : String)
  /-- The session closes without a commit. -/
  | rollback
  | hosts (query : HostQuery)
  | keys (query : KeyQuery)
  | templates (query : TemplateQuery)
  | outside (call : OutsideCall)
  | vm (call : VMCall)

/-- The answer to an operation. -/
@[reducible] def Op.Answer : Op → Type
  | clock => ℤ
  | uuid7 => ℕ
  | advisoryLock _ => Unit
  | rollback => Unit
  | hosts query => query.Answer
  | keys query => query.Answer
  | templates query => query.Answer
  | outside call => call.Answer
  | vm call => call.Answer

/-- A coroutine of drukbox. -/
abbrev Task (α : Type) := Program Op.Answer Failure α

namespace Task

/-- `utc_now()`. -/
def clock : Task ℤ := Program.await Op.clock

def hosts (query : HostQuery) : Task query.Answer := Program.await (Op.hosts query)

def keys (query : KeyQuery) : Task query.Answer := Program.await (Op.keys query)

def templates (query : TemplateQuery) : Task query.Answer := Program.await (Op.templates query)

def outside (call : OutsideCall) : Task call.Answer := Program.await (Op.outside call)

def vm (call : VMCall) : Task call.Answer := Program.await (Op.vm call)

def fail {α : Type} (kind : ErrorKind) (detail : String) : Task α := .raise { kind, detail }

end Task

variable {ι : Type} [DecidableEq ι]

/-- Execute a statement on `idempotency_keys`.  The foreign key's check waits for a lock on the
host's row. -/
def KeyQuery.perform (state : State ι) : (query : KeyQuery) → Option (query.Answer × State ι)
  | get key => some (state.keys.get key, state)
  | delete key => some ((), { state with keys := state.keys.erase key })
  | insert record =>
      if state.hostLock record.hostId = none then
        if (state.keys.get record.key).isNone ∧ (state.hosts.get record.hostId).isSome then
          some (true, { state with keys := state.keys.insert record.key record })
        else
          some (false, state)
      else
        none

namespace TemplateQuery

/-- The row was a running build before an instant. -/
def abandonable (before : ℤ) (template : Template) : Bool :=
  template.status == .building && template.updatedAt < before

/-- Lock a row that a query found. -/
def lockRow (session : ι) (state : State ι) (id : TemplateId) :
    Option (Option Template × State ι) :=
  if State.Free session (state.templateLock id) then
    match state.templates.get id with
    | none => some (none, state)
    | some template =>
        some (some template,
          { state with
            templateLock := Function.update state.templateLock id (some session) })
  else
    none

/-- Execute a statement on `templates`: `none` while it waits. -/
def perform (settings : Settings) (session : ι) (choice : Choice) (state : State ι) :
    (query : TemplateQuery) → Option (query.Answer × State ι)
  | get id => some (state.templates.get id, state)
  | lock id => lockRow session state id
  | lockKey key =>
      match choice with
      | .number id =>
          if (state.templates.get id).any fun template => template.toTemplateKey == key then
            lockRow session state id
          else
            none
      | _ =>
          if state.templates.any fun template => template.toTemplateKey == key then none
          else some (none, state)
  | reapable now =>
      match choice with
      | .numbers ids =>
          if ids.Nodup ∧ ids.toFinset =
              state.templates.keys.filter fun id =>
                (state.templates.get id).any (·.reapable settings now) then
            some (ids, state)
          else
            none
      | _ => none
  | isReapable id now =>
      some ((state.templates.get id).any (·.reapable settings now), state)
  | touch lease =>
      if lease.changed then
        (lockRow session state lease.template).map fun result => (result.1.isSome, result.2)
      else
        some (true, state)
  | insert template =>
      if (state.templates.get template.id).isNone ∧
          ¬ state.templates.any fun other => other.toTemplateKey == template.toTemplateKey then
        some (true,
          { state with templates := state.templates.insert template.id template })
      else
        some (false, state)
  | restart id updatedAt =>
      if State.Free session (state.templateLock id) then
        some ((),
          { state with
            templates :=
              state.templates.modify id fun row =>
                row.set { status := some .building, updatedAt := some updatedAt } }.release
            session)
      else
        none
  | finish id columns =>
      if columns.isEmpty then some (true, state.release session)
      else if State.Free session (state.templateLock id) then
        match state.templates.get id with
        | some template =>
            some (true,
              { state with
                templates := state.templates.insert id (template.set columns) }.release session)
        | none => some (false, state)
      else
        none
  | abandon before lastError updatedAt =>
      if ∀ id ∈ state.templates.keys,
          (state.templates.get id).any (abandonable before) →
            State.Free session (state.templateLock id) then
        some ((),
          { state with
            templates :=
              state.templates.map fun row =>
                if abandonable before row then
                  row.set
                    { status := some .failed
                      lastError := some lastError
                      updatedAt := some updatedAt }
                else
                  row })
      else
        none
  | delete id =>
      if State.Free session (state.templateLock id) then
        some ((), { state with templates := state.templates.erase id }.release session)
      else
        none

end TemplateQuery

/-- An outside party answers what it is chosen to answer. -/
def OutsideCall.answer (choice : Choice) : (call : OutsideCall) → Option call.Answer
  | mintSecret =>
      match choice with
      | .text text => some text
      | _ => none
  | shuffle names =>
      match choice with
      | .names shuffled => if shuffled.Perm names then some shuffled else none
      | _ => none
  | issueJoinCredentials _ | putSecret _ _ _ _ =>
      match choice with
      | .environment environment => some (.ok environment)
      | .failed failure => some (.error failure)
      | _ => none
  | fetchSecret _ | waitForDevice _ | scanKnownHosts _ | refreshBaseImage _ =>
      match choice with
      | .text text => some (.ok text)
      | .failed failure => some (.error failure)
      | _ => none
  | buildTemplateImage _ _ _ =>
      -- `derive_image_name` begins every name with its repository.
      match choice with
      | .text image => if image = "" then none else some (.ok image)
      | .failed failure => some (.error failure)
      | _ => none
  | releaseDevice _ | deleteSecrets _ | deleteTemplateImage _ =>
      match choice with
      | .go => some (.ok ())
      | .failed failure => some (.error failure)
      | _ => none

/-- Execute a call to a provider.  A delete finds no VM only where none has the name. -/
def VMCall.perform (task : ι) (choice : Choice) (state : State ι) :
    (call : VMCall) → Option (call.Answer × State ι)
  | start host _ _ =>
      some ((),
        { state with
          creating :=
            Function.update state.creating task
              (some { host := host.id, name := host.name, createdAt := host.createdAt }) })
  | finish =>
      let ended := { state with creating := Function.update state.creating task none }
      match choice with
      -- Every provider gives the VM the name that it was asked for.
      | .vm result =>
          if (state.creating task).all (·.name = result.name) then some (.ok result, ended)
          else none
      | .failed failure => some (.error failure, ended)
      | _ => none
  | delete host =>
      match choice with
      | .go => some (.ok (), { state with vms := state.vms.erase host.name })
      | .failed failure =>
          if failure.kind = .providerNotFound ∧ host.name ∈ state.vms then none
          else some (.error failure, state)
      | _ => none

/-- What happens without a task. -/
inductive Nature (ι : Type)
  /-- Time passes. -/
  | tick (microseconds : ℕ)
  /-- The VM of a `create_vm` call appears. -/
  | appears (task : ι)
  /-- The provider loses a VM. -/
  | vanishes (name : String)
  deriving DecidableEq, Repr

namespace Deployment

variable (deployment : Deployment)

/-- Execute one awaited operation. -/
def perform (task : ι) (op : Op) (choice : Choice) (state : State ι) :
    Option (op.Answer × State ι) :=
  match op with
  | .clock => some (state.now, state)
  | .uuid7 =>
      match choice with
      | .number id =>
          if id ∈ state.issued then none
          else some (id, { state with issued := insert id state.issued })
      | _ => none
  | .advisoryLock key =>
      if State.Free task (state.advisory (deployment.hashtext key)) then
        some ((),
          { state with
            advisory :=
              Function.update state.advisory (deployment.hashtext key) (some task) })
      else
        none
  | .rollback => some ((), state.release task)
  | .hosts query => query.perform task choice state
  | .keys query => query.perform state
  | .templates query => query.perform deployment.settings task choice state
  | .outside call => (call.answer choice).map fun answer => (answer, state)
  | .vm call => call.perform task choice state

/-- Execute one move of the outside world. -/
def nature (move : Nature ι) (state : State ι) : Option (State ι) :=
  match move with
  | .tick microseconds => some { state with now := state.now + microseconds }
  | .appears task =>
      (state.creating task).map fun creation =>
        { state with vms := insert creation.name state.vms }
  | .vanishes name => some { state with vms := state.vms.erase name }

/-- The sessions of all processes over one database.  A task that is cancelled or crashes rolls
back its open transaction; its `create_vm` call can still make a VM. -/
def system : System ι Op.Answer (State ι) Choice (Nature ι) where
  perform := deployment.perform
  world := nature
  abandon := State.release

end Deployment

end Drukbox
