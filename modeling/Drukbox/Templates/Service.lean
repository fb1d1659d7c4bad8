import Drukbox.Hosts.Calls

/-!
# The template service

`TemplateService` and the template janitor as awaiting programs.
-/

namespace Drukbox

open Await

/-- The arguments of `TemplateService.get_or_create`. -/
structure TemplateRequest where
  provider : Option String := none
  baseImage : Option String := none
  setupScript : String
  label : String := ""

namespace TemplateService

variable (deployment : Deployment)

/-- `resolve_capability(vm, TemplateCapability)`. -/
def resolveCapability (vm : VMProvider) : Except Failure Unit :=
  if vm.buildsTemplates then .ok ()
  else
    .error
      { kind := .capabilityUnsupported
        detail := "VM provider '" ++ vm.name ++ "' does not support TemplateCapability" }

/-- The row that `get_or_create` inserts. -/
def newTemplate (request : TemplateRequest) (vm : VMProvider) (baseImage baseImageRef : String)
    (id : TemplateId) (now : ℤ) : Template :=
  { id
    provider := vm.name
    baseImage
    baseImageRef
    setupScriptHash := deployment.sha256 request.setupScript
    setupScript := request.setupScript
    label := request.label
    image := ""
    status := .building
    lastError := ""
    createdAt := now
    updatedAt := now }

/-- `get_or_create` after the unique index refused its row. -/
def joinWinner (key : TemplateKey) (now : ℤ) : Task (Template × Bool) := do
  match ← Task.templates (.lockKey key) with
  | none => Task.fail .templateState "template creation race could not be resolved"
  | some winner =>
      if winner.status = .failed then do
        Task.templates (.restart winner.id now)
        return (winner.set { status := some .building, updatedAt := some now }, true)
      else
        return (winner, false)

/-- `get_or_create`: the template, and whether the caller has to build it. -/
def getOrCreate (request : TemplateRequest) : Task (Template × Bool) := do
  Program.ofExcept (HostService.checkProvider deployment request.provider)
  let vm ← Program.ofExcept (deployment.getVmProvider request.provider)
  let baseImage := (given request.baseImage).getD vm.defaultImage
  Program.ofExcept (resolveCapability vm)
  let refreshed ← Task.outside (.refreshBaseImage baseImage)
  let baseImageRef ← Program.ofExcept refreshed
  let now ← Task.clock
  let id ← Program.await Op.uuid7
  let template := newTemplate deployment request vm baseImage baseImageRef id now
  let inserted ← Task.templates (.insert template)
  if inserted then
    match ← Task.templates (.get id) with
    | some template => return (template, true)
    | none => Task.fail .invalidRequest "Could not refresh instance"
  else
    joinWinner template.toTemplateKey now

/-- The provider's part of a build. -/
def buildImage (template : Template) : Task (Except Failure String) :=
  let resolved := do
    let vm ← deployment.getVmProvider (some template.provider)
    resolveCapability vm
  match resolved with
  | .error failure => return .error failure
  | .ok () =>
      Task.outside
        (.buildTemplateImage template.baseImageRef template.setupScript template.label)

/-- The object as `build` leaves it. -/
def built (template : Template) (updatedAt : ℤ) : Except Failure String → Template
  | .error failure =>
      { template with status := .failed, lastError := failure.describe, updatedAt }
  | .ok image => { template with image, status := .available, lastError := "", updatedAt }

/-- `build`.  The ORM writes the columns that differ from those that the build loaded. -/
def build (id : TemplateId) : Task Unit := do
  match ← Task.templates (.get id) with
  | none => Task.fail .resourceNotFound "template not found"
  | some template =>
      let outcome ← buildImage deployment template
      let updatedAt ← Task.clock
      let matched ←
        Task.templates (.finish id (Template.changes template (built template updatedAt outcome)))
      if matched then return ()
      else
        Task.fail .staleData "UPDATE statement on table 'templates' expected to update 1 row(s)"

/-- The guard of the janitor's delete: true spares the template. -/
def spared (expiredOnly : Bool) (id : TemplateId) : Task Bool :=
  if expiredOnly then do
    let now ← Task.clock
    let reapable ← Task.templates (.isReapable id now)
    return !reapable
  else
    return false

/-- The image goes before its row. -/
def removeImage (template : Template) : Task Unit :=
  if template.image = "" then return ()
  else do
    let vm ← Program.ofExcept (deployment.getVmProvider (some template.provider))
    Program.ofExcept (resolveCapability vm)
    match ← Task.outside (.deleteTemplateImage template.image) with
    | .ok () => return ()
    | .error failure =>
        if failure.kind = .providerNotFound then return () else .raise failure

def delete (id : TemplateId) (expiredOnly : Bool) : Task Bool := do
  match ← Task.templates (.lock id) with
  | none => Task.fail .resourceNotFound "template not found"
  | some template =>
      let spares ← spared expiredOnly id
      if spares then return false
      else if template.status = .building then
        Task.fail .templateState "template is still building"
      else do
        removeImage deployment template
        Task.templates (.delete id)
        return true

/-- The deletes of one janitor run. -/
def reapEach : List TemplateId → Task (List TemplateId)
  | [] => return []
  | id :: rest => do
      let deleted ← (HostService.inSession (delete deployment id true)).attempt
      let reaped ← reapEach rest
      match deleted with
      | .ok true => return id :: reaped
      | _ => return reaped

/-- The janitor's message for a build that it gives up. -/
def abandonedMessage : String :=
  "build abandoned: exceeded the " ++ toString deployment.settings.templateBuildTimeout ++
    "-second build timeout"

def reapTemplates : Task (List TemplateId) := do
  let now ← Task.clock
  let updatedAt ← Task.clock
  Task.templates
    (.abandon (now - seconds deployment.settings.templateBuildTimeout)
      (abandonedMessage deployment) updatedAt)
  let now ← Task.clock
  let candidates ← Task.templates (.reapable now)
  reapEach deployment candidates

/-- `POST /templates`: the build runs after the response. -/
def createTemplate (request : TemplateRequest) : Task Template := do
  let (template, needsBuild) ← HostService.inSession (getOrCreate deployment request)
  if needsBuild then do
    HostService.inSession (build deployment template.id)
    return template
  else
    return template

end TemplateService

/-- A task of the template service. -/
inductive TemplateCall
  | create (request : TemplateRequest)
  | delete (id : TemplateId) (expiredOnly : Bool)
  | reap

open TemplateService in
/-- The program of a call. -/
def TemplateCall.program (deployment : Deployment) : TemplateCall → Task Reply
  | create request => .template <$> createTemplate deployment request
  | delete id expiredOnly =>
      .deleted <$> HostService.inSession (TemplateService.delete deployment id expiredOnly)
  | reap => .reaped <$> reapTemplates deployment

end Drukbox
