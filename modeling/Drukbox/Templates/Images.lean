import Drukbox.Await.Machine
import Drukbox.Await.Script
import Drukbox.Hosts.Ownership
import Drukbox.Templates.Service

/-!
# Template images on one Docker daemon

`docker`, `docker-sbx` and `exe` build their templates on one daemon, under a name that is derived
from the base image reference, the setup script and the label.  A row is keyed by its provider and
its requested base image too, so two rows can name one image.
-/

namespace Drukbox.TemplateImages

open Await Program

/-- What the template providers read of the settings. -/
structure Registry where
  registryHost : String
  /-- Empty where no template is published. -/
  templateRepository : String
  /-- `hashlib.sha256(...).hexdigest()`. -/
  sha256 : String → String

section Names

/-- `str.lower`, as far as ASCII letters can come of it: no other letter has one in its lower
case. -/
def lowerChar (char : Char) : List Char :=
  if char = Char.ofNat 0x212A then ['k']
  else if char = Char.ofNat 0x130 then ['i', Char.ofNat 0x307]
  else [char.toLower]

/-- `[a-z0-9]`. -/
def isPlain (char : Char) : Bool :=
  ('a' ≤ char && char ≤ 'z') || ('0' ≤ char && char ≤ '9')

/-- `re.sub(r"[^a-z0-9]+", "-", ...)`; the flag says that the run before is replaced already. -/
def dashed : Bool → List Char → List Char
  | _, [] => []
  | run, char :: rest =>
      if isPlain char then char :: dashed false rest
      else if run then dashed true rest
      else '-' :: dashed true rest

/-- `str.strip("-")`. -/
def strip (chars : List Char) : List Char :=
  ((chars.dropWhile (· == '-')).reverse.dropWhile (· == '-')).reverse

/-- The purpose of a template, as its tag spells it. -/
def purpose (label : String) : String :=
  String.ofList (strip ((dashed false (label.toList.flatMap lowerChar)).take 115))

def deriveImageName (sha256 : String → String) (baseImage setupScript label repository : String) :
    String :=
  let identity := baseImage ++ String.singleton (Char.ofNat 0) ++ setupScript
  let digest := String.ofList ((sha256 identity).toList.take 12)
  if purpose label = "" then repository ++ ":" ++ digest
  else repository ++ ":" ++ purpose label ++ "-" ++ digest

/-- `create_build_context`: the files of the archive. -/
def createBuildContext (baseImage setupScript : String) : List (String × String) :=
  [("Dockerfile",
      "FROM " ++ baseImage ++ "\nCOPY setup.sh /drukbox-setup.sh\n" ++
        "RUN sh /drukbox-setup.sh && rm /drukbox-setup.sh\n"),
    ("setup.sh", setupScript)]

/-- The repository of the names that `build_derived_image` derives. -/
def Registry.repository (registry : Registry) : String :=
  if registry.templateRepository = "" then "drukbox-template"
  else registry.registryHost ++ "/" ++ registry.templateRepository

/-- The image name of a row. -/
def Registry.imageName (registry : Registry) (row : Template) : String :=
  deriveImageName registry.sha256 row.baseImageRef row.setupScript row.label registry.repository

end Names

/-- Calls to the Docker daemon and to sbx. -/
inductive Call
  | buildImage (image : String) (contextTar : List (String × String))
  | pushImage (image : String)
  | saveImage (image : String)
  | removeImage (image : String)
  /-- `sbx` loads the archive of an image. -/
  | loadTemplate (image : String)
  | removeTemplate (image : String)

/-- `DockerImageNotFoundError` and `DockerSbxNotFoundError`, or any other error of theirs. -/
inductive CallError
  | notFound (detail : String)
  | failed (detail : String)

/-- The text of an error. -/
def CallError.detail : CallError → String
  | notFound detail | failed detail => detail

/-- The image names that Docker and sbx have. -/
structure Stores where
  docker : Finset String
  sbx : Finset String
  deriving DecidableEq

/-- What becomes of one call. -/
inductive Fate
  | served
  /-- An error, without effect. -/
  | refused (detail : String)
  /-- The effect, with an error. -/
  | lost (detail : String)
  deriving DecidableEq, Repr

/-- The effect of a call.  One name denotes one image. -/
def Call.effect (stores : Stores) : Call → Stores
  | buildImage image _ => { stores with docker := insert image stores.docker }
  | removeImage image => { stores with docker := stores.docker.erase image }
  | loadTemplate image => { stores with sbx := insert image stores.sbx }
  | removeTemplate image => { stores with sbx := stores.sbx.erase image }
  | pushImage _ | saveImage _ => stores

/-- The image that a call needs is not there. -/
def Call.missing (stores : Stores) : Call → Bool
  | saveImage image | removeImage image => image ∉ stores.docker
  | removeTemplate image => image ∉ stores.sbx
  | buildImage _ _ | pushImage _ | loadTemplate _ => false

/-- Execute a call. -/
def perform (call : Call) (fate : Fate) (stores : Stores) : Except CallError Unit × Stores :=
  match fate with
  | .served =>
      if call.missing stores then (.error (.notFound "No such image"), stores)
      else (.ok (), call.effect stores)
  | .refused detail => (.error (.failed detail), stores)
  | .lost detail => (.error (.failed detail), call.effect stores)

/-- A function of a template provider. -/
abbrev ImageTask (α : Type) := Program (fun _ : Call => Except CallError Unit) Failure α

/-- A call whose errors become `ProviderTransportError`. -/
def transported (call : Call) : ImageTask Unit := do
  match ← Program.await call with
  | .ok () => return ()
  | .error error => .raise { kind := .provider, detail := error.detail }

def buildDerivedImage (registry : Registry) (baseImage setupScript label : String) :
    ImageTask String := do
  let image := deriveImageName registry.sha256 baseImage setupScript label registry.repository
  transported (.buildImage image (createBuildContext baseImage setupScript))
  if registry.templateRepository = "" then return image
  else do
    transported (.pushImage image)
    return image

def removeDerivedImage (image : String) : ImageTask Unit := do
  match ← Program.await (.removeImage image) with
  | .ok () => return ()
  | .error (.notFound _) =>
      .raise { kind := .providerNotFound, detail := "docker image '" ++ image ++ "' was not found" }
  | .error (.failed detail) => .raise { kind := .provider, detail }

/-- The providers with `TemplateCapability`. -/
inductive Provider
  | docker
  | dockerSbx
  | exe
  deriving DecidableEq, Repr

namespace Provider

/-- The provider's name. -/
def name : Provider → String
  | docker => "docker"
  | dockerSbx => "docker-sbx"
  | exe => "exe"

def buildTemplateImage (registry : Registry) (provider : Provider)
    (baseImage setupScript label : String) : ImageTask String :=
  match provider with
  | docker => buildDerivedImage registry baseImage setupScript label
  | dockerSbx => do
      let image ← buildDerivedImage registry baseImage setupScript label
      -- sbx keeps its own image store.  The Docker image only carries the build.
      transported (.saveImage image)
      transported (.loadTemplate image)
      transported (.removeImage image)
      return image
  | exe =>
      if registry.templateRepository = "" then
        .raise
          { kind := .provider
            detail := "Template repository is not configured. Set TEMPLATE_REPOSITORY." }
      else
        buildDerivedImage registry baseImage setupScript label

def deleteTemplateImage (provider : Provider) (image : String) : ImageTask Unit :=
  match provider with
  | docker | exe => removeDerivedImage image
  | dockerSbx => do
      match ← Program.await (.removeTemplate image) with
      | .ok () => return ()
      | .error (.notFound _) =>
          .raise
            { kind := .providerNotFound, detail := "sbx template '" ++ image ++ "' was not found" }
      | .error (.failed detail) => .raise { kind := .provider, detail }

/-- `get_vm_provider`. -/
def ofName (name : String) : Except Failure Provider :=
  match [docker, dockerSbx, exe].find? fun provider => provider.name == name with
  | some provider => .ok provider
  | none => .error { kind := .unknownProvider, detail := "unknown VM provider: " ++ name }

end Provider

theorem Provider.name_of_ofName {name : String} {provider : Provider}
    (known : ofName name = .ok provider) : provider.name = name := by
  unfold ofName at known
  split at known
  · next found =>
      obtain rfl := Except.ok.inj known
      simpa using List.find?_some found
  · contradiction

/-- The provider's part of `TemplateService.build`. -/
def buildImage (registry : Registry) (row : Template) : ImageTask String := do
  let provider ← Program.ofExcept (Provider.ofName row.provider)
  provider.buildTemplateImage registry row.baseImageRef row.setupScript row.label

/-- The provider's part of `TemplateService.delete`. -/
def removeImage (row : Template) : ImageTask Unit :=
  if row.image = "" then return ()
  else do
    let provider ← Program.ofExcept (Provider.ofName row.provider)
    match ← (provider.deleteTemplateImage row.image).attempt with
    | .ok () => return ()
    | .error failure =>
        if failure.kind = .providerNotFound then return () else .raise failure

/-- The template rows and the image stores. -/
structure Workshop where
  now : ℤ
  rows : Table TemplateId Template
  stores : Stores

/-- One operation after another. -/
inductive Operation
  /-- A `POST /templates` inserts its row. -/
  | create (row : Template)
  /-- A `POST /templates` restarts a failed row. -/
  | restart (id : TemplateId)
  /-- The janitor marks an abandoned build failed. -/
  | abandon (id : TemplateId) (lastError : String)
  /-- `TemplateService.build`; where the script ends early, its process dies. -/
  | build (id : TemplateId) (script : List Fate)
  /-- `TemplateService.delete`; the janitor's with `expired_only`. -/
  | delete (id : TemplateId) (expiredOnly : Bool) (script : List Fate)
  /-- Time passes. -/
  | tick (microseconds : ℕ)

variable (settings : Settings) (registry : Registry)

/-- Execute `TemplateService.build`. -/
def Workshop.build (workshop : Workshop) (id : TemplateId) (row : Template) (script : List Fate) :
    Workshop :=
  let played := (buildImage registry row).play perform script workshop.stores
  let written (outcome : Except Failure String) : Workshop :=
    { workshop with
      rows := workshop.rows.insert id
        (row.set (Template.changes row (TemplateService.built row workshop.now outcome)))
      stores := played.2 }
  match played.1 with
  | .returned image => written (.ok image)
  | .raised failure => written (.error failure)
  | .crashed => { workshop with stores := played.2 }

/-- Execute `TemplateService.delete`. -/
def Workshop.delete (workshop : Workshop) (id : TemplateId) (row : Template) (expiredOnly : Bool)
    (script : List Fate) : Workshop :=
  if expiredOnly ∧ ¬ row.reapable settings workshop.now then workshop
  else if row.status = .building then workshop
  else
    let played := (removeImage row).play perform script workshop.stores
    match played.1 with
    | .returned () => { workshop with rows := workshop.rows.erase id, stores := played.2 }
    | .raised _ | .crashed => { workshop with stores := played.2 }

/-- Execute one operation, if it can happen. -/
def next (workshop : Workshop) : Operation → Option Workshop
  | .create row =>
      if (workshop.rows.get row.id).isNone ∧
          ¬ workshop.rows.any (fun other => other.toTemplateKey == row.toTemplateKey) ∧
            row.status = .building ∧ row.image = "" then
        some { workshop with rows := workshop.rows.insert row.id row }
      else
        none
  | .restart id =>
      match workshop.rows.get id with
      | some row =>
          if row.status = .failed then
            some
              { workshop with
                rows := workshop.rows.insert id
                  (row.set { status := some .building, updatedAt := some workshop.now }) }
          else
            none
      | none => none
  | .abandon id lastError =>
      match workshop.rows.get id with
      | some row =>
          if TemplateQuery.abandonable
              (workshop.now - seconds settings.templateBuildTimeout) row then
            some
              { workshop with
                rows := workshop.rows.insert id
                  (row.set
                    { status := some .failed
                      lastError := some lastError
                      updatedAt := some workshop.now }) }
          else
            none
      | none => none
  | .build id script => (workshop.rows.get id).map fun row => workshop.build registry id row script
  | .delete id expiredOnly script =>
      (workshop.rows.get id).map fun row => workshop.delete settings id row expiredOnly script
  | .tick microseconds => some { workshop with now := workshop.now + microseconds }

/-- Sequences of operations on templates. -/
def machine : Machine Workshop Operation where
  next := next settings registry

section Calls

variable {registry} {stores : Stores} {row : Template} {image : String} {provider : Provider}
  {baseImage setupScript label : String} {removable : String → Prop}

/-- The call removes only Docker images that may be removed. -/
def Call.Spares (removable : String → Prop) (call : Call) : Prop :=
  ∀ image, call = .removeImage image → removable image

/-- The Docker images of before are still there, but for those that may be removed. -/
def Spared (before after : Stores) (removable : String → Prop) : Prop :=
  ∀ image ∈ before.docker, ¬ removable image → image ∈ after.docker

theorem spared_effect {before : Stores} {call : Call} (spares : call.Spares removable)
    (spared : Spared before stores removable) : Spared before (call.effect stores) removable := by
  intro image present safe
  have present := spared image present safe
  cases call with
  | buildImage => exact Finset.mem_insert_of_mem present
  | removeImage removed =>
      refine Finset.mem_erase.mpr ⟨fun same => safe ?_, present⟩
      exact same ▸ spares removed rfl
  | pushImage | saveImage | loadTemplate | removeTemplate => exact present

theorem spared_perform {before : Stores} {call : Call} {fate : Fate}
    (spares : call.Spares removable) (spared : Spared before stores removable) :
    Spared before (perform call fate stores).2 removable := by
  cases fate with
  | served =>
      simp only [perform]
      split
      · exact spared
      · exact spared_effect spares spared
  | refused detail => exact spared
  | lost detail => exact spared_effect spares spared

/-- A program whose calls spare the other images spares them, wherever it ends. -/
theorem spared_play {α : Type} {program : ImageTask α} (all : program.All (Call.Spares removable))
    (script : List Fate) : Spared stores (program.play perform script stores).2 removable := by
  have begins : Spared stores stores removable := fun _ present _ => present
  have keeps (call : Call) (fate : Fate) (after : Stores) (spares : call.Spares removable)
      (spared : Spared stores after removable) :
      Spared stores (perform call fate after).2 removable :=
    spared_perform spares spared
  exact (all.ensures keeps begins).play script

theorem transported_all {good : Call → Prop} {call : Call} (holds : good call) :
    (transported call).All good := by
  refine .step holds fun answer => ?_
  cases answer <;> trivial

theorem buildDerivedImage_all :
    (buildDerivedImage registry baseImage setupScript label).All (Call.Spares removable) := by
  unfold buildDerivedImage
  refine .bind (transported_all nofun) fun _ => ?_
  split
  · trivial
  · exact .bind (transported_all nofun) fun _ => trivial

theorem buildDerivedImage_bind_all {α : Type} {next : String → ImageTask α}
    (rest : (next (deriveImageName registry.sha256 baseImage setupScript label
      registry.repository)).All (Call.Spares removable)) :
    ((buildDerivedImage registry baseImage setupScript label).bind next).All
      (Call.Spares removable) := by
  unfold buildDerivedImage
  generalize deriveImageName registry.sha256 baseImage setupScript label registry.repository =
    image at rest ⊢
  refine ⟨nofun, fun answer => ?_⟩
  cases answer with
  | error error => trivial
  | ok _ =>
      show (Program.bind (if registry.templateRepository = "" then _ else _) next).All _
      split
      · exact rest
      · refine ⟨nofun, fun answer => ?_⟩
        cases answer with
        | error error => trivial
        | ok _ => exact rest

theorem removeDerivedImage_all (removes : removable image) :
    (removeDerivedImage image).All (Call.Spares removable) := by
  refine .step (by rintro _ ⟨⟩; exact removes) fun answer => ?_
  cases answer with
  | ok _ => trivial
  | error error => cases error <;> trivial

/-- Only `docker-sbx` removes an image in a build, the one that it derived. -/
theorem buildImage_all (removes : row.provider = Provider.dockerSbx.name →
      removable (registry.imageName row)) :
    (buildImage registry row).All (Call.Spares removable) := by
  unfold buildImage
  cases known : Provider.ofName row.provider with
  | error failure => trivial
  | ok provider =>
  simp only [ofExcept_ok, bind_eq_bind, done_bind]
  cases provider with
  | docker => exact buildDerivedImage_all
  | exe =>
      unfold Provider.buildTemplateImage
      dsimp only
      split
      · trivial
      · exact buildDerivedImage_all
  | dockerSbx =>
      have spares : (Call.removeImage (registry.imageName row)).Spares removable := by
        rintro _ ⟨⟩
        exact removes (Provider.name_of_ofName known).symm
      exact buildDerivedImage_bind_all (.bind (transported_all nofun) fun _ =>
        .bind (transported_all nofun) fun _ => .bind (transported_all spares) fun _ => trivial)

/-- A delete removes no Docker image but the row's, and `docker-sbx` none at all. -/
theorem removeImage_all (removes : row.image ≠ "" →
      row.provider = Provider.docker.name ∨ row.provider = Provider.exe.name →
        removable row.image) :
    (removeImage row).All (Call.Spares removable) := by
  unfold removeImage
  split
  · trivial
  next built =>
  cases known : Provider.ofName row.provider with
  | error failure => trivial
  | ok provider =>
  simp only [ofExcept_ok, bind_eq_bind, done_bind]
  have named := (Provider.name_of_ofName known).symm
  have deletes : (provider.deleteTemplateImage row.image).All (Call.Spares removable) := by
    cases provider with
    | docker => exact removeDerivedImage_all (removes built (.inl named))
    | exe => exact removeDerivedImage_all (removes built (.inr named))
    | dockerSbx =>
        refine .step nofun fun answer => ?_
        cases answer with
        | ok _ => trivial
        | error error => cases error <;> trivial
  refine .bind deletes.attempt fun outcome => ?_
  cases outcome with
  | ok _ => trivial
  | error failure =>
      dsimp only
      split <;> trivial

/-- What a call comes before decides what is returned. -/
theorem transported_bind_returns {call : Call} {next : Unit → ImageTask String}
    {returns : String → Prop}
    (rest : ∀ after, (next ()).Ensures perform after fun outcome _ =>
      ∀ image, outcome = .returned image → returns image) :
    ((transported call).bind next).Ensures perform stores fun outcome _ =>
      ∀ image, outcome = .returned image → returns image := by
  refine ⟨nofun, fun fate => ?_⟩
  cases (perform call fate stores).1 with
  | error error => exact nofun
  | ok _ => exact rest _

/-- A call that follows only returns what the program before it decided. -/
theorem buildDerivedImage_returns :
    (buildDerivedImage registry baseImage setupScript label).Ensures perform stores
      fun outcome _ => ∀ image, outcome = .returned image →
        image = deriveImageName registry.sha256 baseImage setupScript label
          registry.repository := by
  unfold buildDerivedImage
  generalize deriveImageName registry.sha256 baseImage setupScript label registry.repository = name
  refine transported_bind_returns fun after => ?_
  split
  · rintro image ⟨⟩
    rfl
  · refine transported_bind_returns fun _ => ?_
    rintro image ⟨⟩
    rfl

/-- A build that returns, returns its row's image name. -/
theorem buildImage_returns :
    (buildImage registry row).Ensures perform stores fun outcome _ => ∀ image,
      outcome = .returned image → image = registry.imageName row := by
  unfold buildImage
  cases Provider.ofName row.provider with
  | error failure => exact nofun
  | ok provider =>
  simp only [ofExcept_ok, bind_eq_bind, done_bind]
  have derived : (buildDerivedImage registry row.baseImageRef row.setupScript row.label).Ensures
      perform stores fun outcome _ => ∀ image, outcome = .returned image →
        image = registry.imageName row := buildDerivedImage_returns
  cases provider with
  | docker => exact derived
  | exe =>
      unfold Provider.buildTemplateImage
      dsimp only
      split
      · exact nofun
      · exact derived
  | dockerSbx =>
      refine derived.bind (fun image after returns => ?_) nofun nofun
      have same : image = registry.imageName row := returns image rfl
      exact transported_bind_returns fun _ => transported_bind_returns fun _ =>
        transported_bind_returns fun _ => by rintro _ ⟨⟩; exact same

end Calls

/-- A row that has an image has the one of its name, and an available row has it. -/
structure Workshop.Named (registry : Registry) (workshop : Workshop) : Prop where
  built : ∀ id row, workshop.rows.get id = some row → row.image ≠ "" →
    row.image = registry.imageName row
  available : ∀ id row, workshop.rows.get id = some row → row.status = .available →
    row.image = registry.imageName row

/-- No other available `docker` row, whose image is there, has the image name of the row. -/
def Workshop.Unshared (registry : Registry) (workshop : Workshop) (id : TemplateId)
    (row : Template) : Prop :=
  ∀ other rival, other ≠ id → workshop.rows.get other = some rival →
    rival.provider = Provider.docker.name → rival.status = .available →
      rival.image ∈ workshop.stores.docker → registry.imageName rival ≠ registry.imageName row

/-- The operation removes the Docker image of a row: `docker-sbx` when it builds, `docker` and `exe`
when they delete. -/
def Operation.Removes (settings : Settings) (workshop : Workshop) (row : Template) :
    Operation → Prop
  | build _ _ => row.provider = Provider.dockerSbx.name
  | delete _ expiredOnly _ =>
      row.image ≠ "" ∧
        (row.provider = Provider.docker.name ∨ row.provider = Provider.exe.name) ∧
        row.status ≠ .building ∧ (expiredOnly → row.reapable settings workshop.now)
  | create _ | restart _ | abandon _ _ | tick _ => False

/-- The row that an operation builds or deletes. -/
def Operation.target : Operation → Option TemplateId
  | build id _ | delete id _ _ => some id
  | create _ | restart _ | abandon _ _ | tick _ => none

/-- The operation with other answers of Docker and sbx. -/
def Operation.withScript (script : List Fate) : Operation → Operation
  | build id _ => build id script
  | delete id expiredOnly _ => delete id expiredOnly script
  | create row => create row
  | restart id => restart id
  | abandon id lastError => abandon id lastError
  | tick microseconds => tick microseconds

/-- An operation that removes the Docker image of its row shares it with no other available `docker`
row. -/
def Apart (settings : Settings) (registry : Registry) (workshop : Workshop)
    (operation : Operation) : Prop :=
  ∀ id row, operation.target = some id → workshop.rows.get id = some row →
    operation.Removes settings workshop row → workshop.Unshared registry id row

/-- The images that other available `docker` rows name are still there. -/
def SparesOthers (workshop after : Workshop) (operation : Operation) : Prop :=
  ∀ id row, operation.target ≠ some id → workshop.rows.get id = some row →
    row.provider = Provider.docker.name → row.status = .available →
      row.image ∈ workshop.stores.docker → row.image ∈ after.stores.docker

section Steps

variable {settings registry} {workshop after : Workshop} {operation : Operation} {id : TemplateId}
  {row : Template} {script : List Fate}

theorem set_changes_built {updatedAt : ℤ} {outcome : Except Failure String} :
    row.set (Template.changes row (TemplateService.built row updatedAt outcome)) =
      TemplateService.built row updatedAt outcome := by
  have kept {α : Type} (before now : α) [Decidable (before = now)] :
      (if before = now then none else some now).getD before = now := by
    split
    · next same => exact same
    · rfl
  cases outcome with
  | error failure =>
      simp only [Template.changes, Template.set, TemplateService.built, Option.getD_none,
        if_true, Template.mk.injEq, true_and, and_true]
      exact ⟨kept _ _, kept _ _, kept _ _⟩
  | ok image =>
      simp only [Template.changes, Template.set, TemplateService.built, Template.mk.injEq,
        true_and, and_true]
      exact ⟨kept _ _, kept _ _, kept _ _, kept _ _⟩

theorem imageName_built {updatedAt : ℤ} {outcome : Except Failure String} :
    registry.imageName (TemplateService.built row updatedAt outcome) = registry.imageName row := by
  cases outcome <;> rfl

theorem build_stores : (workshop.build registry id row script).stores =
    ((buildImage registry row).play perform script workshop.stores).2 := by
  unfold Workshop.build
  dsimp only
  split <;> rfl

/-- What an operation on a row removes is the row's image at most. -/
theorem build_spares (named : workshop.Named registry)
    (apart : Apart settings registry workshop (.build id script))
    (held : workshop.rows.get id = some row) :
    SparesOthers workshop (workshop.build registry id row script) (.build id script) := by
  intro other rival elsewhere present docker available there
  rw [build_stores]
  have all : (buildImage registry row).All (Call.Spares fun image =>
      row.provider = Provider.dockerSbx.name ∧ image = registry.imageName row) :=
    buildImage_all fun sbx => ⟨sbx, rfl⟩
  refine spared_play all script rival.image there ?_
  rintro ⟨sbx, same⟩
  refine apart id row rfl held sbx other rival (fun own => elsewhere (own ▸ rfl)) present docker
    available there ?_
  rw [← named.available other rival present available, same]

theorem delete_spares {expiredOnly : Bool} (named : workshop.Named registry)
    (apart : Apart settings registry workshop (.delete id expiredOnly script))
    (held : workshop.rows.get id = some row) :
    SparesOthers workshop (workshop.delete settings id row expiredOnly script)
      (.delete id expiredOnly script) := by
  intro other rival elsewhere present docker available there
  unfold Workshop.delete
  split
  · exact there
  next reapable =>
  split
  · exact there
  next idle =>
  have all : (removeImage row).All (Call.Spares fun image => row.image ≠ "" ∧
      (row.provider = Provider.docker.name ∨ row.provider = Provider.exe.name) ∧
        image = row.image) := removeImage_all fun built removes => ⟨built, removes, rfl⟩
  have kept : rival.image ∈
      ((removeImage row).play perform script workshop.stores).2.docker := by
    refine spared_play all script rival.image there ?_
    rintro ⟨built, removes, same⟩
    have expired : expiredOnly → row.reapable settings workshop.now := fun guarded => by
      by_contra fresh
      exact reapable ⟨guarded, fresh⟩
    refine apart id row rfl held ⟨built, removes, idle, expired⟩ other rival
      (fun own => elsewhere (own ▸ rfl)) present docker available there ?_
    rw [← named.available other rival present available, same, named.built id row held built]
  dsimp only
  split <;> exact kept

theorem buildDerivedImage_bind_play (registry : Registry)
    (baseImage setupScript label : String) :
    ∃ calls, ∀ (next : String → ImageTask String) script stores,
      ((buildDerivedImage registry baseImage setupScript label).bind next).play perform
          (List.replicate calls .served ++ script) stores =
        (next (deriveImageName registry.sha256 baseImage setupScript label
          registry.repository)).play perform script
          (Call.effect stores (.buildImage (deriveImageName registry.sha256 baseImage setupScript
            label registry.repository) [])) := by
  unfold buildDerivedImage
  generalize deriveImageName registry.sha256 baseImage setupScript label registry.repository = name
  by_cases unpublished : registry.templateRepository = ""
  · refine ⟨1, fun next script stores => ?_⟩
    simp [unpublished, transported, Program.await, Program.play, perform, Call.missing,
      Call.effect]
  · refine ⟨2, fun next script stores => ?_⟩
    simp [unpublished, transported, Program.await, Program.play, perform, Call.missing,
      Call.effect, List.replicate]

/-- A build of `docker-sbx` in which nothing fails removes the image that it built. -/
theorem buildImage_removes (registry : Registry) (stores : Stores)
    (sbx : row.provider = Provider.dockerSbx.name) :
    ∃ script, registry.imageName row ∉
      ((buildImage registry row).play perform script stores).2.docker := by
  obtain ⟨calls, played⟩ :=
    buildDerivedImage_bind_play registry row.baseImageRef row.setupScript row.label
  refine ⟨List.replicate calls .served ++ List.replicate 3 .served, ?_⟩
  have known : Provider.ofName row.provider = .ok .dockerSbx := by rw [sbx]; decide
  have name : deriveImageName registry.sha256 row.baseImageRef row.setupScript row.label
    registry.repository = registry.imageName row := rfl
  unfold buildImage
  simp only [known, ofExcept_ok, bind_eq_bind, done_bind, Provider.buildTemplateImage]
  rw [played, name]
  generalize registry.imageName row = image
  simp [transported, Program.await, Program.play, perform, Call.missing, Call.effect,
    List.replicate]

/-- A delete of `docker` or `exe` that is served removes the row's image. -/
theorem removeImage_removes {stores : Stores} (built : row.image ≠ "")
    (deletes : row.provider = Provider.docker.name ∨ row.provider = Provider.exe.name)
    (present : row.image ∈ stores.docker) :
    row.image ∉ ((removeImage row).play perform [.served] stores).2.docker := by
  have found : ∃ provider, Provider.ofName row.provider = .ok provider ∧
      provider.deleteTemplateImage row.image = removeDerivedImage row.image := by
    obtain docker | exe := deletes
    · exact ⟨.docker, by rw [docker]; decide, rfl⟩
    · exact ⟨.exe, by rw [exe]; decide, rfl⟩
  obtain ⟨provider, known, removes⟩ := found
  unfold removeImage
  rw [if_neg built]
  simp only [known, ofExcept_ok, bind_eq_bind, done_bind, removes]
  simp [removeDerivedImage, Program.await, Program.play, Program.attempt, perform, Call.missing,
    Call.effect, present]

theorem Workshop.Named.inserted (named : workshop.Named registry) (id : TemplateId)
    (rows : after.rows = workshop.rows.insert id row)
    (built : row.image ≠ "" → row.image = registry.imageName row)
    (available : row.status = .available → row.image = registry.imageName row) :
    after.Named registry where
  built := by
    intro other rival present
    rw [rows, Table.get_insert] at present
    split at present
    · obtain rfl := Option.some.inj present
      exact built
    · exact named.built other rival present
  available := by
    intro other rival present
    rw [rows, Table.get_insert] at present
    split at present
    · obtain rfl := Option.some.inj present
      exact available
    · exact named.available other rival present

theorem Workshop.Named.build (named : workshop.Named registry)
    (held : workshop.rows.get id = some row) :
    (workshop.build registry id row script).Named registry := by
  have returns : ∀ image,
      ((buildImage registry row).play perform script workshop.stores).1 = .returned image →
        image = registry.imageName row := buildImage_returns.play script
  unfold Workshop.build
  dsimp only
  split
  · next image returned =>
      have same : image = registry.imageName row := returns image returned
      refine named.inserted id rfl ?_ ?_ <;> intro _ <;>
        rw [set_changes_built, imageName_built] <;> exact same
  · next failure raised =>
      refine named.inserted id rfl ?_ ?_
      · intro filled
        rw [set_changes_built, imageName_built]
        rw [set_changes_built] at filled
        exact named.built id row held filled
      · intro available
        rw [set_changes_built] at available
        cases available
  · exact ⟨named.built, named.available⟩

theorem Workshop.Named.delete {expiredOnly : Bool} (named : workshop.Named registry) :
    (workshop.delete settings id row expiredOnly script).Named registry := by
  have erased (stores : Stores) :
      ({ workshop with rows := workshop.rows.erase id, stores } : Workshop).Named registry := by
    constructor <;> intro other rival present <;> simp only [Table.get_erase] at present <;>
      split at present
    · cases present
    · exact named.built other rival present
    · cases present
    · exact named.available other rival present
  unfold Workshop.delete
  split
  · exact named
  · split
    · exact named
    · dsimp only
      split
      · exact erased _
      · exact ⟨named.built, named.available⟩
      · exact ⟨named.built, named.available⟩

theorem Workshop.Named.next (named : workshop.Named registry)
    (stepped : next settings registry workshop operation = some after) : after.Named registry := by
  cases operation with
  | create row =>
      simp only [TemplateImages.next, Option.ite_none_right_eq_some, Option.some.injEq] at stepped
      obtain ⟨⟨_, _, building, unbuilt⟩, rfl⟩ := stepped
      exact named.inserted _ rfl (fun built => absurd unbuilt built)
        fun available => by rw [building] at available; cases available
  | restart id =>
      simp only [TemplateImages.next] at stepped
      split at stepped
      · next row held =>
          split at stepped
          · obtain rfl := Option.some.inj stepped
            exact named.inserted _ rfl (fun filled => named.built id row held filled) nofun
          · cases stepped
      · cases stepped
  | abandon id lastError =>
      simp only [TemplateImages.next] at stepped
      split at stepped
      · next row held =>
          split at stepped
          · obtain rfl := Option.some.inj stepped
            exact named.inserted _ rfl (fun filled => named.built id row held filled) nofun
          · cases stepped
      · cases stepped
  | build id script =>
      obtain ⟨row, held, rfl⟩ := Option.map_eq_some_iff.mp stepped
      exact named.build held
  | delete id expiredOnly script =>
      obtain ⟨row, held, rfl⟩ := Option.map_eq_some_iff.mp stepped
      exact named.delete
  | tick =>
      obtain rfl := Option.some.inj stepped
      exact ⟨named.built, named.available⟩

/-- An operation that is apart spares the images of the others. -/
theorem next_spares (named : workshop.Named registry)
    (apart : Apart settings registry workshop operation)
    (stepped : next settings registry workshop operation = some after) :
    SparesOthers workshop after operation := by
  cases operation with
  | create row =>
      simp only [next, Option.ite_none_right_eq_some, Option.some.injEq] at stepped
      obtain ⟨_, rfl⟩ := stepped
      exact fun _ _ _ _ _ _ there => there
  | restart id =>
      simp only [next] at stepped
      split at stepped
      · split at stepped
        · obtain rfl := Option.some.inj stepped
          exact fun _ _ _ _ _ _ there => there
        · cases stepped
      · cases stepped
  | abandon id lastError =>
      simp only [next] at stepped
      split at stepped
      · split at stepped
        · obtain rfl := Option.some.inj stepped
          exact fun _ _ _ _ _ _ there => there
        · cases stepped
      · cases stepped
  | build id script =>
      obtain ⟨row, held, rfl⟩ := Option.map_eq_some_iff.mp stepped
      exact build_spares named apart held
  | delete id expiredOnly script =>
      obtain ⟨row, held, rfl⟩ := Option.map_eq_some_iff.mp stepped
      exact delete_spares named apart held
  | tick =>
      obtain rfl := Option.some.inj stepped
      exact fun _ _ _ _ _ _ there => there

theorem delete_stores {expiredOnly : Bool} (idle : row.status ≠ .building)
    (expired : expiredOnly → row.reapable settings workshop.now) :
    (workshop.delete settings id row expiredOnly script).stores =
      ((removeImage row).play perform script workshop.stores).2 := by
  unfold Workshop.delete
  rw [if_neg (fun fresh => fresh.2 (expired fresh.1)), if_neg idle]
  dsimp only
  split <;> rfl

/-- An operation that is not apart removes the image of another row, when Docker and sbx answer
so. -/
theorem apart_of_spares (named : workshop.Named registry)
    (spares : ∀ script after,
      next settings registry workshop (operation.withScript script) = some after →
        SparesOthers workshop after operation) :
    Apart settings registry workshop operation := by
  intro id row target held removes other rival elsewhere present docker available there shared
  have image : rival.image = registry.imageName row :=
    (named.available other rival present available).trans shared
  cases operation with
  | create | restart | abandon | tick => cases removes
  | build built script =>
      obtain rfl := Option.some.inj target
      obtain ⟨script, removed⟩ :=
        buildImage_removes registry workshop.stores removes
      have kept := spares script _ (congrArg (Option.map _) held) other rival
        (fun own => elsewhere (Option.some.inj own).symm) present docker available there
      rw [build_stores, image] at kept
      exact removed kept
  | delete deleted expiredOnly script =>
      obtain rfl := Option.some.inj target
      obtain ⟨built, deletes, idle, expired⟩ := removes
      have same : rival.image = row.image := image.trans (named.built _ row held built).symm
      have kept := spares [.served] _ (congrArg (Option.map _) held) other rival
        (fun own => elsewhere (Option.some.inj own).symm) present docker available there
      rw [delete_stores idle expired, same] at kept
      exact removeImage_removes built deletes (same ▸ there) kept

/-- An operation on another row leaves an available row as it is. -/
theorem next_keeps_row (present : workshop.rows.get id = some row)
    (available : row.status = .available)
    (elsewhere : operation.target ≠ some id)
    (stepped : next settings registry workshop operation = some after) :
    after.rows.get id = some row := by
  have inserted {other : TemplateId} {written : Template} (distinct : other ≠ id) :
      (workshop.rows.insert other written).get id = some row := by
    rw [Table.get_insert, if_neg (Ne.symm distinct), present]
  cases operation with
  | create created =>
      simp only [next, Option.ite_none_right_eq_some, Option.some.injEq] at stepped
      obtain ⟨⟨free, _⟩, rfl⟩ := stepped
      refine inserted fun same => ?_
      rw [same, present] at free
      cases free
  | restart other =>
      simp only [next] at stepped
      split at stepped
      · next rival held =>
          split at stepped
          · next failed =>
              obtain rfl := Option.some.inj stepped
              refine inserted fun same => ?_
              subst same
              obtain rfl := Option.some.inj (held.symm.trans present)
              rw [available] at failed
              cases failed
          · cases stepped
      · cases stepped
  | abandon other lastError =>
      simp only [next] at stepped
      split at stepped
      · next rival held =>
          split at stepped
          · next abandonable =>
              obtain rfl := Option.some.inj stepped
              refine inserted fun same => ?_
              subst same
              obtain rfl := Option.some.inj (held.symm.trans present)
              simp [TemplateQuery.abandonable, available] at abandonable
          · cases stepped
      · cases stepped
  | build other script =>
      obtain ⟨rival, held, rfl⟩ := Option.map_eq_some_iff.mp stepped
      have distinct : other ≠ id := fun same => elsewhere (congrArg some same)
      unfold Workshop.build
      dsimp only
      split
      · exact inserted distinct
      · exact inserted distinct
      · exact present
  | delete other expiredOnly script =>
      obtain ⟨rival, held, rfl⟩ := Option.map_eq_some_iff.mp stepped
      have distinct : other ≠ id := fun same => elsewhere (congrArg some same)
      unfold Workshop.delete
      split
      · exact present
      · split
        · exact present
        · dsimp only
          split
          · rw [Table.get_erase, if_neg (Ne.symm distinct), present]
          · exact present
          · exact present
  | tick =>
      obtain rfl := Option.some.inj stepped
      exact present

end Steps

/-- The images of available `docker` rows are safe exactly where the operations are apart. -/
structure Isolated (settings : Settings) (registry : Registry) (workshop : Workshop) : Prop where
  /-- The next operation spares the images of the other rows, whatever Docker and sbx answer, if and
  only if it is apart. -/
  exactly : ∀ operation, Apart settings registry workshop operation ↔
    ∀ script after, next settings registry workshop (operation.withScript script) = some after →
      SparesOthers workshop after operation
  /-- A row and its image outlive every run of operations on other rows that are apart. -/
  lasting : ∀ id row, workshop.rows.get id = some row → row.provider = Provider.docker.name →
    row.status = .available → row.image ∈ workshop.stores.docker → ∀ later,
      (machine settings registry).Reaches (fun workshop operation =>
        Apart settings registry workshop operation ∧ operation.target ≠ some id) workshop later →
          later.rows.get id = some row ∧ row.image ∈ later.stores.docker

variable {settings registry}

theorem Workshop.Named.lasting {workshop later : Workshop} {id : TemplateId} {row : Template}
    (named : workshop.Named registry) (present : workshop.rows.get id = some row)
    (docker : row.provider = Provider.docker.name) (available : row.status = .available)
    (there : row.image ∈ workshop.stores.docker)
    (reach : (machine settings registry).Reaches (fun workshop operation =>
      Apart settings registry workshop operation ∧ operation.target ≠ some id) workshop later) :
    later.Named registry ∧ later.rows.get id = some row ∧ row.image ∈ later.stores.docker := by
  refine reach.keeps (fun workshop => workshop.Named registry ∧
    workshop.rows.get id = some row ∧ row.image ∈ workshop.stores.docker) ?_ ⟨named, present, there⟩
  rintro operation before after ⟨named, present, there⟩ ⟨apart, elsewhere⟩ stepped
  exact ⟨named.next stepped, next_keeps_row present available elsewhere stepped,
    next_spares named apart stepped id row elsewhere present docker available there⟩

/-- Template images are isolated exactly where the operations are apart, in every state that a
sequence of operations reaches. -/
theorem images_isolated {workshop later : Workshop} (named : workshop.Named registry)
    (reach : (machine settings registry).Reaches (fun _ _ => True) workshop later) :
    Isolated settings registry later := by
  have named : later.Named registry :=
    reach.keeps (Workshop.Named registry) (fun named _ stepped => named.next stepped) named
  refine ⟨fun operation => ⟨fun apart script after stepped => ?_, apart_of_spares named⟩,
    fun id row present docker available there later reach =>
      (named.lasting present docker available there reach).2⟩
  have same : Apart settings registry later (operation.withScript script) := by
    cases operation <;> exact apart
  have spares := next_spares named same stepped
  cases operation <;> exact spares

section Examples

/-- A registry without a template repository, with the digest of `ubuntuTools`. -/
def localRegistry : Registry where
  registryHost := ""
  templateRepository := ""
  sha256 _ := "feea29fb635c2c27c9af5c2528ec6ef9335d5f2edb911baec8e3d5c41ea609b5"

/-- A template of `docker`. -/
def ubuntuTools : Template where
  provider := "docker"
  baseImage := "ubuntu"
  baseImageRef :=
    "ubuntu@sha256:4fdf0125919d24aec972544669dcd7d6a26a8ad7e6561c73d5549bd6db258ac2"
  setupScriptHash := "73af118f5d38018ce78107b155cdf1ef54a4aac53c68a4374e10bf84b4c44d66"
  id := 1
  setupScript := "apt-get update"
  label := ""
  image := ""
  status := .building
  lastError := ""
  createdAt := 0
  updatedAt := 0

/-- The same template of `docker-sbx`. -/
def sbxTools : Template := { ubuntuTools with provider := "docker-sbx", id := 2 }

/-- Nothing is built yet. -/
def emptyWorkshop : Workshop := { now := 0, rows := .empty, stores := { docker := ∅, sbx := ∅ } }

/-- The `docker` template is built. -/
def builtWorkshop : Workshop where
  now := 0
  rows := (Table.empty.insert 1 ubuntuTools).insert 1
    { ubuntuTools with
      image := "drukbox-template:feea29fb635c"
      status := .available
      lastError := "" }
  stores := { docker := insert "drukbox-template:feea29fb635c" ∅, sbx := ∅ }

/-- The `docker-sbx` row is there too. -/
def bothWorkshop : Workshop := { builtWorkshop with rows := builtWorkshop.rows.insert 2 sbxTools }

/-- What `docker-sbx` leaves of them. -/
def sbxWorkshop : Workshop where
  now := 0
  rows := bothWorkshop.rows.insert 2
    { sbxTools with image := "drukbox-template:feea29fb635c", status := .available }
  stores :=
    { docker :=
        (insert "drukbox-template:feea29fb635c" builtWorkshop.stores.docker).erase
          "drukbox-template:feea29fb635c"
      sbx := insert "drukbox-template:feea29fb635c" ∅ }

theorem emptyWorkshop_named : emptyWorkshop.Named localRegistry := ⟨nofun, nofun⟩

theorem emptyWorkshop_reaches (events : List Operation) {later : Workshop}
    (executed : (machine Deployment.sample.settings localRegistry).run emptyWorkshop events =
      some later) :
    (machine Deployment.sample.settings localRegistry).Reaches (fun _ _ => True) emptyWorkshop
      later :=
  Machine.reaches_of_run events (fun _ _ _ => trivial) executed

/-- The built `docker` template is isolated. -/
theorem images_isolated_built :
    Isolated Deployment.sample.settings localRegistry builtWorkshop := by
  have executed : (machine Deployment.sample.settings localRegistry).run emptyWorkshop
      [.create ubuntuTools, .build 1 [.served]] = some builtWorkshop := rfl
  exact images_isolated emptyWorkshop_named (emptyWorkshop_reaches _ executed)

/-- A build of `docker-sbx` removes the Docker image of the `docker` template with the same base
image and setup script. -/
theorem build_removes_shared :
    ¬ ∀ settings registry workshop after operation,
      (machine settings registry).Reaches (fun _ _ => True) emptyWorkshop workshop →
        next settings registry workshop operation = some after →
          SparesOthers workshop after operation := by
  intro spares
  have executed : (machine Deployment.sample.settings localRegistry).run emptyWorkshop
      [.create ubuntuTools, .build 1 [.served], .create sbxTools] = some bothWorkshop := rfl
  have built : next Deployment.sample.settings localRegistry bothWorkshop
      (.build 2 (List.replicate 4 .served)) = some sbxWorkshop := rfl
  have there : "drukbox-template:feea29fb635c" ∈ bothWorkshop.stores.docker :=
    Finset.mem_insert_self _ _
  have kept := spares _ _ _ _ _ (emptyWorkshop_reaches _ executed) built 1 _ (by decide) rfl rfl rfl
    there
  exact Finset.notMem_erase _ _ kept

end Examples

end Drukbox.TemplateImages
