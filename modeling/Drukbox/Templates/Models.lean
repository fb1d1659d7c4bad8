import Drukbox.HostSecrets.Placeholder

/-!
# Template rows

A template is a provider image, keyed by provider, base image, base image reference and script hash.
-/

namespace Drukbox

/-- A template's UUID. -/
abbrev TemplateId := ℕ

inductive TemplateStatus
  | building
  | available
  | failed
  deriving DecidableEq, Repr

def TemplateStatus.value : TemplateStatus → String
  | building => "building"
  | available => "available"
  | failed => "failed"

/-- The columns of the unique index. -/
structure TemplateKey where
  provider : String
  baseImage : String
  baseImageRef : String
  setupScriptHash : String
  deriving DecidableEq, Repr

/-- A row of `templates`. -/
structure Template extends TemplateKey where
  id : TemplateId
  setupScript : String
  label : String
  image : String
  status : TemplateStatus
  lastError : String
  createdAt : ℤ
  updatedAt : ℤ
  lastUsedAt : Option ℤ := none
  deriving DecidableEq, Repr

/-- The columns that one `UPDATE templates` sets. -/
structure TemplateColumns where
  image : Option String := none
  status : Option TemplateStatus := none
  lastError : Option String := none
  updatedAt : Option ℤ := none

/-- No column is set. -/
def TemplateColumns.isEmpty (columns : TemplateColumns) : Bool :=
  columns.image.isNone && columns.status.isNone && columns.lastError.isNone &&
    columns.updatedAt.isNone

namespace Template

def set (template : Template) (columns : TemplateColumns) : Template :=
  { template with
    image := columns.image.getD template.image
    status := columns.status.getD template.status
    lastError := columns.lastError.getD template.lastError
    updatedAt := columns.updatedAt.getD template.updatedAt }

/-- The columns that the ORM writes for an object that was loaded as `loaded` and now reads
`assigned`: those whose value differs. -/
def changes (loaded assigned : Template) : TemplateColumns :=
  let changed {α : Type} [DecidableEq α] (before after : α) : Option α :=
    if before = after then none else some after
  { image := changed loaded.image assigned.image
    status := changed loaded.status assigned.status
    lastError := changed loaded.lastError assigned.lastError
    updatedAt := changed loaded.updatedAt assigned.updatedAt }

/-- The end of the last lease: `coalesce(last_used_at, created_at)`. -/
def lastActiveAt (template : Template) : ℤ :=
  template.lastUsedAt.getD template.createdAt

/-- `reapable`: failed past the retention window, or available and unused past the TTL. -/
def reapable (settings : Settings) (now : ℤ) (template : Template) : Bool :=
  match template.status with
  | .failed => template.updatedAt < now - seconds settings.templateFailedRetention
  | .available => template.lastActiveAt < now - seconds settings.templateUnusedTtl
  | .building => false

end Template

end Drukbox
