import Drukbox.Core

/-!
# VM providers

What the services read of a provider: its limits, its capabilities, and the end that it puts to
every lease.
-/

namespace Drukbox

/-- `providers.base.VMProvider`, as far as the services read it. -/
structure VMProvider where
  name : String
  defaultImage : String
  supportsInstanceType : Bool
  supportsDiskGb : Bool
  /-- The hosts join the tailnet at boot. -/
  tailnet : Bool
  /-- `gateway_process_class` is set. -/
  gateway : Bool
  /-- It has the `TemplateCapability`. -/
  buildsTemplates : Bool
  /-- `secrets.needs_value`. -/
  needsValue : Bool
  /-- The provider stops every VM this long after its create. -/
  maxLifetime : Option ℤ
  deriving DecidableEq, Repr

namespace VMProvider

/-- `max_lifetime`, where Python reads a zero as false. -/
def lifetime (vm : VMProvider) : Option ℤ :=
  vm.maxLifetime.filter (· != 0)

def leaseEnd (vm : VMProvider) (createdAt : ℤ) (expiresAt : Option ℤ) : Option ℤ :=
  match vm.lifetime with
  | none => expiresAt
  | some lifetime =>
      let stop := createdAt + lifetime
      match expiresAt with
      | some expiresAt => some (min expiresAt stop)
      | none => some stop

end VMProvider

structure VMCreateResult where
  name : String
  sshUsername : String
  sshHost : String
  sshPort : ℕ
  privateKey : Option String
  publicKey : Option String
  deriving DecidableEq, Repr

end Drukbox
