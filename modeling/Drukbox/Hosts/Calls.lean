import Drukbox.Hosts.Pool

/-!
# The tasks of the host service

Requests, renewals, deletes, and the runs of the janitor and of the pool maintainer.
-/

namespace Drukbox

open Await

/-- A task of the host service. -/
inductive HostCall
  | getOrCreate (request : HostRequest)
  /-- A create of its own, as the pool maintainer's top-ups are. -/
  | create (request : HostRequest) (poolMember : Bool)
  | renew (id : HostId) (expiresAt : Option ℤ)
  | delete (id : HostId) (flags : HostService.DeleteFlags)
  | reap
  /-- A tick of the pool maintainer. -/
  | maintain

/-- What a task returns. -/
inductive Reply
  | host (host : Host)
  | deleted (deleted : Bool)
  | reaped (ids : List ℕ)
  | maintained (summary : PoolMaintenanceSummary)
  | template (template : Template)
  | done
  deriving DecidableEq

open HostService in
/-- The program of a call, in a session of its own. -/
def HostCall.program (deployment : Deployment) : HostCall → Task Reply
  | getOrCreate request => .host <$> inSession (getOrCreateHost deployment request)
  | create request poolMember => .host <$> inSession (createHost deployment request poolMember)
  | renew id expiresAt => .host <$> inSession (renewHost deployment id expiresAt)
  | delete id flags => .deleted <$> inSession (deleteHost deployment id flags)
  | reap => .reaped <$> reapExpiredHosts deployment
  | maintain => .maintained <$> Pool.maintainPool deployment

end Drukbox
