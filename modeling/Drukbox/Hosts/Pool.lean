import Drukbox.Hosts.Service

/-!
# The pool maintainer

`hosts.pool`: each tick counts the warm hosts, tops up the providers below their targets within a
budget, and sheds the oldest hosts of those above.
-/

namespace Drukbox

open Await

structure PoolMaintenanceSummary where
  created : ℕ := 0
  removedExcess : ℕ := 0
  targets : Dict ℕ := []
  deriving DecidableEq, Repr

namespace Pool

variable (deployment : Deployment)

def maxConsecutiveCreateFailures : ℕ := 3

/-- The warm hosts of a provider, in the counts by provider. -/
def current (counts : Dict ℕ) (provider : String) : ℕ :=
  (counts.lookup provider).getD 0

/-- The hosts that each provider has above its target. -/
def excessIds (targets counts : Dict ℕ) (now : ℤ) : List String → Task (List HostId)
  | [] => return []
  | provider :: rest =>
      let shed := current counts provider - current targets provider
      if shed = 0 then excessIds targets counts now rest
      else do
        let ids ← Task.hosts (.excess provider now shed)
        let later ← excessIds targets counts now rest
        return ids ++ later

/-- One round over the deficits, within the budget. -/
def topUpRound (budget : ℕ) : Dict ℕ → List String → Dict ℕ × List String
  | [], batch => ([], batch)
  | (provider, deficit) :: rest, batch =>
      if batch.length = budget then ((provider, deficit) :: rest, batch)
      else
        let (left, batch) := topUpRound budget rest (batch ++ [provider])
        (if deficit = 1 then left else (provider, deficit - 1) :: left, batch)

/-- The rounds of one tick.  Each but the last adds a provider, so the budget bounds their number.
-/
def topUpRounds (budget : ℕ) : ℕ → Dict ℕ → List String → List String
  | 0, _, batch => batch
  | rounds + 1, deficits, batch =>
      if deficits = [] ∨ budget ≤ batch.length then batch
      else
        let (left, batch) := topUpRound budget deficits batch
        topUpRounds budget rounds left batch

/-- The providers to top up, in the order of the creates. -/
def batch (targets counts : Dict ℕ) (budget : ℕ) (underfilled : List String) : List String :=
  topUpRounds budget budget
    (underfilled.map fun provider =>
      (provider, current targets provider - current counts provider)) []

/-- The providers below their targets. -/
def underfilled (targets counts : Dict ℕ) : List String :=
  (targets.filter fun item => current counts item.1 < item.2).map Prod.fst

/-- The creates of one tick. -/
def topUp : List String → ℕ → ℕ → Task ℕ
  | [], _, created => return created
  | provider :: rest, failures, created => do
      let outcome ← (HostService.inSession do
        let now ← Task.clock
        HostService.createHost deployment
          { provider := some provider
            expiresAt := some (now + hours deployment.settings.poolHostMaxAgeHours) } true).attempt
      match outcome with
      | .ok _ => topUp rest 0 (created + 1)
      | .error _ =>
          if maxConsecutiveCreateFailures ≤ failures + 1 then return created
          else topUp rest (failures + 1) created

/-- The deletes of one tick. -/
def shedEach : List HostId → ℕ → Task ℕ
  | [], removed => return removed
  | id :: rest, removed => do
      let outcome ←
        (HostService.inSession (HostService.deleteHost deployment id { poolShed := true })).attempt
      match outcome with
      | .ok true => shedEach rest (removed + 1)
      | _ => shedEach rest removed

/-- The count and the selection of the excess, in a session of their own. -/
def survey (targets : Dict ℕ) (now : ℤ) : Task (Dict ℕ × List HostId) :=
  HostService.inSession do
    let counts ← Task.hosts (.warm now)
    let providers := ((counts ++ targets).map Prod.fst).dedup.mergeSort (· ≤ ·)
    let ids ← excessIds targets counts now providers
    return (counts, ids)

def maintain (targets : Dict ℕ) : Task PoolMaintenanceSummary := do
  let now ← Task.clock
  let (counts, ids) ← survey targets now
  let shuffled ← Task.outside (.shuffle (underfilled targets counts))
  let created ← topUp deployment
    (batch targets counts deployment.settings.poolMaxCreatesPerTick shuffled) 0 0
  let removedExcess ← shedEach deployment ids 0
  return { created, removedExcess, targets }

def maintainPool : Task PoolMaintenanceSummary :=
  let targets := deployment.settings.getPoolTargets
  if targets = [] then return {}
  else maintain deployment targets

end Pool

end Drukbox
