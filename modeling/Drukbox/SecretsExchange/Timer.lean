import Drukbox.Hosts.Models
import Drukbox.SecretsExchange.Calls

/-!
# The timer of the exchange

`push_on_expiry` goes from round to round: it reads the hosts, forgets the ones that are gone, and
pushes to the active ones side by side, the entries of one host in their order.  Requests run beside
it on the same entries.  A step is again a section between two `await`s, and `lifespan` ends the
timer before its client closes.
-/

namespace Drukbox.SecretsExchange

open Await

/-- Who makes a call on an entry. -/
inductive Caller
  /-- The timer, in its round of this number. -/
  | timer (round : ℕ)
  | request (number : ℕ)
  deriving DecidableEq, Repr

/-- What `push_to_host` logs as an error. -/
inductive Trouble
  /-- An entry cannot be decrypted. -/
  | unreadable
  /-- `get_vm_provider` raised. -/
  | unknownProvider
  /-- The push of this service raised. -/
  | raised (service : String)
  deriving DecidableEq, Repr

/-- How far `push_to_host` has come. -/
inductive Push
  /-- Its task has not run yet. -/
  | created
  /-- It awaits the push of a service, with these entries behind it. -/
  | awaiting (service : String) (rest : Dict SecretEntry)
  | done
  | failed (trouble : Trouble)
  deriving DecidableEq, Repr

/-- `push_to_host` has returned. -/
def Push.returned : Push → Bool
  | .created | .awaiting _ _ => false
  | .done | .failed _ => true

/-- How far `push_on_expiry` has come. -/
inductive Stage
  /-- Its task has not run yet. -/
  | created
  /-- It awaits the rows of the hosts. -/
  | reading
  /-- It awaits `gather`. -/
  | gathering
  /-- It awaits the next tick, or the order to stop. -/
  | waiting
  | ended
  deriving DecidableEq, Repr

/-- The exchange, with its timer. -/
structure Exchange where
  /-- The entries, by host and service. -/
  entries : HostId → String → Secrets Caller := fun _ _ => {}
  stage : Stage := .created
  /-- The number of rounds so far. -/
  round : ℕ := 0
  /-- The rows that the round has read. -/
  hosts : List Host := []
  /-- The entries that can be decrypted there. -/
  opens : HostId → String → Bool := fun _ _ => true
  pushes : HostId → Push := fun _ => .done
  /-- `stop` is set. -/
  stop : Bool := false
  /-- The client is closed. -/
  closed : Bool := false

namespace Exchange

/-- The call of the round on an entry. -/
def call (exchange : Exchange) (host : HostId) (service : String) : Option Call :=
  (exchange.entries host service).calls (.timer exchange.round)

def setEntry (exchange : Exchange) (host : HostId) (service : String) (secrets : Secrets Caller) :
    Exchange :=
  { exchange with
    entries :=
      Function.update exchange.entries host
        (Function.update (exchange.entries host) service secrets) }

/-- `push_to_host` when a push of it has run: it goes on, it logs an exception, or it waits. -/
def settle (exchange : Exchange) (host : HostId) (service : String) (rest : Dict SecretEntry)
    (next : Exchange → Exchange × Push) : Exchange × Push :=
  match exchange.call host service with
  | some (.ended .pushed) => next exchange
  | some (.ended _) => (exchange, .failed (.raised service))
  | _ => (exchange, .awaiting service rest)

/-- The loop of `push_to_host`, where `vm` says whether the provider of a host needs the value. -/
def pushEntries (vm : HostId → Option Bool) (clock : String → ℕ → ℤ) (host : HostId) :
    Dict SecretEntry → Exchange → Exchange × Push
  | [], exchange => (exchange, .done)
  | (service, entry) :: rest, exchange =>
      if exchange.opens host service = false then (exchange, .failed .unreadable)
      else if entry.issuer = none then pushEntries vm clock host rest exchange
      else
        match vm host with
        | none => (exchange, .failed .unknownProvider)
        | some needsValue =>
            let secrets :=
              (exchange.entries host service).begin needsValue (.timer exchange.round)
                (clock service) .push
            (exchange.setEntry host service secrets).settle host service rest
              (pushEntries vm clock host rest)

/-- Write how far `push_to_host` has come. -/
def record (result : Exchange × Push) (host : HostId) : Exchange :=
  { result.1 with pushes := Function.update result.1.pushes host result.2 }

/-- `push_active_hosts` behind its rows: `forget_deleted_hosts`, and a task for each active host. -/
def gather (exchange : Exchange) (hosts : List Host) (opens : HostId → String → Bool) : Exchange :=
  { exchange with
    entries := fun host service =>
      if hosts.any fun row => row.id == host then exchange.entries host service
      else { exchange.entries host service with cached := none }
    stage := .gathering
    hosts
    opens
    pushes := fun host =>
      if hosts.any fun row => row.id == host && row.status == .active then .created else .done }

/-- The loop condition of `push_on_expiry`, and a round up to its rows. -/
def turn (exchange : Exchange) : Exchange :=
  if exchange.stop then { exchange with stage := .ended }
  else { exchange with stage := .reading, round := exchange.round + 1, hosts := [] }

end Exchange

/-- A section of a request, or of a background task of one. -/
def Event.requested : Event Caller → Bool
  | begin (.request _) _ _ | answer (.request _) _ _ | deliver (.request _) _ _ | wake _ _
  | answerBackground _ _ _ | callback _ => true
  | begin (.timer _) _ _ | answer (.timer _) _ _ | deliver (.timer _) _ _ | forget => false

/-- A section that begins with `get_vm_provider`. -/
def Event.asksProvider {ι : Type} : Event ι → Bool
  | begin _ .push _ | begin _ .refresh _ => true
  | begin _ .current _ | answer _ _ _ | deliver _ _ _ | wake _ _ | answerBackground _ _ _
  | callback _ | forget => false

namespace Exchange

/-- What the event loop may run next. -/
inductive Event
  /-- The timer begins, or it has waited for a tick or for `stop`. -/
  | wake
  /-- The rows, and which of their entries can be decrypted. -/
  | read (hosts : List Host) (opens : HostId → String → Bool)
  /-- The rows cannot be read: by `SQLAlchemyError`, or by another exception. -/
  | unread (sqlalchemy : Bool)
  /-- The task of a host begins. -/
  | start (host : Host) (clock : String → ℕ → ℤ)
  /-- The push that a host awaits has an answer. -/
  | resume (host : HostId) (event : SecretsExchange.Event Caller) (clock : String → ℕ → ℤ)
  /-- `gather` has returned. -/
  | gathered
  | request (host : HostId) (service : String) (event : SecretsExchange.Event Caller)
  /-- `lifespan` orders the timer to stop. -/
  | stop
  /-- `lifespan` closes the client, behind the timer. -/
  | close

def next (vm : HostId → Option Bool) (exchange : Exchange) : Event → Option Exchange
  | .wake =>
      match exchange.stage with
      | .created | .waiting => some exchange.turn
      | .reading | .gathering | .ended => none
  | .read hosts opens =>
      match exchange.stage with
      | .reading =>
          -- The key of the table, and the keys of a `dict`.
          if (hosts.map Host.id).Nodup ∧ ∀ host ∈ hosts, (host.secrets.map Prod.fst).Nodup then
            some (exchange.gather hosts opens)
          else none
      | .created | .gathering | .waiting | .ended => none
  | .unread sqlalchemy =>
      match exchange.stage with
      | .reading => some { exchange with stage := if sqlalchemy then .waiting else .ended }
      | .created | .gathering | .waiting | .ended => none
  | .start host clock =>
      if host ∈ exchange.hosts ∧ exchange.pushes host.id = .created then
        some (record (exchange.pushEntries vm clock host.id host.secrets) host.id)
      else none
  | .resume host event clock =>
      match exchange.pushes host, vm host with
      | .awaiting service rest, some needsValue =>
          if event.caller = some (.timer exchange.round) then
            ((exchange.entries host service).next needsValue event).map fun secrets =>
              record
                ((exchange.setEntry host service secrets).settle host service rest
                  (pushEntries vm clock host rest)) host
          else none
      | _, _ => none
  | .gathered =>
      match exchange.stage with
      | .gathering =>
          if ∀ host ∈ exchange.hosts, (exchange.pushes host.id).returned then
            some { exchange with stage := .waiting }
          else none
      | .created | .reading | .waiting | .ended => none
  | .request host service event =>
      if event.requested ∧ (event.asksProvider → (vm host).isSome) then
        ((exchange.entries host service).next ((vm host).getD false) event).map
          (exchange.setEntry host service)
      else none
  | .stop => some { exchange with stop := true }
  | .close =>
      if exchange.stop ∧ exchange.stage = .ended ∧ exchange.closed = false then
        some { exchange with closed := true }
      else none

def machine (vm : HostId → Option Bool) : Machine Exchange Event where
  next := next vm

end Exchange

namespace Exchange

variable {vm : HostId → Option Bool} {exchange before after : Exchange} {host : Host}

/-- The entries that have an issuer were pushed in this round. -/
def Pushed (exchange : Exchange) (host : HostId) (entries : Dict SecretEntry) : Prop :=
  ∀ item ∈ entries, item.2.issuer.isSome → exchange.call host item.1 = some (.ended .pushed)

/-- The round has not come to these entries. -/
def Unvisited (exchange : Exchange) (host : HostId) (entries : Dict SecretEntry) : Prop :=
  ∀ item ∈ entries, exchange.call host item.1 = none

/-- Why the round went no further than this entry. -/
def Stopped (vm : HostId → Option Bool) (exchange : Exchange) (host : HostId) (service : String)
    (entry : SecretEntry) : Trouble → Prop
  | .unreadable => exchange.call host service = none ∧ exchange.opens host service = false
  | .unknownProvider =>
      exchange.call host service = none ∧ entry.issuer.isSome ∧ vm host = none
  | .raised name =>
      name = service ∧ entry.issuer.isSome ∧ exchange.call host service = some (.ended .raised)

/-- What the round has done for a host when `push_to_host` has come this far. -/
def Stands (vm : HostId → Option Bool) (exchange : Exchange) (host : Host) : Push → Prop
  | .created => ∀ service, exchange.call host.id service = none
  | .awaiting service rest => ∃ earlier entry, host.secrets = earlier ++ (service, entry) :: rest ∧
      entry.issuer.isSome ∧ exchange.Pushed host.id earlier ∧ exchange.Unvisited host.id rest ∧
        (vm host.id).isSome ∧
        ∃ call, exchange.call host.id service = some call ∧ call.ofTimer = true ∧ 0 < call.left
  | .done => exchange.Pushed host.id host.secrets
  | .failed trouble => ∃ earlier service entry rest,
      host.secrets = earlier ++ (service, entry) :: rest ∧ exchange.Pushed host.id earlier ∧
        exchange.Unvisited host.id rest ∧ exchange.Stopped vm host.id service entry trouble

/-- The sections that `push_to_host` may still need. -/
def load (exchange : Exchange) (host : Host) : Push → ℕ
  | .created => 3 * host.secrets.length + 1
  | .awaiting service rest => (exchange.call host.id service).elim 0 Call.left + 3 * rest.length
  | .done | .failed _ => 0

/-- A section that does nothing but for the pushes of a host in this round. -/
structure Beside (host : HostId) (before after : Exchange) : Prop where
  rest : after = { before with entries := after.entries }
  others : ∀ other, other ≠ host → after.entries other = before.entries other
  rounds : ∀ service round, round ≠ before.round →
    (after.entries host service).calls (.timer round) =
      (before.entries host service).calls (.timer round)

/-- `push_to_host` has gone as far as it can. -/
structure Goes (vm : HostId → Option Bool) (host : Host) (before : Exchange) (bound : ℕ)
    (result : Exchange × Push) : Prop where
  stands : Stands vm result.1 host result.2
  beside : Beside host.id before result.1
  quiet : ∀ {service call}, result.1.call host.id service = some call → 0 < call.left →
    ∃ rest, result.2 = .awaiting service rest
  load : result.1.load host result.2 ≤ bound
  begun : result.2 ≠ .created

section Frames

theorem Stands.congr {push : Push} (stands : before.Stands vm host push)
    (same : ∀ service, after.call host.id service = before.call host.id service)
    (opens : after.opens = before.opens) : after.Stands vm host push := by
  have calls : after.call host.id = before.call host.id := funext same
  cases push with
  | created => simpa only [Stands, calls] using stands
  | awaiting service rest => simpa only [Stands, Pushed, Unvisited, calls] using stands
  | done => simpa only [Stands, Pushed, calls] using stands
  | failed trouble =>
      cases trouble with
      | unreadable | unknownProvider | raised =>
          simpa only [Stands, Pushed, Unvisited, Stopped, calls, opens] using stands

theorem load_congr (push : Push)
    (same : ∀ service, after.call host.id service = before.call host.id service) :
    after.load host push = before.load host push := by
  cases push with
  | awaiting service rest => rw [load, load, same]
  | created | done | failed => rfl

namespace Beside

variable {id other : HostId}

theorem refl (exchange : Exchange) : Beside id exchange exchange :=
  ⟨rfl, fun _ _ => rfl, fun _ _ _ => rfl⟩

theorem round (beside : Beside id before after) : after.round = before.round := by
  rw [beside.rest]

theorem opens (beside : Beside id before after) : after.opens = before.opens := by
  rw [beside.rest]

theorem trans {middle : Exchange} (first : Beside id before middle)
    (second : Beside id middle after) : Beside id before after where
  rest := by
    have last := second.rest
    rw [first.rest] at last
    exact last
  others other different := (second.others other different).trans (first.others other different)
  rounds service round past := by
    rw [second.rounds service round (by rwa [first.round]), first.rounds service round past]

theorem call (beside : Beside id before after) (different : other ≠ id) (service : String) :
    after.call other service = before.call other service := by
  rw [Exchange.call, Exchange.call, beside.others other different, beside.round]

end Beside

theorem entries_setEntry (exchange : Exchange) (id : HostId) (service : String)
    (secrets : Secrets Caller) :
    (exchange.setEntry id service secrets).entries id service = secrets := by
  simp [setEntry]

theorem entries_setEntry_of_ne (exchange : Exchange) {id : HostId} {service name : String}
    (secrets : Secrets Caller) (different : name ≠ service) :
    (exchange.setEntry id service secrets).entries id name = exchange.entries id name := by
  simp [setEntry, different]

theorem beside_setEntry {id : HostId} {service : String} {secrets : Secrets Caller}
    (rounds : ∀ round, round ≠ exchange.round →
      secrets.calls (.timer round) = (exchange.entries id service).calls (.timer round)) :
    Beside id exchange (exchange.setEntry id service secrets) where
  rest := rfl
  others _ different := Function.update_of_ne different _ _
  rounds name round past := by
    by_cases same : name = service
    · subst same
      rw [entries_setEntry, rounds round past]
    · rw [entries_setEntry_of_ne exchange secrets same]

theorem pushes_record_self (result : Exchange × Push) (id : HostId) :
    (record result id).pushes id = result.2 :=
  Function.update_self _ _ _

namespace Goes

variable {bound : ℕ} {result : Exchange × Push}

theorem frame (goes : Goes vm host before bound result) :
    record result host.id =
      { before with
        entries := result.1.entries
        pushes := Function.update before.pushes host.id result.2 } := by
  rw [record, goes.beside.rest]

theorem pushes_of_ne (goes : Goes vm host before bound result) {other : HostId}
    (different : other ≠ host.id) : (record result host.id).pushes other = before.pushes other := by
  rw [goes.frame]
  exact Function.update_of_ne different _ _

end Goes

end Frames

section Loop

variable {clock : String → ℕ → ℤ} {earlier rest : Dict SecretEntry} {service : String}
  {entry : SecretEntry}

theorem Pushed.snoc (pushed : exchange.Pushed host.id earlier)
    (last : entry.issuer.isSome → exchange.call host.id service = some (.ended .pushed)) :
    exchange.Pushed host.id (earlier ++ [(service, entry)]) := by
  intro item member
  rcases List.mem_append.mp member with old | new
  · exact pushed item old
  · obtain rfl := List.mem_singleton.mp new
    exact last

/-- `push_to_host` behind a section of a push. -/
theorem settle_goes (split : host.secrets = earlier ++ (service, entry) :: rest)
    (issued : entry.issuer.isSome) (pushed : exchange.Pushed host.id earlier)
    (unvisited : exchange.Unvisited host.id rest)
    (known : (vm host.id).isSome) {call : Call}
    (called : exchange.call host.id service = some call) (mine : call.ofTimer = true)
    (quiet : ∀ {name other}, exchange.call host.id name = some other → 0 < other.left →
      name = service)
    {next : Exchange → Exchange × Push}
    (goes : call.left = 0 → exchange.Pushed host.id (earlier ++ [(service, entry)]) →
      Goes vm host exchange (3 * rest.length) (next exchange)) :
    Goes vm host exchange (call.left + 3 * rest.length)
      (exchange.settle host.id service rest next) := by
  have waits (flying : 0 < call.left) :
      Goes vm host exchange (call.left + 3 * rest.length) (exchange, .awaiting service rest) := by
    constructor
    · exact ⟨earlier, entry, split, issued, pushed, unvisited, known, call, called, mine, flying⟩
    · exact .refl exchange
    · intro name other found left
      obtain rfl := quiet found left
      exact ⟨rest, rfl⟩
    · simp [load, called]
    · simp
  rw [settle, called]
  cases call with
  | fetching object fetch purpose => exact waits Nat.zero_lt_two
  | delivering object secret order => exact waits Nat.zero_lt_one
  | ended result =>
      cases result with
      | pushed =>
          have gone := goes rfl (pushed.snoc fun _ => called)
          exact { gone with load := by simpa [Call.left] using gone.load }
      | raised =>
          constructor
          · exact ⟨earlier, service, entry, rest, split, pushed, unvisited, rfl, issued, called⟩
          · exact .refl exchange
          · intro name other found left
            obtain rfl := quiet found left
            rw [called] at found
            obtain rfl := Option.some.inj found
            contradiction
          · exact Nat.zero_le _
          · simp
      | served | refreshed | unavailable => contradiction

theorem apart_of_split (unique : (host.secrets.map Prod.fst).Nodup)
    (split : host.secrets = earlier ++ (service, entry) :: rest) :
    (∀ item ∈ earlier, item.1 ≠ service) ∧ ∀ item ∈ rest, item.1 ≠ service := by
  rw [split, List.map_append, List.map_cons, List.nodup_append] at unique
  obtain ⟨-, behind, apart⟩ := unique
  obtain ⟨fresh, -⟩ := List.nodup_cons.mp behind
  constructor
  · intro item member
    exact apart item.1 (List.mem_map_of_mem member) service List.mem_cons_self
  · intro item member same
    apply fresh
    exact List.mem_map.mpr ⟨item, member, same⟩

/-- A section of a push of the round, and how `push_to_host` goes on behind it. -/
theorem section_goes (unique : (host.secrets.map Prod.fst).Nodup)
    (split : host.secrets = earlier ++ (service, entry) :: rest) (issued : entry.issuer.isSome)
    (pushed : exchange.Pushed host.id earlier) (unvisited : exchange.Unvisited host.id rest)
    (known : (vm host.id).isSome) {secrets : Secrets Caller} {call : Call}
    (called : secrets.calls (.timer exchange.round) = some call) (mine : call.ofTimer = true)
    (rounds : ∀ round, round ≠ exchange.round →
      secrets.calls (.timer round) = (exchange.entries host.id service).calls (.timer round))
    (quiet : ∀ {name other}, name ≠ service → exchange.call host.id name = some other →
      other.left = 0)
    {next : Exchange → Exchange × Push}
    (goes : ∀ {later : Exchange}, later.Pushed host.id (earlier ++ [(service, entry)]) →
      later.Unvisited host.id rest →
        (∀ {name other}, later.call host.id name = some other → other.left = 0) →
          Goes vm host later (3 * rest.length) (next later)) :
    Goes vm host exchange (call.left + 3 * rest.length)
      ((exchange.setEntry host.id service secrets).settle host.id service rest next) := by
  obtain ⟨apart_earlier, apart_rest⟩ := apart_of_split unique split
  have here : (exchange.setEntry host.id service secrets).call host.id service = some call := by
    rw [Exchange.call, entries_setEntry]
    exact called
  have elsewhere {name : String} (different : name ≠ service) :
      (exchange.setEntry host.id service secrets).call host.id name =
        exchange.call host.id name := by
    rw [Exchange.call, entries_setEntry_of_ne exchange secrets different]
    rfl
  have pushed_too : (exchange.setEntry host.id service secrets).Pushed host.id earlier := by
    intro item member issued
    rw [elsewhere (apart_earlier item member)]
    exact pushed item member issued
  have unvisited_too : (exchange.setEntry host.id service secrets).Unvisited host.id rest := by
    intro item member
    rw [elsewhere (apart_rest item member)]
    exact unvisited item member
  have gone := settle_goes split issued pushed_too unvisited_too known here mine
    (fun {name other} found left => by
      by_contra different
      rw [elsewhere different] at found
      have ended := quiet different found
      omega)
    (fun ended more => goes more unvisited_too fun {name other} found => by
      by_cases same : name = service
      · subst same
        rw [here] at found
        obtain rfl := Option.some.inj found
        exact ended
      · rw [elsewhere same] at found
        exact quiet same found)
  exact { gone with beside := (beside_setEntry rounds).trans gone.beside }

/-- The loop of `push_to_host`, from any entry on. -/
theorem pushEntries_goes (unique : (host.secrets.map Prod.fst).Nodup) (entries : Dict SecretEntry)
    (split : host.secrets = earlier ++ entries) (pushed : exchange.Pushed host.id earlier)
    (unvisited : exchange.Unvisited host.id entries)
    (quiet : ∀ {service call}, exchange.call host.id service = some call → call.left = 0) :
    Goes vm host exchange (3 * entries.length)
      (exchange.pushEntries vm clock host.id entries) := by
  have still {name : String} {other : Call} (found : exchange.call host.id name = some other)
      (left : 0 < other.left) : False := by
    have ended := quiet found
    omega
  induction entries generalizing exchange earlier with
  | nil =>
      constructor
      · rw [List.append_nil] at split
        rw [← split] at pushed
        exact pushed
      · exact .refl exchange
      · exact fun found left => (still found left).elim
      · exact Nat.zero_le _
      · simp [pushEntries]
  | cons item rest ih =>
  obtain ⟨service, entry⟩ := item
  have stops (trouble : Trouble) (stopped : exchange.Stopped vm host.id service entry trouble) :
      Goes vm host exchange (3 * ((service, entry) :: rest).length)
        (exchange, .failed trouble) := by
    constructor
    · exact ⟨earlier, service, entry, rest, split, pushed,
        fun item member => unvisited item (List.mem_cons_of_mem _ member), stopped⟩
    · exact .refl exchange
    · exact fun found left => (still found left).elim
    · exact Nat.zero_le _
    · simp
  have here : exchange.call host.id service = none := unvisited _ List.mem_cons_self
  have further : host.secrets = (earlier ++ [(service, entry)]) ++ rest := by
    rw [split, List.append_assoc, List.singleton_append]
  rw [pushEntries]
  split
  · next closed => exact stops .unreadable ⟨here, closed⟩
  · split
    · next unissued =>
        have gone := ih further (pushed.snoc fun issued => by simp [unissued] at issued)
          (fun item member => unvisited item (List.mem_cons_of_mem _ member)) quiet still
        have longer : 3 * rest.length ≤ 3 * ((service, entry) :: rest).length := by
          rw [List.length_cons]
          omega
        exact { gone with load := Nat.le_trans gone.load longer }
    · next present =>
      have issued : entry.issuer.isSome := Option.isSome_iff_ne_none.mpr present
      split
      · next unknown => exact stops .unknownProvider ⟨here, issued, unknown⟩
      · next needsValue known =>
          obtain ⟨call, called, mine, short⟩ := Secrets.begin_ofTimer needsValue
            (exchange.entries host.id service) (.timer exchange.round) (clock service)
          have gone := section_goes unique split issued pushed
            (fun item member => unvisited item (List.mem_cons_of_mem _ member))
            (Option.isSome_of_eq_some known) called mine
            (fun round past =>
              Secrets.calls_begin_of_ne _ _ fun same => past (Caller.timer.inj same))
            (fun _ found => quiet found)
            (fun more unvisited quiet => ih further more unvisited quiet fun found left => by
              have ended := quiet found
              omega)
          have longer : call.left + 3 * rest.length ≤ 3 * ((service, entry) :: rest).length := by
            rw [List.length_cons]
            omega
          exact { gone with load := Nat.le_trans gone.load longer }

end Loop

end Exchange

end Drukbox.SecretsExchange
