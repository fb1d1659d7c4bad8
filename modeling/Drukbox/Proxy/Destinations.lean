import Drukbox.Networking.Address
import Drukbox.Proxy.Swap
import Drukbox.Proxy.UpstreamList

/-!
# The destinations of the proxy

`Swap.server_connect` resolves the name of every connection itself, checks all of its addresses and
pins the connection to one of them.  So an answer that a resolver gives later changes nothing, and
no connection goes to an internal address, or anywhere before the exchange has answered. -/

namespace Drukbox.Proxy.Destinations

open Await IpAddress Upstreams

def isReachable (addresses : List Address) : Bool :=
  !addresses.isEmpty && addresses.all fun address => address.isGlobal && !address.isMulticast

/-- The order of the keys `(address.version, address.packed)`. -/
def before : Address → Address → Bool
  | .v4 first, .v4 second => first < second
  | .v4 _, .v6 _ => true
  | .v6 _, .v4 _ => false
  | .v6 first, .v6 second => first < second

/-- `min` of the addresses by that key. -/
def chosen : List Address → Option Address
  | [] => none
  | address :: rest =>
      match chosen rest with
      | none => some address
      | some found => if before found address then some found else some address

structure Server where
  host : String
  port : ℕ
  /-- The name that mitmproxy begins it with. -/
  offered : Option String
  sni : Option String := offered
  /-- The address of the connection, once it is pinned. -/
  address : Option Address := none
  error : Option String := none
  /-- What the resolver answered. -/
  resolved : List Address := []
  deriving DecidableEq

/-- What the standard library makes of hosts and addresses. -/
structure Texts where
  /-- `ipaddress.ip_address` reads the host. -/
  isAddress : String → Bool
  /-- `str`. -/
  text : Address → String

namespace Server

/-- `Swap.server_connect` after `resolve`. -/
def pin (texts : Texts) (server : Server) (addresses : List Address) : Server :=
  if isReachable addresses then
    { server with
      resolved := addresses
      address := chosen addresses
      sni :=
        if texts.isAddress server.host then server.sni
        else some ((given server.sni).getD server.host) }
  else
    { server with resolved := addresses, error := some "destination refused" }

/-- What the connection is for. -/
def name (server : Server) : String :=
  (given server.offered).getD server.host

/-- The host that `tls_clienthello` looks for. -/
def helloHost (texts : Texts) (server : Server) : String :=
  (given server.sni).getD ((server.address.map texts.text).getD server.host)

end Server

/-- The addon with its calls `ι`. -/
structure Addon (ι : Type) where
  swap : Swap ι := {}
  /-- The connections of the calls of `server_connect`. -/
  servers : ι → Option Server := fun _ => none
  /-- The connections of the calls of `tls_clienthello`. -/
  hellos : ι → Option ι := fun _ => none

inductive Event (ι : Type)
  /-- mitmproxy begins a connection. -/
  | dial (task : ι) (host : String) (port : ℕ) (offered : Option String)
  /-- A call of `server_connect` begins. -/
  | connect (task : ι) (now : ℤ)
  /-- A call of `tls_clienthello` begins, for a connection. -/
  | hello (task connection : ι) (now : ℤ)
  /-- The exchange answers. -/
  | reply (task : ι) (reply : Reply) (now : ℤ)
  /-- The resolver answers. -/
  | resolved (task : ι) (addresses : List Address)

namespace Addon

variable {ι : Type} [DecidableEq ι]

def setServer (addon : Addon ι) (task : ι) (server : Server) : Addon ι :=
  { addon with servers := Function.update addon.servers task (some server) }

/-- A call where `upstreams` has returned to it. -/
def follow (addon : Addon ι) (task : ι) (method : Method) : Addon ι :=
  match method, addon.swap.calls task with
  | .serverConnect, some (.ended (.refused error)) =>
      match addon.servers task with
      | some server => addon.setServer task { server with error := some error }
      | none => addon
  | .tlsClienthello host, some (.ended (.intercepted true)) =>
      match addon.hellos task with
      | some connection =>
          match addon.servers connection with
          | some server => addon.setServer connection { server with sni := some host }
          | none => addon
      | none => addon
  | _, _ => addon

def next (texts : Texts) (addon : Addon ι) : Event ι → Option (Addon ι)
  | .dial task host port offered =>
      if addon.servers task = none ∧ host ≠ "" then
        some (addon.setServer task { host, port, offered })
      else none
  | .connect task now =>
      match addon.servers task with
      | some _ =>
          if addon.swap.calls task = none then
            some ({ addon with swap := addon.swap.begin task .serverConnect now }.follow task
              .serverConnect)
          else none
      | none => none
  | .hello task connection now =>
      match addon.servers connection with
      | some server =>
          if addon.swap.calls task = none ∧ addon.servers task = none then
            let method := .tlsClienthello (server.helloHost texts)
            some ({ addon with
              swap := addon.swap.begin task method now
              hellos := Function.update addon.hellos task (some connection) }.follow task method)
          else none
      | none => none
  | .reply task reply now =>
      match addon.swap.calls task with
      | some (.requesting _ method) =>
          some ({ addon with
            swap := addon.swap.answered task method reply.answer now }.follow task method)
      | _ => none
  | .resolved task addresses =>
      match addon.swap.calls task, addon.servers task with
      | some (.ended .resolving), some server =>
          if server.address = none ∧ server.error = none then
            some (addon.setServer task (server.pin texts addresses))
          else none
      | _, _ => none

def machine (texts : Texts) : Machine (Addon ι) (Event ι) where
  next := next texts

end Addon

section Choice

variable {addresses : List Address} {address other : Address}

theorem before_irrefl (address : Address) : before address address = false := by
  cases address with
  | v4 value => simp [before]
  | v6 value => simp [before]

theorem before_asymm {first second : Address} (earlier : before first second = true) :
    before second first = false := by
  cases first with
  | v4 first =>
      cases second with
      | v4 second =>
          simp only [before, decide_eq_true_iff, decide_eq_false_iff_not] at earlier ⊢
          bv_omega
      | v6 second => rfl
  | v6 first =>
      cases second with
      | v4 second => contradiction
      | v6 second =>
          simp only [before, decide_eq_true_iff, decide_eq_false_iff_not] at earlier ⊢
          bv_omega

theorem not_before_trans {first second third : Address} (one : before first second = false)
    (two : before second third = false) : before first third = false := by
  cases first <;> cases second <;> cases third <;>
    simp only [before, decide_eq_false_iff_not, Bool.true_eq_false] at one two ⊢
  · bv_omega
  · bv_omega

theorem chosen_eq_none : chosen addresses = none ↔ addresses = [] := by
  cases addresses with
  | nil => exact Iff.intro (fun _ => rfl) fun _ => rfl
  | cons head rest =>
      rw [chosen]
      split
      · simp
      · split <;> simp

theorem chosen_first (chose : chosen addresses = some address) :
    address ∈ addresses ∧ ∀ other ∈ addresses, before other address = false := by
  induction addresses generalizing address with
  | nil => contradiction
  | cons head rest ih =>
      rw [chosen] at chose
      cases found : chosen rest with
      | none =>
          rw [found] at chose
          obtain rfl := Option.some.inj chose
          obtain rfl := chosen_eq_none.mp found
          simp [before_irrefl]
      | some best =>
          obtain ⟨member, least⟩ := ih found
          simp only [found] at chose
          split at chose
          · next earlier =>
              obtain rfl := Option.some.inj chose
              exact ⟨List.mem_cons_of_mem _ member,
                List.forall_mem_cons.mpr ⟨before_asymm earlier, least⟩⟩
          · next later =>
              obtain rfl := Option.some.inj chose
              refine ⟨List.mem_cons_self, List.forall_mem_cons.mpr ⟨before_irrefl _, ?_⟩⟩
              intro other inside
              exact not_before_trans (least other inside) (Bool.not_eq_true _ ▸ later)

theorem not_internal_of_reachable (reachable : isReachable addresses = true)
    (member : address ∈ addresses) : address.internal = false := by
  rw [isReachable, Bool.and_eq_true, List.all_eq_true] at reachable
  have public_ := reachable.2 address member
  rw [Bool.and_eq_true, Bool.not_eq_true'] at public_
  exact Address.not_internal public_.1 public_.2

end Choice

namespace Server

variable {texts : Texts} {server : Server} {known : Bool}

/-- What holds of a connection. -/
structure Safe (texts : Texts) (server : Server) (known : Bool) : Prop where
  solid : server.host ≠ ""
  pinned : ∀ address, server.address = some address →
    server.error = none ∧ isReachable server.resolved = true ∧
      chosen server.resolved = some address ∧ known = true
  named : texts.isAddress server.host = false →
    server.sni = server.offered ∨ server.sni = some server.name
  bound : texts.isAddress server.host = false → server.address.isSome = true →
    server.sni = some server.name

theorem name_ne_empty (solid : server.host ≠ "") : server.name ≠ "" := by
  rw [name]
  cases found : given server.offered with
  | none => exact solid
  | some offered =>
      have filled := (Option.filter_eq_some_iff.mp found).2
      simpa using filled

theorem given_name (solid : server.host ≠ "") : given (some server.name) = some server.name := by
  simp [given, name_ne_empty solid]

/-- Either name that a connection may have leads to the one that it is for. -/
theorem given_sni (safe : server.Safe texts known) (host : texts.isAddress server.host = false) :
    (given server.sni).getD server.host = server.name := by
  rcases safe.named host with same | same
  · rw [same, name]
  · rw [same, given_name safe.solid, Option.getD_some]

theorem helloHost_eq (safe : server.Safe texts known) (host : texts.isAddress server.host = false) :
    server.helloHost texts = server.name := by
  cases pinned : server.address with
  | none =>
      rw [helloHost, pinned]
      exact given_sni safe host
  | some address =>
      rw [helloHost, safe.bound host (by simp [pinned]), given_name safe.solid, Option.getD_some]

theorem Safe.pin (safe : server.Safe texts known) (unpinned : server.address = none)
    (sound : server.error = none) (answered : known = true) (addresses : List Address) :
    (server.pin texts addresses).Safe texts known := by
  rw [Server.pin]
  split
  · next reachable =>
      have bound (host : texts.isAddress server.host = false) :
          (if texts.isAddress server.host then server.sni
            else some ((given server.sni).getD server.host)) = some server.name := by
        rw [host, if_neg Bool.false_ne_true, given_sni safe host]
      exact ⟨safe.solid, fun address chose => ⟨sound, reachable, chose, answered⟩,
        fun host => .inr (bound host), fun host _ => bound host⟩
  · refine ⟨safe.solid, fun address pinned => ?_, safe.named, fun _ pinned => ?_⟩
    · rw [show server.address = some address from pinned] at unpinned
      contradiction
    · rw [show server.address = none from unpinned] at pinned
      contradiction

/-- The exchange refused the connection before it was pinned. -/
theorem Safe.refuse (safe : server.Safe texts known) (unpinned : server.address = none)
    (error : String) : { server with error := some error }.Safe texts known where
  solid := safe.solid
  pinned address pinned := by
    rw [show server.address = some address from pinned] at unpinned
    contradiction
  named := safe.named
  bound := safe.bound

theorem Safe.hello (safe : server.Safe texts known) {host : String}
    (same : texts.isAddress server.host = false → host = server.name) :
    { server with sni := some host }.Safe texts known where
  solid := safe.solid
  pinned := safe.pinned
  named literal := .inr (congrArg some (same literal))
  bound literal _ := congrArg some (same literal)

/-- Where a connection goes, and what for, is the same. -/
structure Kept (server later : Server) : Prop where
  host : later.host = server.host
  offered : later.offered = server.offered
  address : later.address = server.address
  error : later.error = server.error
  resolved : later.resolved = server.resolved

theorem Kept.refl (server : Server) : server.Kept server :=
  ⟨rfl, rfl, rfl, rfl, rfl⟩

theorem Kept.trans {middle later : Server} (one : server.Kept middle) (two : middle.Kept later) :
    server.Kept later :=
  ⟨two.host.trans one.host, two.offered.trans one.offered, two.address.trans one.address,
    two.error.trans one.error, two.resolved.trans one.resolved⟩

theorem Safe.know (safe : server.Safe texts known) {later : Bool}
    (knows : known = true → later = true) :
    server.Safe texts later where
  solid := safe.solid
  pinned address pinned := by
    obtain ⟨sound, reachable, chose, answered⟩ := safe.pinned address pinned
    exact ⟨sound, reachable, chose, knows answered⟩
  named := safe.named
  bound := safe.bound

end Server

namespace Addon

variable {ι : Type} [DecidableEq ι] {texts : Texts} {addon after : Addon ι} {task : ι}
  {method : Method}

structure Sound (texts : Texts) (addon : Addon ι) : Prop where
  safe : ∀ {task server}, addon.servers task = some server →
    server.Safe texts addon.swap.upstreamsKnown
  /-- A connection is pinned by a call that has resolved it. -/
  settled : ∀ {task server}, addon.servers task = some server → server.address.isSome = true →
    addon.swap.calls task = some (.ended .resolving)
  resolving : ∀ {task}, addon.swap.calls task = some (.ended .resolving) →
    addon.swap.upstreamsKnown = true
  begun : ∀ {task connection}, addon.hellos task = some connection →
    addon.servers connection ≠ none
  /-- A call of `tls_clienthello` looks for what its connection is for. -/
  asks : ∀ {task connection server request host}, addon.hellos task = some connection →
    addon.servers connection = some server → texts.isAddress server.host = false →
      addon.swap.calls task = some (.requesting request (.tlsClienthello host)) →
        host = server.name

/-- A call of the addon goes on: what it was, and what it is then. -/
structure Moves (before after : Swap ι) (task : ι) (method : Method) : Prop where
  others : ∀ {other}, other ≠ task → after.calls other = before.calls other
  open_ : before.calls task ≠ some (.ended .resolving)
  known : before.upstreamsKnown = true → after.upstreamsKnown = true
  resolving : after.calls task = some (.ended .resolving) → after.upstreamsKnown = true
  asking : ∀ {request asked}, after.calls task = some (.requesting request asked) → asked = method

theorem calls_setCall (swap : Swap ι) (call : Call) (other : ι) :
    (swap.setCall task call).calls other = if other = task then some call
    else swap.calls other := by
  simp only [Swap.setCall, Function.update_apply]

theorem moves_returned (swap before : Swap ι) (calls : swap.calls = before.calls)
    (open_ : before.calls task ≠ some (.ended .resolving))
    (known : before.upstreamsKnown = true → swap.upstreamsKnown = true) :
    Moves before (swap.returned task method) task method where
  others other := by
    rw [Swap.returned, calls_setCall, if_neg other, calls]
  open_ := open_
  known := known
  resolving same := by
    rw [Swap.returned, calls_setCall, if_pos rfl] at same
    exact History.known_of_resolving (Call.ended.inj (Option.some.inj same))
  asking same := by
    rw [Swap.returned, calls_setCall, if_pos rfl] at same
    cases Option.some.inj same

theorem moves_begin (swap : Swap ι) (fresh : swap.calls task = none) (now : ℤ) :
    Moves swap (swap.begin task method now) task method := by
  rw [Swap.begin]
  split
  · refine ⟨fun other => ?_, by simp [fresh], id, fun same => ?_, fun same => ?_⟩
    · rw [calls_setCall, if_neg other]
    · rw [calls_setCall, if_pos rfl] at same
      cases Option.some.inj same
    · rw [calls_setCall, if_pos rfl] at same
      exact (Call.requesting.inj (Option.some.inj same)).2.symm
  · exact moves_returned swap swap rfl (by simp [fresh]) id

theorem moves_answered (swap : Swap ι) {request : Request}
    (asked : swap.calls task = some (.requesting request method)) (answer : Answer) (now : ℤ) :
    Moves swap (swap.answered task method answer now) task method := by
  cases answer with
  | hosts hosts => exact moves_returned _ swap rfl (by simp [asked]) fun _ => rfl
  | unavailable => exact moves_returned _ swap rfl (by simp [asked]) id
  | raised =>
      refine ⟨fun other => ?_, by simp [asked], id, fun same => ?_, fun same => ?_⟩
      · rw [Swap.answered, calls_setCall, if_neg other]
      · rw [Swap.answered, calls_setCall, if_pos rfl] at same
        cases Option.some.inj same
      · rw [Swap.answered, calls_setCall, if_pos rfl] at same
        cases Option.some.inj same

/-- A call looks for what its connection is for. -/
def Named (texts : Texts) (addon : Addon ι) (task : ι) (method : Method) : Prop :=
  ∀ {connection server host}, addon.hellos task = some connection →
    addon.servers connection = some server → texts.isAddress server.host = false →
      method = .tlsClienthello host → host = server.name

namespace Sound

theorem setServer (sound : addon.Sound texts) {server changed : Server}
    (held : addon.servers task = some server)
    (safe : changed.Safe texts addon.swap.upstreamsKnown)
    (settled : changed.address.isSome = true → addon.swap.calls task = some (.ended .resolving))
    (host : changed.host = server.host) (name : changed.name = server.name) :
    (addon.setServer task changed).Sound texts where
  safe {other found} present := by
    simp only [Addon.setServer, Function.update_apply] at present
    split at present
    · obtain rfl := Option.some.inj present
      exact safe
    · exact sound.safe present
  settled {other found} present pinned := by
    simp only [Addon.setServer, Function.update_apply] at present
    split at present
    · next same =>
        obtain rfl := Option.some.inj present
        subst same
        exact settled pinned
    · exact sound.settled present pinned
  resolving := sound.resolving
  begun {other connection} asks := by
    simp only [Addon.setServer, Function.update_apply]
    split
    · exact Option.some_ne_none _
    · exact sound.begun asks
  asks {other connection found request asked} asks present literal calls := by
    simp only [Addon.setServer, Function.update_apply] at present
    split at present
    · next same =>
        obtain rfl := Option.some.inj present
        subst same
        rw [name]
        exact sound.asks asks held (host ▸ literal) calls
    · exact sound.asks asks present literal calls

theorem move (sound : addon.Sound texts) {swap : Swap ι} {hellos : ι → Option ι}
    (moves : Moves addon.swap swap task method)
    (elsewhere : ∀ {other}, other ≠ task → hellos other = addon.hellos other)
    (begun : ∀ {connection}, hellos task = some connection → addon.servers connection ≠ none)
    (named : { addon with swap, hellos }.Named texts task method) :
    { addon with swap, hellos }.Sound texts where
  safe present := (sound.safe present).know moves.known
  settled {other server} present pinned := by
    have settled := sound.settled present pinned
    have different : other ≠ task := by
      rintro rfl
      exact moves.open_ settled
    exact (moves.others different).trans settled
  resolving {other} same := by
    by_cases here : other = task
    · subst here
      exact moves.resolving same
    · exact moves.known (sound.resolving ((moves.others here).symm.trans same))
  begun {other connection} asks := by
    by_cases here : other = task
    · subst here
      exact begun asks
    · exact sound.begun ((elsewhere here).symm.trans asks)
  asks {other connection server request host} asks present literal same := by
    by_cases here : other = task
    · subst here
      exact named asks present literal (moves.asking same).symm
    · exact sound.asks ((elsewhere here).symm.trans asks) present literal
        ((moves.others here).symm.trans same)

/-- A call where `upstreams` has returned to it refuses its connection, or names it. -/
theorem follow (sound : addon.Sound texts) (named : addon.Named texts task method) :
    (addon.follow task method).Sound texts := by
  simp only [Addon.follow]
  split
  · next error refused =>
      split
      · next server held =>
          have safe := sound.safe held
          have unpinned : server.address = none := by
            cases pinned : server.address with
            | none => rfl
            | some address =>
                have settled := sound.settled held (by simp [pinned])
                simp [settled] at refused
          refine sound.setServer held (safe.refuse unpinned error) (fun pinned => ?_) rfl rfl
          exact sound.settled held pinned
      · exact sound
  · next host intercepted =>
      split
      · next connection asks =>
          split
          · next server held =>
              refine sound.setServer held ((sound.safe held).hello fun literal => ?_)
                (fun pinned => sound.settled held pinned) rfl rfl
              exact named asks held literal rfl
          · exact sound
      · exact sound
  · exact sound

theorem dial (sound : addon.Sound texts) (fresh : addon.servers task = none) {host : String}
    (solid : host ≠ "") (port : ℕ) (offered : Option String) :
    (addon.setServer task { host, port, offered }).Sound texts where
  safe {other found} present := by
    simp only [Addon.setServer, Function.update_apply] at present
    split at present
    · obtain rfl := Option.some.inj present
      exact ⟨solid, by simp, fun _ => .inl rfl, by simp⟩
    · exact sound.safe present
  settled {other found} present pinned := by
    simp only [Addon.setServer, Function.update_apply] at present
    split at present
    · obtain rfl := Option.some.inj present
      contradiction
    · exact sound.settled present pinned
  resolving := sound.resolving
  begun {other connection} asks := by
    simp only [Addon.setServer, Function.update_apply]
    split
    · exact Option.some_ne_none _
    · exact sound.begun asks
  asks {other connection found request asked} asks present := by
    simp only [Addon.setServer, Function.update_apply] at present
    split at present
    · next same =>
        subst same
        exact absurd fresh (sound.begun asks)
    · exact sound.asks asks present

/-- One section keeps what holds of the connections. -/
theorem step (sound : addon.Sound texts) {event : Event ι}
    (step : addon.next texts event = some after) : after.Sound texts := by
  cases event with
  | dial task host port offered =>
      simp only [next] at step
      split at step
      · next fresh =>
          obtain rfl := Option.some.inj step
          exact sound.dial fresh.1 fresh.2 port offered
      · contradiction
  | connect task now =>
      simp only [next] at step
      split at step
      · split at step
        · next fresh =>
            obtain rfl := Option.some.inj step
            have named : Named texts { addon with swap := addon.swap.begin task .serverConnect now }
                task .serverConnect := by
              intro connection server host _ _ _ same
              contradiction
            exact (sound.move (moves_begin addon.swap fresh now) (fun _ => rfl) sound.begun
              named).follow named
        · contradiction
      · contradiction
  | hello task connection now =>
      simp only [next] at step
      split at step
      · next server held =>
          split at step
          · next fresh =>
              obtain rfl := Option.some.inj step
              have here : Function.update addon.hellos task (some connection) task =
                  some connection := Function.update_self ..
              have named : Named texts { addon with
                  swap := addon.swap.begin task (.tlsClienthello (server.helloHost texts)) now
                  hellos := Function.update addon.hellos task (some connection) }
                  task (.tlsClienthello (server.helloHost texts)) := by
                intro other found host asks present literal same
                obtain rfl := Option.some.inj (here.symm.trans asks)
                obtain rfl := Option.some.inj (held.symm.trans present)
                rw [← Method.tlsClienthello.inj same, Server.helloHost_eq (sound.safe held) literal]
              refine (sound.move (moves_begin addon.swap fresh.1 now) (fun other => ?_)
                (fun asks => ?_) named).follow named
              · exact Function.update_of_ne other ..
              · obtain rfl := Option.some.inj (here.symm.trans asks)
                simp [held]
          · contradiction
      · contradiction
  | reply task reply now =>
      simp only [next] at step
      split at step
      · next request method asked =>
          obtain rfl := Option.some.inj step
          have named : Named texts { addon with
              swap := addon.swap.answered task method reply.answer now } task method := by
            intro connection server host asks present literal same
            subst same
            exact sound.asks asks present literal asked
          exact (sound.move (moves_answered addon.swap asked reply.answer now) (fun _ => rfl)
            sound.begun named).follow named
      · contradiction
  | resolved task addresses =>
      simp only [next] at step
      split at step
      · next server resolving held =>
          split at step
          · next free =>
              obtain rfl := Option.some.inj step
              have safe := (sound.safe held).pin free.1 free.2 (sound.resolving resolving) addresses
              refine sound.setServer held safe (fun _ => resolving) ?_ ?_
              · rw [Server.pin]
                split <;> rfl
              · rw [Server.pin]
                split <;> rfl
          · contradiction
      · contradiction

/-- A call where `upstreams` has returned to it leaves a pinned connection where it goes. -/
theorem follow_kept {connection : ι} {server : Server}
    (held : addon.servers connection = some server)
    (settled : addon.swap.calls connection = some (.ended .resolving)) :
    ∃ later, (addon.follow task method).servers connection = some later ∧ server.Kept later := by
  simp only [Addon.follow]
  split
  · next error refused =>
      have other : connection ≠ task := by
        rintro rfl
        simp [settled] at refused
      split
      · exact ⟨server, by simp [Addon.setServer, other, held], .refl server⟩
      · exact ⟨server, held, .refl server⟩
  · next host intercepted =>
      split
      · next asked asks =>
          split
          · next found present =>
              by_cases here : connection = asked
              · subst here
                obtain rfl := Option.some.inj (held.symm.trans present)
                exact ⟨{ server with sni := some host }, by simp [Addon.setServer],
                  rfl, rfl, rfl, rfl, rfl⟩
              · exact ⟨server, by simp [Addon.setServer, here, held], .refl server⟩
          · exact ⟨server, held, .refl server⟩
      · exact ⟨server, held, .refl server⟩
  · exact ⟨server, held, .refl server⟩

/-- One section leaves a pinned connection where it goes. -/
theorem step_kept (sound : addon.Sound texts) {connection : ι} {server : Server}
    (held : addon.servers connection = some server) (pinned : server.address.isSome = true)
    {event : Event ι} (step : addon.next texts event = some after) :
    ∃ later, after.servers connection = some later ∧ server.Kept later := by
  have settled := sound.settled held pinned
  have elsewhere {swap : Swap ι} {task : ι} {method : Method}
      (moves : Moves addon.swap swap task method) :
      swap.calls connection = some (.ended .resolving) := by
    have other : connection ≠ task := by
      rintro rfl
      exact moves.open_ settled
    exact (moves.others other).trans settled
  cases event with
  | dial task host port offered =>
      simp only [next] at step
      split at step
      · next fresh =>
          obtain rfl := Option.some.inj step
          have other : connection ≠ task := by
            rintro rfl
            rw [held] at fresh
            exact absurd fresh.1 (Option.some_ne_none _)
          exact ⟨server, by simp [Addon.setServer, other, held], .refl server⟩
      · contradiction
  | connect task now =>
      simp only [next] at step
      split at step
      · split at step
        · next fresh =>
            obtain rfl := Option.some.inj step
            exact follow_kept held (elsewhere (moves_begin addon.swap fresh now))
        · contradiction
      · contradiction
  | hello task asked now =>
      simp only [next] at step
      split at step
      · split at step
        · next fresh =>
            obtain rfl := Option.some.inj step
            exact follow_kept held (elsewhere (moves_begin addon.swap fresh.1 now))
        · contradiction
      · contradiction
  | reply task reply now =>
      simp only [next] at step
      split at step
      · next request method asked =>
          obtain rfl := Option.some.inj step
          exact follow_kept held (elsewhere (moves_answered addon.swap asked reply.answer now))
      · contradiction
  | resolved task addresses =>
      simp only [next] at step
      split at step
      · next found resolving present =>
          split at step
          · next free =>
              obtain rfl := Option.some.inj step
              have other : connection ≠ task := by
                rintro rfl
                obtain rfl := Option.some.inj (held.symm.trans present)
                simp [free.1] at pinned
              exact ⟨server, by simp [Addon.setServer, other, held], .refl server⟩
          · contradiction
      · contradiction

/-- Whatever runs later, a pinned connection goes where it goes. -/
theorem reaches_kept (sound : addon.Sound texts) {connection : ι} {server : Server}
    (held : addon.servers connection = some server) (pinned : server.address.isSome = true)
    (run : (machine texts).Reaches (fun _ _ => True) addon after) :
    ∃ later, after.servers connection = some later ∧ server.Kept later := by
  have kept : after.Sound texts ∧
      ∃ later, after.servers connection = some later ∧ server.Kept later := by
    refine run.keeps
      (fun addon => addon.Sound texts ∧
        ∃ later, addon.servers connection = some later ∧ server.Kept later)
      (fun ⟨sound, middle, present, kept⟩ _ step => ?_) ⟨sound, server, held, .refl server⟩
    obtain ⟨later, found, next⟩ :=
      sound.step_kept present (by rw [kept.address, pinned]) step
    exact ⟨sound.step step, later, found, kept.trans next⟩
  exact kept.2

omit [DecidableEq ι] in
theorem initial : ({} : Addon ι).Sound texts where
  safe present := by contradiction
  settled present := by contradiction
  resolving present := by contradiction
  begun asks := by contradiction
  asks asks := by contradiction

end Sound

/-- However the calls run, a pinned connection goes, after an answer of the exchange, to the first
of addresses that all were checked and are not internal.  Its name is the one that mitmproxy began
it with, so a swap on it is for that host.  Whatever runs and whatever a resolver answers later, it
keeps its address and that name. -/
theorem connections_checked
    (reach : (machine texts).Reaches (fun _ _ => True) ({} : Addon ι) addon) {server : Server}
    {address : Address} (held : addon.servers task = some server)
    (pinned : server.address = some address) :
    addon.swap.upstreamsKnown = true ∧ server.error = none ∧ address ∈ server.resolved ∧
      (∀ other ∈ server.resolved, other.internal = false ∧ before other address = false) ∧
      (texts.isAddress server.host = false → server.sni = some server.name ∧
        ∀ flow : Flow, flow.sni = server.sni → flow.approved = server.name) ∧
      ∀ after, (machine texts).Reaches (fun _ _ => True) addon after →
        ∃ later, after.servers task = some later ∧ later.address = some address ∧
          later.error = none ∧ (texts.isAddress server.host = false → later.sni = server.sni) := by
  have sound : addon.Sound texts :=
    reach.keeps (fun addon => addon.Sound texts) (fun sound _ step => sound.step step) .initial
  have safe := sound.safe held
  obtain ⟨healthy, reachable, chose, known⟩ := safe.pinned address pinned
  obtain ⟨member, first⟩ := chosen_first chose
  refine ⟨known, healthy, member, fun other inside => ?_, fun literal => ?_, fun after run => ?_⟩
  · exact ⟨not_internal_of_reachable reachable inside, first other inside⟩
  · have named := safe.bound literal (by simp [pinned])
    refine ⟨named, fun flow same => ?_⟩
    rw [Flow.approved, same, named, Server.given_name safe.solid, Option.getD_some]
  · obtain ⟨later, present, kept⟩ := sound.reaches_kept held (by simp [pinned]) run
    have still : later.address = some address := kept.address.trans pinned
    have settled : after.Sound texts :=
      run.keeps (fun addon => addon.Sound texts) (fun sound _ step => sound.step step) sound
    refine ⟨later, present, still, kept.error.trans healthy, fun literal => ?_⟩
    have named := (settled.safe present).bound (by rw [kept.host, literal]) (by simp [still])
    rw [named, safe.bound literal (by simp [pinned]), Server.name, Server.name, kept.offered,
      kept.host]

/-- Texts where one host only is an address. -/
def oneAddress : Texts where
  isAddress host := host == "192.0.2.1"
  text _ := "192.0.2.1"

/-- A client's hello is answered before the connection is pinned, and another one asks after it. -/
theorem connections_checked_hello :
    ∃ addon after : Addon (Fin 3), (machine oneAddress).Reaches (fun _ _ => True) {} addon ∧
      ∃ server, addon.servers 0 = some server ∧
      server.address = some (.v4 0x08080404) ∧ server.sni = some "pypi.org" ∧
      (∀ other ∈ server.resolved, other.internal = false ∧ before other (.v4 0x08080404) = false) ∧
      (∀ flow : Flow, flow.sni = some "pypi.org" → flow.approved = "pypi.org") ∧
      (machine oneAddress).run addon
          [.hello 2 0 (seconds 6), .reply 2 (.response 200 (some ["pypi.org"])) (seconds 7)] =
            some after ∧
      ∃ later, after.servers 0 = some later ∧ later.address = some (.v4 0x08080404) ∧
        later.sni = some "pypi.org" := by
  have reach : (machine oneAddress).Reaches (fun _ _ => True) ({} : Addon (Fin 3)) _ :=
    Machine.reaches_of_run
      [.dial 0 "pypi.org" 443 none, .connect 0 0, .hello 1 0 0,
        .reply 0 (.response 200 (some ["pypi.org"])) 1, .reply 1 .error 2,
        .resolved 0 [.v4 0x08080808, .v6 (0x2600 <<< 112), .v4 0x08080404]]
      (by simp) rfl
  obtain ⟨addon, after, held, run, ran⟩ : ∃ addon after : Addon (Fin 3),
      addon.servers 0 = some _ ∧ (machine oneAddress).Reaches (fun _ _ => True) {} addon ∧
        (machine oneAddress).run addon
          [.hello 2 0 (seconds 6), .reply 2 (.response 200 (some ["pypi.org"])) (seconds 7)] =
            some after :=
    ⟨_, _, rfl, reach, rfl⟩
  obtain ⟨-, -, -, checked, bound, later⟩ := connections_checked run held rfl
  obtain ⟨named, swaps⟩ := bound rfl
  obtain ⟨after_, present, address, -, sni⟩ :=
    later after (Machine.reaches_of_run _ (by simp) ran)
  exact ⟨addon, after, run, _, held, rfl, named, checked,
    fun flow same => swaps flow (same.trans named.symm), ran, after_, present, address,
    (sni rfl).trans named⟩

end Addon

end Drukbox.Proxy.Destinations
