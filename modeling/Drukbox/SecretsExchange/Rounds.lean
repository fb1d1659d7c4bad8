import Drukbox.SecretsExchange.Timer

/-!
# The rounds of the timer

One invariant of the exchange carries what a round does for its hosts and how the timer ends.
-/

namespace Drukbox.SecretsExchange

open Await

namespace Exchange

variable {vm : HostId → Option Bool} {exchange before after : Exchange} {host : Host}

structure Sound (vm : HostId → Option Bool) (exchange : Exchange) : Prop where
  /-- The timer pushes in rounds that have begun, and after their rows. -/
  begun : ∀ {host service round call},
    (exchange.entries host service).calls (.timer round) = some call →
      round ≤ exchange.round ∧ (exchange.stage = .reading → round < exchange.round)
  flight : ∀ {host service round call},
    (exchange.entries host service).calls (.timer round) = some call → 0 < call.left →
      round = exchange.round ∧ ∃ rest, exchange.pushes host = .awaiting service rest
  ids : (exchange.hosts.map Host.id).Nodup
  services : ∀ host ∈ exchange.hosts, (host.secrets.map Prod.fst).Nodup
  stands : ∀ host ∈ exchange.hosts, host.status = .active →
    exchange.Stands vm host (exchange.pushes host.id)
  listed : ∀ {id}, (exchange.pushes id).returned = false → exchange.stage = .gathering ∧
    ∃ host ∈ exchange.hosts, host.id = id ∧ host.status = .active
  closed : exchange.closed = true → exchange.stage = .ended

/-- A section of `push_to_host`. -/
def Advances (vm : HostId → Option Bool) (exchange after : Exchange) : Prop :=
  ∃ host ∈ exchange.hosts, (exchange.pushes host.id).returned = false ∧
    ∃ bound result, bound < exchange.load host (exchange.pushes host.id) ∧
      Goes vm host exchange bound result ∧ after = record result host.id

namespace Sound

variable (sound : exchange.Sound vm)
include sound

/-- A host is the only one with its id. -/
theorem row_unique {other : Host} (member : host ∈ exchange.hosts)
    (member_too : other ∈ exchange.hosts) (same : other.id = host.id) : other = host :=
  List.inj_on_of_nodup_map sound.ids member_too member same

theorem idle (elsewhere : exchange.stage ≠ .gathering) {id : HostId} {service : String}
    {round : ℕ} {call : Call}
    (called : (exchange.entries id service).calls (.timer round) = some call) : call.left = 0 := by
  by_contra left
  obtain ⟨-, rest, awaits⟩ := sound.flight called (Nat.pos_of_ne_zero left)
  have waits : (exchange.pushes id).returned = false := by rw [awaits]; rfl
  exact elsewhere (sound.listed waits).1

/-- A section that leaves the calls of the timer. -/
theorem moves
    (calls : ∀ host service round, (after.entries host service).calls (.timer round) =
      (exchange.entries host service).calls (.timer round))
    (round : after.round = exchange.round) (hosts : after.hosts = exchange.hosts)
    (pushes : after.pushes = exchange.pushes) (opens : after.opens = exchange.opens)
    (reading : after.stage = .reading → exchange.stage = .reading)
    (gathering : exchange.stage = .gathering → after.stage = .gathering ∨
      ∀ host ∈ exchange.hosts, (exchange.pushes host.id).returned = true)
    (closed : after.closed = true → after.stage = .ended) : after.Sound vm where
  begun {host service number call} called := by
    rw [calls] at called
    obtain ⟨bound, strict⟩ := sound.begun called
    rw [round]
    exact ⟨bound, fun reads => strict (reading reads)⟩
  flight {host service number call} called left := by
    rw [calls] at called
    rw [round, pushes]
    exact sound.flight called left
  ids := by
    rw [hosts]
    exact sound.ids
  services := by
    rw [hosts]
    exact sound.services
  stands host member active := by
    rw [hosts] at member
    rw [pushes]
    refine (sound.stands host member active).congr (fun service => ?_) opens
    rw [call, call, round]
    exact calls host.id service exchange.round
  listed {id} waits := by
    rw [pushes] at waits
    obtain ⟨gathers, host, member, same, active⟩ := sound.listed waits
    rw [hosts]
    rcases gathering gathers with still | returned
    · exact ⟨still, host, member, same, active⟩
    · subst same
      rw [returned host member] at waits
      contradiction
  closed := closed

theorem records (member : host ∈ exchange.hosts)
    (waits : (exchange.pushes host.id).returned = false) {bound : ℕ} {result : Exchange × Push}
    (goes : Goes vm host exchange bound result) : (record result host.id).Sound vm := by
  obtain ⟨after, push⟩ := result
  have gathers := (sound.listed waits).1
  have round : (record (after, push) host.id).round = exchange.round := by rw [goes.frame]
  have hosts : (record (after, push) host.id).hosts = exchange.hosts := by rw [goes.frame]
  have stage : (record (after, push) host.id).stage = .gathering := by
    rw [goes.frame]
    exact gathers
  have old {id : HostId} {service : String} {number : ℕ}
      (other : id ≠ host.id ∨ number ≠ exchange.round) :
      (after.entries id service).calls (.timer number) =
        (exchange.entries id service).calls (.timer number) := by
    by_cases same : id = host.id
    · subst same
      exact goes.beside.rounds service number (other.resolve_left fun apart => apart rfl)
    · rw [goes.beside.others id same]
  constructor
  · intro id service number call called
    rw [round, stage]
    refine ⟨?_, by simp⟩
    by_cases now : number = exchange.round
    · exact Nat.le_of_eq now
    · exact (sound.begun ((old (.inr now)).symm.trans called)).1
  · intro id service number call called left
    rw [round]
    by_cases other : id ≠ host.id ∨ number ≠ exchange.round
    · obtain ⟨now, more, awaits⟩ := sound.flight ((old other).symm.trans called) left
      have different := other.resolve_right fun past => past now
      exact ⟨now, more, (goes.pushes_of_ne different).trans awaits⟩
    · obtain ⟨rfl, rfl⟩ : id = host.id ∧ number = exchange.round := by
        simpa [not_or] using other
      have flying : after.call host.id service = some call := by
        rw [Exchange.call, goes.beside.round]
        exact called
      obtain ⟨more, awaits⟩ := goes.quiet flying left
      exact ⟨rfl, more, (pushes_record_self _ _).trans awaits⟩
  · rw [hosts]
    exact sound.ids
  · rw [hosts]
    exact sound.services
  · intro row present active
    rw [hosts] at present
    by_cases same : row.id = host.id
    · obtain rfl := sound.row_unique member present same
      rw [pushes_record_self]
      exact goes.stands.congr (fun _ => rfl) rfl
    · rw [goes.pushes_of_ne same]
      exact (sound.stands row present active).congr
        (fun service => goes.beside.call same service) goes.beside.opens
  · intro id waits_too
    rw [hosts]
    refine ⟨stage, ?_⟩
    by_cases same : id = host.id
    · subst same
      exact (sound.listed waits).2
    · rw [goes.pushes_of_ne same] at waits_too
      exact (sound.listed waits_too).2
  · intro shut
    rw [goes.frame] at shut
    rw [sound.closed shut] at gathers
    contradiction

/-- It keeps what holds between two sections, and begins no round. -/
theorem advances (went : exchange.Advances vm after) :
    after.Sound vm ∧
      (exchange.stop = true → after.stop = true ∧ after.round = exchange.round) := by
  obtain ⟨host, member, waits, bound, result, -, goes, rfl⟩ := went
  refine ⟨sound.records member waits goes, fun stop => ⟨?_, goes.beside.round⟩⟩
  rw [goes.frame]
  exact stop

theorem gathers (reading : exchange.stage = .reading) {hosts : List Host}
    (ids : (hosts.map Host.id).Nodup)
    (services : ∀ host ∈ hosts, (host.secrets.map Prod.fst).Nodup)
    (opens : HostId → String → Bool) : (exchange.gather hosts opens).Sound vm := by
  have calls (id : HostId) (service : String) :
      ((exchange.gather hosts opens).entries id service).calls =
      (exchange.entries id service).calls := by
    simp only [gather]
    split <;> rfl
  constructor
  · intro id service round call called
    rw [calls] at called
    exact ⟨(sound.begun called).1, fun reads => by simp [gather] at reads⟩
  · intro id service round call called left
    rw [calls] at called
    have ended := sound.idle (by simp [reading]) called
    omega
  · exact ids
  · exact services
  · intro host member active
    have created : (exchange.gather hosts opens).pushes host.id = .created := by
      simp only [gather, ite_eq_left_iff]
      intro absent
      refine absurd (List.any_eq_true.mpr ⟨host, member, ?_⟩) absent
      simp [active]
    rw [created]
    intro service
    rw [call, calls]
    cases called : (exchange.entries host.id service).calls (.timer exchange.round) with
    | none => exact called
    | some call =>
        have earlier := (sound.begun called).2 reading
        omega
  · intro id waits
    refine ⟨rfl, ?_⟩
    simp only [gather] at waits
    split at waits
    · next found =>
        obtain ⟨row, member, same⟩ := List.any_eq_true.mp found
        rw [Bool.and_eq_true, beq_iff_eq, beq_iff_eq] at same
        exact ⟨row, member, same⟩
    · contradiction
  · intro shut
    have ended := sound.closed shut
    rw [reading] at ended
    contradiction

theorem turns (elsewhere : exchange.stage = .created ∨ exchange.stage = .waiting) :
    exchange.turn.Sound vm := by
  have idle : exchange.stage ≠ .gathering := by
    rcases elsewhere with stage | stage <;> simp [stage]
  rw [turn]
  split
  · exact sound.moves (fun _ _ _ => rfl) rfl rfl rfl rfl (by simp)
      (fun gathering => absurd gathering idle) (fun _ => rfl)
  · constructor
    · intro id service round call called
      have earlier := (sound.begun called).1
      exact ⟨Nat.le_succ_of_le earlier, fun _ => Nat.lt_succ_of_le earlier⟩
    · intro id service round call called left
      have ended := sound.idle idle called
      omega
    · exact List.nodup_nil
    · exact fun host member => absurd member List.not_mem_nil
    · exact fun host member => absurd member List.not_mem_nil
    · exact fun waits => absurd (sound.listed waits).1 idle
    · intro shut
      have ended := sound.closed shut
      rcases elsewhere with stage | stage <;> simp [stage] at ended

end Sound

/-- An entry in which every call of the timer stays. -/
theorem calls_setEntry {id : HostId} {service : String} {secrets : Secrets Caller}
    (keeps : ∀ round, secrets.calls (.timer round) =
      (exchange.entries id service).calls (.timer round)) (other : HostId) (name : String)
    (round : ℕ) :
    ((exchange.setEntry id service secrets).entries other name).calls (.timer round) =
      (exchange.entries other name).calls (.timer round) := by
  by_cases same : other = id
  · subst same
    by_cases named : name = service
    · subst named
      rw [entries_setEntry, keeps]
    · rw [entries_setEntry_of_ne exchange secrets named]
  · have apart : (exchange.setEntry id service secrets).entries other = exchange.entries other :=
      Function.update_of_ne same _ _
    rw [apart]

theorem caller_of_requested {event : SecretsExchange.Event Caller}
    (requested : event.requested = true) (round : ℕ) : event.caller ≠ some (.timer round) := by
  intro caller
  cases event with
  | begin task | answer task | deliver task =>
      obtain rfl := Option.some.inj caller
      contradiction
  | wake | answerBackground | callback | forget => contradiction

namespace Sound

theorem starts (sound : exchange.Sound vm) {clock : String → ℕ → ℤ}
    (ran : next vm exchange (.start host clock) = some after) :
    exchange.Advances vm after := by
  simp only [next] at ran
  split at ran
  · next ready =>
      obtain rfl := Option.some.inj ran
      obtain ⟨member, created⟩ := ready
      have waits : (exchange.pushes host.id).returned = false := by rw [created]; rfl
      obtain ⟨-, row, present, same, active⟩ := sound.listed waits
      obtain rfl := sound.row_unique member present same
      have stands := sound.stands row member active
      rw [created] at stands
      have whole : row.secrets = [] ++ row.secrets := rfl
      refine ⟨row, member, waits, 3 * row.secrets.length, _, ?_, ?_, rfl⟩
      · rw [created, load]
        exact Nat.lt_succ_self _
      · apply pushEntries_goes (sound.services row member) row.secrets whole
        · exact fun item absent => absurd absent List.not_mem_nil
        · exact fun item _ => stands item.1
        · intro service call found
          rw [stands service] at found
          contradiction
  · contradiction

theorem resumes (sound : exchange.Sound vm) {id : HostId} {event : SecretsExchange.Event Caller}
    {clock : String → ℕ → ℤ} (ran : next vm exchange (.resume id event clock) = some after) :
    exchange.Advances vm after := by
  simp only [next] at ran
  split at ran
  · next service rest needsValue awaits _ =>
      split at ran
      · next caller =>
          obtain ⟨secrets, stepped, rfl⟩ := Option.map_eq_some_iff.mp ran
          have waits : (exchange.pushes id).returned = false := by rw [awaits]; rfl
          obtain ⟨-, host, member, rfl, active⟩ := sound.listed waits
          have stands := sound.stands host member active
          rw [awaits] at stands
          obtain ⟨earlier, entry, split, issued, pushed, unvisited, known, call, called, mine,
            flying⟩ := stands
          obtain ⟨later, answered, own, less⟩ := Secrets.next_ofTimer stepped caller called mine
          have further : host.secrets = (earlier ++ [(service, entry)]) ++ rest := by
            rw [split, List.append_assoc, List.singleton_append]
          refine ⟨host, member, waits, later.left + 3 * rest.length, _, ?_, ?_, rfl⟩
          · rw [awaits, load, called, Option.elim_some]
            omega
          · apply section_goes (sound.services host member) split issued pushed unvisited
              known answered
              own
            · intro round past
              apply Secrets.calls_next_of_ne stepped
              rw [caller]
              exact fun same => past (Caller.timer.inj (Option.some.inj same)).symm
            · intro name other different found
              by_contra left
              obtain ⟨-, more, awaits_too⟩ := sound.flight found (Nat.pos_of_ne_zero left)
              rw [awaits] at awaits_too
              exact different (Push.awaiting.inj awaits_too).1.symm
            · intro later more unvisited quiet
              exact pushEntries_goes (sound.services host member) rest further more unvisited quiet
      · contradiction
  · contradiction

/-- Every section keeps it, and where the timer is to stop, begins no round. -/
theorem step (sound : exchange.Sound vm) {event : Event}
    (ran : next vm exchange event = some after) :
    after.Sound vm ∧
      (exchange.stop = true → after.stop = true ∧ after.round = exchange.round) := by
  cases event with
  | wake =>
      simp only [next] at ran
      have stays (stop : exchange.stop = true) :
          exchange.turn.stop = true ∧ exchange.turn.round = exchange.round := by
        rw [turn, if_pos stop]
        exact ⟨stop, rfl⟩
      split at ran
      · next stage =>
          obtain rfl := Option.some.inj ran
          exact ⟨sound.turns (.inl stage), stays⟩
      · next stage =>
          obtain rfl := Option.some.inj ran
          exact ⟨sound.turns (.inr stage), stays⟩
      all_goals contradiction
  | read hosts opens =>
      simp only [next] at ran
      split at ran
      · next stage =>
          split at ran
          · next keys =>
              obtain rfl := Option.some.inj ran
              exact ⟨sound.gathers stage keys.1 keys.2 opens, fun stop => ⟨stop, rfl⟩⟩
          · contradiction
      all_goals contradiction
  | unread sqlalchemy =>
      simp only [next] at ran
      split at ran
      · next stage =>
          obtain rfl := Option.some.inj ran
          refine ⟨sound.moves (fun _ _ _ => rfl) rfl rfl rfl rfl ?_ ?_ ?_, fun stop => ⟨stop, rfl⟩⟩
          · cases sqlalchemy <;> simp
          · simp [stage]
          · intro shut
            have ended := sound.closed shut
            rw [stage] at ended
            contradiction
      all_goals contradiction
  | start host clock => exact sound.advances (sound.starts ran)
  | resume id event clock => exact sound.advances (sound.resumes ran)
  | gathered =>
      simp only [next] at ran
      split at ran
      · next stage =>
          split at ran
          · next returned =>
              obtain rfl := Option.some.inj ran
              refine ⟨sound.moves (fun _ _ _ => rfl) rfl rfl rfl rfl (by simp)
                (fun _ => .inr returned) ?_, fun stop => ⟨stop, rfl⟩⟩
              intro shut
              have ended := sound.closed shut
              rw [stage] at ended
              contradiction
          · contradiction
      all_goals contradiction
  | request key service event =>
      simp only [next] at ran
      split at ran
      · next ready =>
          obtain ⟨secrets, stepped, rfl⟩ := Option.map_eq_some_iff.mp ran
          refine ⟨sound.moves ?_ rfl rfl rfl rfl id .inl sound.closed, fun stop => ⟨stop, rfl⟩⟩
          apply calls_setEntry
          intro round
          exact Secrets.calls_next_of_ne stepped (caller_of_requested ready.1 round)
      · contradiction
  | stop =>
      obtain rfl := Option.some.inj ran
      exact ⟨sound.moves (fun _ _ _ => rfl) rfl rfl rfl rfl id .inl sound.closed,
        fun _ => ⟨rfl, rfl⟩⟩
  | close =>
      simp only [next] at ran
      split at ran
      · next ready =>
          obtain rfl := Option.some.inj ran
          exact ⟨sound.moves (fun _ _ _ => rfl) rfl rfl rfl rfl id .inl fun _ => ready.2.1,
            fun stop => ⟨stop, rfl⟩⟩
      · contradiction

theorem initial (vm : HostId → Option Bool) : ({} : Exchange).Sound vm where
  begun called := by contradiction
  flight called := by contradiction
  ids := List.nodup_nil
  services host member := absurd member List.not_mem_nil
  stands host member := absurd member List.not_mem_nil
  listed waits := by contradiction
  closed shut := by contradiction

end Sound

theorem sound_of_reaches (reach : (machine vm).Reaches (fun _ _ => True) {} exchange) :
    exchange.Sound vm :=
  reach.keeps (fun exchange => exchange.Sound vm) (fun sound _ ran => (sound.step ran).1)
    (.initial vm)

/-- A round has done for a host all that it can: each entry with an issuer was pushed, or the ones
before an entry that is in trouble. -/
def Covered (vm : HostId → Option Bool) (exchange : Exchange) (host : Host) : Prop :=
  (exchange.pushes host.id).returned = true ∧ exchange.Stands vm host (exchange.pushes host.id)

/-- However the sections run: the timer has one push in flight for a host at most, a round covers
every active host that it has read, and none begins once `lifespan` has ordered the timer to stop.
When the client closes, no push of the timer is in flight. -/
theorem rounds_cover {later : Exchange}
    (reach : (machine vm).Reaches (fun _ _ => True) {} exchange)
    (on : (machine vm).Reaches (fun _ _ => True) exchange later) :
    (∀ id service name first second one other,
      (exchange.entries id service).calls (.timer first) = some one → 0 < one.left →
        (exchange.entries id name).calls (.timer second) = some other → 0 < other.left →
          service = name ∧ first = second) ∧
      (exchange.stage ≠ .gathering → ∀ host ∈ exchange.hosts, host.status = .active →
        exchange.Covered vm host) ∧
      (exchange.stop = true → later.round = exchange.round) ∧
      (exchange.closed = true → ∀ id service round call,
        (exchange.entries id service).calls (.timer round) = some call → call.left = 0) := by
  have sound := sound_of_reaches reach
  refine ⟨?_, ?_, ?_, ?_⟩
  · intro id service name first second one other called flying called_too flying_too
    obtain ⟨now, rest, awaits⟩ := sound.flight called flying
    obtain ⟨now_too, more, awaits_too⟩ := sound.flight called_too flying_too
    rw [awaits] at awaits_too
    exact ⟨(Push.awaiting.inj awaits_too).1, now.trans now_too.symm⟩
  · intro elsewhere host member active
    have stands := sound.stands host member active
    have returned : (exchange.pushes host.id).returned = true := by
      by_contra waits
      exact elsewhere (sound.listed (Bool.eq_false_iff.mpr waits)).1
    exact ⟨returned, stands⟩
  · intro stop
    have kept := on.keeps
      (fun later => later.Sound vm ∧ later.stop = true ∧ later.round = exchange.round)
      (fun ⟨sound, stops, round⟩ _ ran => by
        obtain ⟨still, stays⟩ := sound.step ran
        obtain ⟨stops_too, same⟩ := stays stops
        exact ⟨still, stops_too, same.trans round⟩)
      ⟨sound, stop, rfl⟩
    exact kept.2.2
  · intro shut id service round call called
    apply sound.idle (by simp [sound.closed shut]) called

/-- A host with a secret of an issuer. -/
def fetchedHost : Host where
  id := 7
  env := []
  secrets :=
    [("github", { issuer := some { url := "https://issuer", refresh := "1h", headers := [] } })]
  name := "sb-7"
  serviceAccount := none
  status := .active
  provider := "sbx"
  image := "ubuntu"
  instanceType := none
  diskGb := none
  createdAt := 0
  updatedAt := 0
  expiresAt := none
  poolMember := false

/-- A host whose entry does not decrypt. -/
def sealedHost : Host :=
  { fetchedHost with id := 8, name := "sb-8" }

/-- The order to stop comes while the value of one host is fetched. -/
def fetching : List Event :=
  [.wake, .read [sealedHost, fetchedHost] fun id _ => id == 7, .start sealedHost fun _ _ => 0,
    .start fetchedHost fun _ _ => 0, .stop]

/-- What is left of the round then. -/
def finishing : List Event :=
  [.resume 7 (.answer (.timer 1) (.secret { value := "ghp" }) fun _ => 0) fun _ _ => 0,
    .resume 7 (.deliver (.timer 1) .accepted fun _ => 0) fun _ _ => 0, .gathered, .wake, .close]

/-- The round that the order met covers both hosts, and the client closes. -/
theorem rounds_cover_fetched :
    ∃ exchange, (machine fun _ => some true).Reaches (fun _ _ => True) {} exchange ∧
      exchange.closed = true ∧ exchange.round = 1 ∧
        exchange.pushes 8 = .failed .unreadable ∧
        exchange.Covered (fun _ => some true) sealedHost ∧ exchange.pushes 7 = .done ∧
        exchange.Covered (fun _ => some true) fetchedHost := by
  have reach : (machine fun _ => some true).Reaches (fun _ _ => True) {} _ :=
    Machine.reaches_of_run (fetching ++ finishing) (by simp) rfl
  obtain ⟨-, covers, -, -⟩ := rounds_cover reach .refl
  exact ⟨_, reach, rfl, rfl, rfl, covers (by decide) sealedHost List.mem_cons_self rfl, rfl,
    covers (by decide) fetchedHost (List.mem_cons_of_mem _ List.mem_cons_self) rfl⟩

/-- A section of the timer, or the end of `lifespan`. -/
def Event.own : Event → Bool
  | .wake | .start _ _ | .resume _ _ _ | .gathered | .close => true
  | .read _ _ | .unread _ | .request _ _ _ | .stop => false

/-- The sections that the pushes of these hosts may still need. -/
def work (exchange : Exchange) : List Host → ℕ
  | [] => 0
  | host :: rest => exchange.load host (exchange.pushes host.id) + exchange.work rest

/-- A bound of the sections that are left, once the timer is to stop. -/
def left (exchange : Exchange) : ℕ :=
  match exchange.stage with
  | .gathering => 3 + exchange.work exchange.hosts
  | .created | .reading | .waiting => 2
  | .ended => if exchange.closed then 0 else 1

section Work

variable {hosts : List Host}

theorem work_congr (same : ∀ row ∈ hosts,
      after.load row (after.pushes row.id) = exchange.load row (exchange.pushes row.id)) :
    after.work hosts = exchange.work hosts := by
  induction hosts with
  | nil => rfl
  | cons row rest ih =>
      rw [work, work, same row List.mem_cons_self,
        ih fun other member => same other (List.mem_cons_of_mem _ member)]

theorem work_lt (ids : (hosts.map Host.id).Nodup) (member : host ∈ hosts)
    (less : after.load host (after.pushes host.id) < exchange.load host (exchange.pushes host.id))
    (others : ∀ row : Host, row.id ≠ host.id →
      after.load row (after.pushes row.id) = exchange.load row (exchange.pushes row.id)) :
    after.work hosts < exchange.work hosts := by
  induction hosts with
  | nil => exact absurd member List.not_mem_nil
  | cons row rest ih =>
      rw [List.map_cons] at ids
      obtain ⟨fresh, ids⟩ := List.nodup_cons.mp ids
      rw [work, work]
      rcases List.mem_cons.mp member with rfl | behind
      · have same : after.work rest = exchange.work rest := by
          apply work_congr
          intro other listed
          apply others
          intro equal
          exact fresh (List.mem_map.mpr ⟨other, listed, equal⟩)
        omega
      · have different : row.id ≠ host.id := by
          intro equal
          exact fresh (List.mem_map.mpr ⟨host, behind, equal.symm⟩)
        have less_too := ih ids behind
        rw [others row different]
        omega

end Work

namespace Sound

theorem lessens (sound : exchange.Sound vm) (went : exchange.Advances vm after) :
    after.stage ≠ .reading ∧ after.left < exchange.left := by
  obtain ⟨host, member, waits, bound, result, less, goes, rfl⟩ := went
  have gathers := (sound.listed waits).1
  have hosts : (record result host.id).hosts = exchange.hosts := by rw [goes.frame]
  have stage : (record result host.id).stage = .gathering := by
    rw [goes.frame]
    exact gathers
  have fewer : (record result host.id).work exchange.hosts < exchange.work exchange.hosts := by
    apply work_lt sound.ids member
    · rw [pushes_record_self]
      have now : (record result host.id).load host result.2 = result.1.load host result.2 :=
        load_congr _ fun _ => rfl
      have short := goes.load
      omega
    · intro row different
      rw [goes.pushes_of_ne different]
      exact load_congr _ fun service => goes.beside.call different service
  refine ⟨by simp [stage], ?_⟩
  rw [left, left, stage, gathers, hosts]
  dsimp only
  omega

/-- Where the timer is to stop and its rows are read, each of its sections leaves less of them. -/
theorem ends (sound : exchange.Sound vm) (stop : exchange.stop = true)
    (read : exchange.stage ≠ .reading) {event : Event} (own : event.own = true)
    (ran : next vm exchange event = some after) :
    after.stage ≠ .reading ∧ after.left < exchange.left := by
  cases event with
  | read | unread | request | stop => contradiction
  | wake =>
      simp only [next] at ran
      have ended (elsewhere : exchange.stage = .created ∨ exchange.stage = .waiting) :
          exchange.turn.stage ≠ .reading ∧ exchange.turn.left < exchange.left := by
        have open_ : exchange.closed = false := by
          by_contra shut
          have gone := sound.closed (Bool.not_eq_false _ ▸ shut)
          rcases elsewhere with stage | stage <;> simp [stage] at gone
        rw [turn, if_pos stop]
        rcases elsewhere with stage | stage <;> simp [left, stage, open_]
      split at ran
      · next stage =>
          obtain rfl := Option.some.inj ran
          exact ended (.inl stage)
      · next stage =>
          obtain rfl := Option.some.inj ran
          exact ended (.inr stage)
      all_goals contradiction
  | start host clock => exact sound.lessens (sound.starts ran)
  | resume id event clock => exact sound.lessens (sound.resumes ran)
  | gathered =>
      simp only [next] at ran
      split at ran
      · next stage =>
          split at ran
          · obtain rfl := Option.some.inj ran
            refine ⟨by simp, ?_⟩
            simp only [left, stage]
            omega
          · contradiction
      all_goals contradiction
  | close =>
      simp only [next] at ran
      split at ran
      · next ready =>
          obtain rfl := Option.some.inj ran
          refine ⟨read, ?_⟩
          simp [left, ready.2.1, ready.2.2]
      · contradiction

/-- One of them can run until the client is closed. -/
theorem goes_on (sound : exchange.Sound vm) (stop : exchange.stop = true)
    (read : exchange.stage ≠ .reading) (opened : exchange.closed = false) :
    ∃ event : Event, event.own = true ∧ (next vm exchange event).isSome := by
  cases stage : exchange.stage with
  | reading => exact absurd stage read
  | created => exact ⟨.wake, rfl, by simp [next, stage]⟩
  | waiting => exact ⟨.wake, rfl, by simp [next, stage]⟩
  | ended => exact ⟨.close, rfl, by simp [next, stage, stop, opened]⟩
  | gathering =>
      by_cases returned : ∀ host ∈ exchange.hosts, (exchange.pushes host.id).returned = true
      · refine ⟨.gathered, rfl, ?_⟩
        simp only [next, stage]
        rw [if_pos returned]
        rfl
      obtain ⟨host, member, waits⟩ : ∃ host ∈ exchange.hosts,
          (exchange.pushes host.id).returned = false := by
        simpa only [not_forall, exists_prop, Bool.not_eq_true] using returned
      cases push : exchange.pushes host.id with
      | done | failed =>
          rw [push] at waits
          contradiction
      | created =>
          exact ⟨.start host fun _ _ => 0, rfl, by simp [next, member, push]⟩
      | awaiting service rest =>
          obtain ⟨-, row, present, same, active⟩ := sound.listed waits
          have stands := sound.stands row present active
          rw [same, push] at stands
          obtain ⟨earlier, entry, -, -, -, -, known, call, called, -, flying⟩ := stands
          obtain ⟨needsValue, needs⟩ := Option.isSome_iff_exists.mp known
          obtain ⟨event, caller, ran⟩ := Secrets.exists_next needsValue called flying
          refine ⟨.resume host.id event fun _ _ => 0, rfl, ?_⟩
          rw [same] at needs ran
          rw [next, push, needs]
          dsimp only
          rw [if_pos caller, Option.isSome_map]
          exact ran

end Sound

/-- Once `lifespan` has ordered the timer to stop and the rows of its round are read, the sections
of the timer up to the closed client are bounded, and one of them can run until then, whatever the
issuers and the providers answer. -/
theorem timer_stops (reach : (machine vm).Reaches (fun _ _ => True) {} exchange)
    (stop : exchange.stop = true) (read : exchange.stage ≠ .reading) (events : List Event)
    (own : ∀ event ∈ events, event.own = true)
    (ran : (machine vm).run exchange events = some after) :
    events.length ≤ exchange.left ∧
      (after.closed = false →
        ∃ event : Event, event.own = true ∧ (next vm after event).isSome) := by
  have kept := Machine.length_le_of_run events
    (fun {event before later}
      (holds : before.Sound vm ∧ before.stop = true ∧ before.stage ≠ .reading)
      (mine : event.own = true) step =>
        have ⟨sound, stays⟩ := holds.1.step step
        have ⟨reads, less⟩ := holds.1.ends holds.2.1 holds.2.2 mine step
        ⟨⟨sound, (stays holds.2.1).1, reads⟩, less⟩)
    ⟨sound_of_reaches reach, stop, read⟩ own ran
  obtain ⟨⟨sound, stops, reads⟩, bound⟩ := kept
  exact ⟨by omega, fun opened => sound.goes_on stops reads opened⟩

theorem timer_stops_fetching :
    ∃ exchange, (machine fun _ => some true).Reaches (fun _ _ => True) {} exchange ∧
      finishing.length ≤ exchange.left := by
  have reach : (machine fun _ => some true).Reaches (fun _ _ => True) {} _ :=
    Machine.reaches_of_run fetching (by simp) rfl
  exact ⟨_, reach, (timer_stops reach rfl nofun finishing (by decide) rfl).1⟩

end Exchange

end Drukbox.SecretsExchange
