import Drukbox.Await.Contract
import Drukbox.Hosts.Ownership
import Drukbox.Hosts.Pool
import Mathlib.Algebra.BigOperators.Group.List.Basic
import Mathlib.Algebra.GroupWithZero.Nat

/-!
# The plan of a tick

The top-up goes round the underfilled providers, one create for each, until the deficits or the
budget are used up.  So after some full rounds a provider has its deficit or as many creates as
there were rounds, and the last round may stop on the way. -/

namespace Drukbox

open Await

namespace Pool

/-- The `while` loop of the top-up, from its deficits and its batch to the batch that it leaves. -/
inductive Loops (budget : ℕ) : Dict ℕ → List String → List String → Prop
  | exit {deficits : Dict ℕ} {batch : List String} (met : deficits = [] ∨ budget ≤ batch.length) :
      Loops budget deficits batch batch
  | round {deficits : Dict ℕ} {batch result : List String} (unmet : deficits ≠ [])
      (within : batch.length < budget)
      (rest : Loops budget (topUpRound budget deficits batch).1 (topUpRound budget deficits batch).2
        result) :
      Loops budget deficits batch result

/-- A deficit after one create. -/
def spend (item : String × ℕ) : Option (String × ℕ) :=
  if item.2 = 1 then none else some (item.1, item.2 - 1)

theorem topUpRound_eq {budget : ℕ} (deficits : Dict ℕ) (batch : List String)
    (within : batch.length ≤ budget) :
    topUpRound budget deficits batch =
      ((deficits.take (budget - batch.length)).filterMap spend ++
          deficits.drop (budget - batch.length),
        batch ++ (deficits.take (budget - batch.length)).map Prod.fst) := by
  induction deficits generalizing batch with
  | nil => simp [topUpRound]
  | cons item rest ih =>
      obtain ⟨provider, deficit⟩ := item
      by_cases full : batch.length = budget
      · simp [topUpRound, full]
      · have longer : (batch ++ [provider]).length ≤ budget := by
          rw [List.length_append, List.length_singleton]
          omega
        obtain ⟨left, same⟩ : ∃ left, budget - batch.length = left + 1 :=
          ⟨budget - batch.length - 1, by omega⟩
        have fewer : budget - (batch ++ [provider]).length = left := by
          rw [List.length_append, List.length_singleton]
          omega
        simp only [topUpRound, if_neg full, ih _ longer, fewer, same, List.take_succ_cons,
          List.drop_succ_cons, List.map_cons, List.append_assoc, List.singleton_append]
        by_cases last : deficit = 1
        · simp [last, spend]
        · simp [last, spend]

/-- Where the loop stands after some full rounds: `deficit` is what each provider lacked before. -/
structure Rounds (deficit : String → ℕ) (total rounds : ℕ) (deficits : Dict ℕ)
    (batch : List String) : Prop where
  left : ∀ item ∈ deficits, 0 < item.2 ∧ item.2 + rounds = deficit item.1
  served : ∀ provider, batch.count provider = min rounds (deficit provider)
  unserved : ∀ provider, rounds < deficit provider → provider ∈ deficits.map Prod.fst
  unique : (deficits.map Prod.fst).Nodup
  balance : batch.length + (deficits.map Prod.snd).sum = total

/-- A batch that the rounds make: it is as long as it may be, and no provider is two rounds ahead of
another that still lacks a host. -/
structure Spread (deficit : String → ℕ) (total budget : ℕ) (batch : List String) : Prop where
  length : batch.length = min budget total
  even : ∃ rounds, ∀ provider, min rounds (deficit provider) ≤ batch.count provider ∧
    batch.count provider ≤ min (rounds + 1) (deficit provider)

section Rounds

variable {deficit : String → ℕ} {total rounds budget : ℕ} {deficits : Dict ℕ}
  {batch : List String}

theorem length_le_sum (positive : ∀ item ∈ deficits, 0 < item.2) :
    deficits.length ≤ (deficits.map Prod.snd).sum := by
  induction deficits with
  | nil => exact le_rfl
  | cons item rest ih =>
      have here := positive item List.mem_cons_self
      have there := ih fun other member => positive other (List.mem_cons_of_mem _ member)
      rw [List.length_cons, List.map_cons, List.sum_cons]
      omega

/-- Each create of a round is one deficit less. -/
theorem sum_spend (positive : ∀ item ∈ deficits, 0 < item.2) :
    ((deficits.filterMap spend).map Prod.snd).sum + deficits.length =
      (deficits.map Prod.snd).sum := by
  induction deficits with
  | nil => rfl
  | cons item rest ih =>
      obtain ⟨provider, deficit⟩ := item
      have here : 0 < deficit := positive _ List.mem_cons_self
      have there := ih fun other member => positive other (List.mem_cons_of_mem _ member)
      rw [List.length_cons, List.map_cons, List.sum_cons]
      by_cases last : deficit = 1
      · simp only [List.filterMap_cons, spend, last, if_true]
        omega
      · simp only [List.filterMap_cons, spend, last, if_false, List.map_cons, List.sum_cons]
        omega

theorem mem_spend (positive : ∀ item ∈ deficits, 0 < item.2) {provider : String} {left : ℕ} :
    (provider, left) ∈ deficits.filterMap spend ↔ (provider, left + 1) ∈ deficits ∧ left ≠ 0 := by
  simp only [List.mem_filterMap, spend, Option.ite_none_left_eq_some, Option.some.injEq,
    Prod.mk.injEq, Prod.exists]
  constructor
  · rintro ⟨_, before, member, several, rfl, rfl⟩
    have lacking : 0 < before := positive _ member
    refine ⟨?_, by omega⟩
    rwa [Nat.sub_add_cancel lacking]
  · rintro ⟨member, lacking⟩
    exact ⟨provider, left + 1, member, by omega, rfl, by omega⟩

theorem spend_sublist (deficits : Dict ℕ) :
    ((deficits.filterMap spend).map Prod.fst).Sublist (deficits.map Prod.fst) := by
  induction deficits with
  | nil => exact .slnil
  | cons item rest ih =>
      obtain ⟨provider, deficit⟩ := item
      by_cases last : deficit = 1
      · simpa [spend, last] using ih.cons provider
      · simpa [spend, last] using ih

theorem topUpRounds_of_exit (fuel : ℕ) (met : deficits = [] ∨ budget ≤ batch.length) :
    topUpRounds budget fuel deficits batch = batch := by
  cases fuel with
  | zero => rfl
  | succ fuel => rw [topUpRounds, if_pos met]

namespace Rounds

variable (stands : Rounds deficit total rounds deficits batch)
include stands

theorem positive : ∀ item ∈ deficits, 0 < item.2 :=
  fun item member => (stands.left item member).1

theorem mem_iff {provider : String} :
    provider ∈ deficits.map Prod.fst ↔ rounds < deficit provider := by
  refine ⟨fun member => ?_, stands.unserved provider⟩
  obtain ⟨item, held, rfl⟩ := List.mem_map.mp member
  obtain ⟨lacking, same⟩ := stands.left item held
  omega

theorem full : Rounds deficit total (rounds + 1) (deficits.filterMap spend)
    (batch ++ deficits.map Prod.fst) where
  left := by
    rintro ⟨provider, lacks⟩ member
    obtain ⟨before, lacking⟩ := (mem_spend stands.positive).mp member
    have same := (stands.left _ before).2
    dsimp only at same ⊢
    omega
  served provider := by
    rw [List.count_append, stands.served provider]
    by_cases lacks : rounds < deficit provider
    · have once := List.count_eq_one_of_mem stands.unique (stands.mem_iff.mpr lacks)
      omega
    · have never := List.count_eq_zero_of_not_mem fun member => lacks (stands.mem_iff.mp member)
      omega
  unserved provider lacks := by
    obtain ⟨⟨_, before⟩, member, rfl⟩ :=
      List.mem_map.mp (stands.unserved provider (by omega))
    have same := (stands.left _ member).2
    dsimp only at same lacks ⊢
    obtain ⟨left, rfl⟩ : ∃ left, before = left + 1 := ⟨before - 1, by omega⟩
    exact List.mem_map.mpr ⟨_, (mem_spend stands.positive).mpr ⟨member, by omega⟩, rfl⟩
  unique := stands.unique.sublist (spend_sublist deficits)
  balance := by
    have spent := sum_spend stands.positive
    have before := stands.balance
    rw [List.length_append, List.length_map]
    omega

/-- The batch of a round that stops on the way, or of no round at all. -/
theorem spread {served : List String} (some_served : served.Sublist (deficits.map Prod.fst))
    (length : batch.length + served.length = min budget total) :
    Spread deficit total budget (batch ++ served) where
  length := by rwa [List.length_append]
  even := by
    refine ⟨rounds, fun provider => ?_⟩
    rw [List.count_append, stands.served provider]
    have fewer := some_served.count_le provider
    by_cases lacks : rounds < deficit provider
    · have once := List.count_eq_one_of_mem stands.unique (stands.mem_iff.mpr lacks)
      omega
    · have never := List.count_eq_zero_of_not_mem fun member => lacks (stands.mem_iff.mp member)
      omega

theorem exit (within : batch.length ≤ budget) (met : deficits = [] ∨ budget ≤ batch.length) :
    Spread deficit total budget batch := by
  have balance := stands.balance
  have spread : Spread deficit total budget (batch ++ []) := stands.spread (List.nil_sublist _) (by
    obtain rfl | full := met
    · rw [List.map_nil, List.sum_nil] at balance
      rw [List.length_nil]
      omega
    · rw [List.length_nil]
      omega)
  rwa [List.append_nil] at spread

end Rounds

/-- The loop ends, with a batch that its rounds make. -/
theorem Rounds.loops (stands : Rounds deficit total rounds deficits batch) (fuel : ℕ)
    (within : batch.length ≤ budget) (enough : budget ≤ batch.length + fuel) :
    Loops budget deficits batch (topUpRounds budget fuel deficits batch) ∧
      Spread deficit total budget (topUpRounds budget fuel deficits batch) := by
  induction fuel generalizing rounds deficits batch with
  | zero => exact ⟨.exit (.inr enough), stands.exit within (.inr enough)⟩
  | succ fuel ih =>
  by_cases met : deficits = [] ∨ budget ≤ batch.length
  · rw [topUpRounds_of_exit _ met]
    exact ⟨.exit met, stands.exit within met⟩
  · obtain ⟨unmet, short⟩ := not_or.mp met
    have round := topUpRound_eq deficits batch within
    rw [topUpRounds, if_neg met]
    have loops {result : List String}
        (rest : Loops budget (topUpRound budget deficits batch).1
          (topUpRound budget deficits batch).2 result) :
        Loops budget deficits batch result := .round unmet (by omega) rest
    by_cases stops : budget - batch.length ≤ deficits.length
    · -- The budget ends in this round.
      have length : (batch ++ (deficits.take (budget - batch.length)).map Prod.fst).length =
          budget := by
        rw [List.length_append, List.length_map, List.length_take]
        omega
      rw [round] at loops ⊢
      dsimp only at loops ⊢
      rw [topUpRounds_of_exit _ (.inr length.ge)]
      refine ⟨loops (.exit (.inr length.ge)), stands.spread ?_ ?_⟩
      · exact (List.take_sublist _ _).map _
      · have balance := stands.balance
        have lacking := length_le_sum stands.positive
        rw [List.length_append] at length
        omega
    · have whole : deficits.length ≤ budget - batch.length := by omega
      rw [List.take_of_length_le whole, List.drop_of_length_le whole, List.append_nil] at round
      have longer := List.length_pos_iff.mpr unmet
      obtain ⟨ended, spread⟩ := ih stands.full
        (by rw [List.length_append, List.length_map]; omega)
        (by rw [List.length_append, List.length_map]; omega)
      rw [round] at loops ⊢
      exact ⟨loops ended, spread⟩

end Rounds

/-- What a provider lacks. -/
def deficit (targets counts : Dict ℕ) (provider : String) : ℕ :=
  current targets provider - current counts provider

/-- The creates of a tick, as they should be. -/
structure TopsUp (targets counts : Dict ℕ) (cap : ℕ) (order batch : List String) : Prop where
  /-- The loop ends with this batch. -/
  ends : Loops cap (order.map fun provider => (provider, deficit targets counts provider)) [] batch
  /-- As many creates as the deficits need and the cap allows. -/
  length : batch.length =
    min cap (targets.map fun item => item.2 - current counts item.1).sum
  /-- Only providers with a deficit. -/
  lacking : ∀ provider ∈ batch, current counts provider < current targets provider
  /-- No more creates than a provider lacks. -/
  atMost : ∀ provider, batch.count provider ≤ deficit targets counts provider
  /-- A provider that is two creates behind another has all that it lacks. -/
  fair : ∀ provider other, current counts provider < current targets provider →
    current counts other < current targets other →
      batch.count other + 2 ≤ batch.count provider →
        batch.count other = deficit targets counts other

section TopUp

variable {targets counts : Dict ℕ} {order : List String} {cap : ℕ}

theorem current_of_mem (unique : (targets.map Prod.fst).Nodup) {provider : String} {target : ℕ}
    (member : (provider, target) ∈ targets) : current targets provider = target := by
  rw [current, Dict.lookup_of_mem unique member, Option.getD_some]

theorem mem_underfilled (unique : (targets.map Prod.fst).Nodup) {provider : String} :
    provider ∈ underfilled targets counts ↔
      current counts provider < current targets provider := by
  simp only [underfilled, List.mem_map, List.mem_filter, decide_eq_true_eq]
  constructor
  · rintro ⟨⟨_, target⟩, ⟨member, lacks⟩, rfl⟩
    rwa [current_of_mem unique member]
  · intro lacks
    cases found : targets.lookup provider with
    | none =>
        have untargeted : current targets provider = 0 := by rw [current, found, Option.getD_none]
        omega
    | some target =>
        have targeted : current targets provider = target := by
          rw [current, found, Option.getD_some]
        rw [targeted] at lacks
        exact ⟨(provider, target), ⟨Dict.mem_of_lookup found, lacks⟩, rfl⟩

theorem underfilled_nodup (unique : (targets.map Prod.fst).Nodup) :
    (underfilled targets counts).Nodup :=
  unique.sublist (List.filter_sublist.map _)

/-- The deficits of the underfilled providers are all that is lacking. -/
theorem sum_underfilled (unique : (targets.map Prod.fst).Nodup) :
    ((underfilled targets counts).map (deficit targets counts)).sum =
      (targets.map fun item => item.2 - current counts item.1).sum := by
  have items : ∀ items : Dict ℕ, (∀ item ∈ items, current targets item.1 = item.2) →
      (((items.filter fun item => current counts item.1 < item.2).map Prod.fst).map
        (deficit targets counts)).sum =
          (items.map fun item => item.2 - current counts item.1).sum := by
    intro items same
    induction items with
    | nil => rfl
    | cons item rest ih =>
        have later := ih fun other member => same other (List.mem_cons_of_mem _ member)
        have target := same item List.mem_cons_self
        rw [List.map_cons, List.sum_cons, ← later]
        by_cases lacks : current counts item.1 < item.2
        · rw [List.filter_cons_of_pos (by simpa using lacks), List.map_cons, List.map_cons,
            List.sum_cons, deficit, target]
        · rw [List.filter_cons_of_neg (by simpa using lacks)]
          omega
  exact items targets fun item member => current_of_mem unique member

/-- The deficits before the first round. -/
theorem rounds_initial (unique : (targets.map Prod.fst).Nodup)
    (perm : order.Perm (underfilled targets counts)) :
    Rounds (deficit targets counts) (targets.map fun item => item.2 - current counts item.1).sum 0
      (order.map fun provider => (provider, deficit targets counts provider)) [] where
  left := by
    intro item member
    obtain ⟨provider, listed, rfl⟩ := List.mem_map.mp member
    have lacks := (mem_underfilled unique).mp (perm.mem_iff.mp listed)
    refine ⟨?_, rfl⟩
    rw [deficit]
    omega
  served provider := by rw [List.count_nil, Nat.zero_min]
  unserved provider lacks := by
    rw [List.map_map]
    refine List.mem_map.mpr ⟨provider, perm.mem_iff.mpr ((mem_underfilled unique).mpr ?_), rfl⟩
    rw [deficit] at lacks
    omega
  unique := by
    rw [List.map_map]
    simpa [Function.comp_def] using (perm.nodup_iff.mpr (underfilled_nodup unique))
  balance := by
    rw [List.length_nil, Nat.zero_add, List.map_map, ← sum_underfilled unique]
    exact (perm.map _).sum_eq

/-- The batch of a tick tops up as it should. -/
theorem batch_topsUp (unique : (targets.map Prod.fst).Nodup)
    (perm : order.Perm (underfilled targets counts)) :
    TopsUp targets counts cap order (batch targets counts cap order) := by
  have made :
      Loops cap (order.map fun provider => (provider, deficit targets counts provider)) []
          (batch targets counts cap order) ∧
        Spread (deficit targets counts) (targets.map fun item => item.2 - current counts item.1).sum
          cap (batch targets counts cap order) :=
    (rounds_initial unique perm).loops cap (Nat.zero_le _) (Nat.le_add_left _ _)
  obtain ⟨ends, spread⟩ := made
  obtain ⟨rounds, even⟩ := spread.even
  refine ⟨ends, spread.length, fun provider member => ?_, fun provider => ?_,
    fun provider other _ _ behind => ?_⟩
  · have served := List.count_pos_iff.mpr member
    have bound := (even provider).2
    rw [deficit] at bound
    omega
  · exact (even provider).2.trans (min_le_right _ _)
  · have ahead := (even provider).2
    have least := (even other).1
    have most := (even other).2
    omega

end TopUp

/-- A warm host of a provider, as the count and the selection of the excess see it. -/
def eligible (provider : String) (now : ℤ) (host : Host) : Bool :=
  host.provider == provider && host.warm now

/-- The listed hosts of a provider. -/
def shedOf (hosts : Table HostId Host) (provider : String) (ids : List HostId) : List HostId :=
  ids.filter fun id => (hosts.get id).any fun host => host.provider == provider

/-- The count and the sheds of a tick, as they should be over these rows. -/
structure Sheds (hosts : Table HostId Host) (targets : Dict ℕ) (now : ℤ) (counts : Dict ℕ)
    (ids : List HostId) : Prop where
  /-- Every provider's warm hosts are counted. -/
  counted : ∀ provider, current counts provider = hosts.count (eligible provider now)
  /-- The listed hosts of a provider are its oldest warm hosts, as many as it has above its
  target. -/
  oldest : ∀ provider, HostQuery.Oldest hosts (eligible provider now)
    (current counts provider - current targets provider) (shedOf hosts provider ids)
  /-- Nothing but warm hosts is listed. -/
  warm : ∀ id ∈ ids, ∃ host, hosts.get id = some host ∧ host.warm now
  /-- Without the listed hosts, a provider has its target, or what it had if that was less. -/
  kept : ∀ provider, (ids.foldl Table.erase hosts).count (eligible provider now) =
    min (current counts provider) (current targets provider)

/-- The answer comes from a state with these host rows. -/
def Reads (deployment : Deployment) (hosts : Table HostId Host) (op : Op) (answer : op.Answer) :
    Prop :=
  ∃ (ι : Type) (_ : DecidableEq ι) (task : ι) (choice : Choice) (state after : State ι),
    state.hosts = hosts ∧ deployment.perform task op choice state = some (answer, after)

/-- Whatever the other tasks do, the host rows are these at every step. -/
def unchanged (deployment : Deployment) (hosts : Table HostId Host) :
    Contract Op.Answer Unit where
  allows _ _ := True
  expects _ op answer := Reads deployment hosts op answer
  next _ _ _ := ()

section Shed

variable {deployment : Deployment} {hosts : Table HostId Host} {targets counts : Dict ℕ} {now : ℤ}
  {ids : List HostId} {provider : String}

theorem current_of_reads (reads : Reads deployment hosts (.hosts (.warm now)) counts)
    (provider : String) : current counts provider = hosts.count (eligible provider now) := by
  obtain ⟨ι, _, task, choice, state, after, rfl, performed⟩ := reads
  have performed : (HostQuery.warm now).perform task choice state =
    some (counts, after) := performed
  cases choice with
  | go | number | numbers | text | environment | vm | failed => cases performed
  | names providers =>
  simp only [HostQuery.perform, Option.ite_none_right_eq_some, Option.some.injEq,
    Prod.mk.injEq] at performed
  obtain ⟨⟨unique, listed⟩, rfl, -⟩ := performed
  by_cases member : provider ∈ providers
  · refine current_of_mem ?_ (List.mem_map.mpr ⟨provider, member, rfl⟩)
    rw [List.map_map]
    simpa [Function.comp_def] using unique
  · have unlisted : (providers.map fun provider =>
        (provider, state.hosts.count fun host => host.provider == provider && host.warm now)).lookup
          provider = none := by
      refine List.lookup_eq_none_iff.mpr fun item found => ?_
      obtain ⟨other, held, rfl⟩ := List.mem_map.mp found
      have different : provider ≠ other := fun same => member (same ▸ held)
      simpa using different
    have cold : state.hosts.count (eligible provider now) = 0 := by
      refine Finset.card_eq_zero.mpr (Finset.filter_eq_empty_iff.mpr fun id key counted => ?_)
      obtain ⟨host, row, eligible⟩ := (Option.any_eq_true _ _).mp counted
      obtain ⟨same, warm⟩ := Bool.and_eq_true_iff.mp eligible
      have present : provider ∈ providers.toFinset := by
        rw [listed]
        refine Finset.mem_image.mpr ⟨id, Finset.mem_filter.mpr ⟨key, ?_⟩, ?_⟩
        · rw [row]
          exact warm
        · rw [row]
          exact beq_iff_eq.mp same
      exact member (List.mem_toFinset.mp present)
    rw [current, unlisted, cold, Option.getD_none]

theorem oldest_of_reads {limit : ℕ}
    (reads : Reads deployment hosts (.hosts (.excess provider now limit)) ids) :
    HostQuery.Oldest hosts (eligible provider now) limit ids := by
  obtain ⟨ι, _, task, choice, state, after, rfl, performed⟩ := reads
  have performed : (HostQuery.excess provider now limit).perform task choice state =
    some (ids, after) := performed
  cases choice with
  | go | number | names | text | environment | vm | failed => cases performed
  | numbers listed =>
  simp only [HostQuery.perform, Option.ite_none_right_eq_some, Option.some.injEq,
    Prod.mk.injEq] at performed
  obtain ⟨oldest, rfl, -⟩ := performed
  exact oldest

theorem oldest_nil (good : Host → Bool) : HostQuery.Oldest hosts good 0 [] := by
  refine ⟨List.nodup_nil, ?_, nofun, .nil⟩
  rw [List.length_nil, Nat.zero_min]

/-- Every listed host of a provider's selection is one of its warm hosts. -/
theorem eligible_of_oldest {limit : ℕ} {good : Host → Bool}
    (oldest : HostQuery.Oldest hosts good limit ids) {id : HostId} (member : id ∈ ids) :
    ∃ host, hosts.get id = some host ∧ good host := by
  obtain ⟨host, row, holds⟩ := (Option.any_eq_true _ _).mp (oldest.2.2.1 id member)
  exact ⟨host, row, (Bool.and_eq_true_iff.mp holds).1⟩

/-- What is listed after the selections of some providers. -/
structure Listed (hosts : Table HostId Host) (targets counts : Dict ℕ) (now : ℤ)
    (providers : List String) (ids : List HostId) : Prop where
  unique : ids.Nodup
  oldest : ∀ provider ∈ providers, HostQuery.Oldest hosts (eligible provider now)
    (current counts provider - current targets provider) (shedOf hosts provider ids)
  none_else : ∀ provider, provider ∉ providers → shedOf hosts provider ids = []
  warm : ∀ id ∈ ids, ∃ host, hosts.get id = some host ∧ host.warm now

theorem Listed.skip {providers : List String}
    (listed : Listed hosts targets counts now providers ids) (fresh : provider ∉ providers)
    (full : current counts provider - current targets provider = 0) :
    Listed hosts targets counts now (provider :: providers) ids where
  unique := listed.unique
  oldest other member := by
    obtain rfl | member := List.mem_cons.mp member
    · rw [full, listed.none_else other fresh]
      exact oldest_nil _
    · exact listed.oldest other member
  none_else other absent := listed.none_else other fun member => absent (.tail _ member)
  warm := listed.warm

theorem Listed.cons {providers : List String} {later : List HostId}
    (listed : Listed hosts targets counts now providers later) (fresh : provider ∉ providers)
    (oldest : HostQuery.Oldest hosts (eligible provider now)
      (current counts provider - current targets provider) ids) :
    Listed hosts targets counts now (provider :: providers) (ids ++ later) := by
  have mine (id : HostId) (member : id ∈ ids) :
      ∃ host, hosts.get id = some host ∧ host.provider = provider ∧ host.warm now := by
    obtain ⟨host, row, holds⟩ := eligible_of_oldest oldest member
    obtain ⟨same, warm⟩ := Bool.and_eq_true_iff.mp holds
    exact ⟨host, row, beq_iff_eq.mp same, warm⟩
  have own : shedOf hosts provider ids = ids :=
    List.filter_eq_self.mpr fun id member => by
      obtain ⟨host, row, same, -⟩ := mine id member
      simp [row, same]
  have others {other : String} (different : other ≠ provider) : shedOf hosts other ids = [] :=
    List.filter_eq_nil_iff.mpr fun id member => by
      obtain ⟨host, row, same, -⟩ := mine id member
      simp [row, same, different.symm]
  have split (other : String) : shedOf hosts other (ids ++ later) =
      shedOf hosts other ids ++ shedOf hosts other later := List.filter_append ..
  refine ⟨List.nodup_append.mpr ⟨oldest.1, listed.unique, fun id member other there same => ?_⟩,
    fun other member => ?_, fun other absent => ?_, fun id member => ?_⟩
  · obtain ⟨host, row, named, -⟩ := mine id member
    have unlisted := List.filter_eq_nil_iff.mp (listed.none_else provider fresh) other there
    rw [← same, row] at unlisted
    simp [named] at unlisted
  · rw [split]
    by_cases same : other = provider
    · subst same
      rwa [own, listed.none_else other fresh, List.append_nil]
    · rw [others same, List.nil_append]
      exact listed.oldest other ((List.mem_cons.mp member).resolve_left same)
  · rw [split, others (fun same => absent (same ▸ List.mem_cons_self)), List.nil_append]
    exact listed.none_else other fun member => absent (.tail _ member)
  · obtain member | member := List.mem_append.mp member
    · obtain ⟨host, row, -, warm⟩ := mine id member
      exact ⟨host, row, warm⟩
    · exact listed.warm id member

theorem excessIds_listed {providers : List String} (unique : providers.Nodup) :
    Follows (unchanged deployment hosts)
      (Ends (fun _ => False) fun _ ids => Listed hosts targets counts now providers ids) ()
      (excessIds targets counts now providers) := by
  induction providers with
  | nil => exact ⟨List.nodup_nil, nofun, fun _ _ => rfl, nofun⟩
  | cons provider rest ih =>
      obtain ⟨fresh, unique⟩ := List.nodup_cons.mp unique
      unfold excessIds
      dsimp only
      split
      · next full => exact (ih unique).returns fun _ _ listed => listed.skip fresh full
      · refine .step trivial fun ids reads => .seq (ih unique) fun _ later listed => ?_
        exact listed.cons fresh (oldest_of_reads reads)

/-- What the selections of every provider list is what the tick should shed. -/
theorem Listed.sheds {providers : List String}
    (counted : ∀ provider, current counts provider = hosts.count (eligible provider now))
    (listed : Listed hosts targets counts now providers ids)
    (whole : ∀ provider, provider ∉ providers → current counts provider = 0) :
    Sheds hosts targets now counts ids := by
  have oldest (provider : String) : HostQuery.Oldest hosts (eligible provider now)
      (current counts provider - current targets provider) (shedOf hosts provider ids) := by
    by_cases member : provider ∈ providers
    · exact listed.oldest provider member
    · rw [listed.none_else provider member, whole provider member, Nat.zero_sub]
      exact oldest_nil _
  refine ⟨counted, oldest, listed.warm, fun provider => ?_⟩
  have shed : (ids.filter fun id => (hosts.get id).any (eligible provider now)) =
      shedOf hosts provider ids := by
    refine List.filter_congr fun id member => ?_
    obtain ⟨host, row, warm⟩ := listed.warm id member
    rw [row, Option.any_some, Option.any_some, eligible, warm, Bool.and_true]
  have balance := Table.count_foldl_erase ids listed.unique hosts (eligible provider now)
  have length := (oldest provider).2.1
  have all := counted provider
  rw [shed] at balance
  omega

theorem survey_follows (targets : Dict ℕ) (now : ℤ) :
    Follows (unchanged deployment hosts)
      (Ends (fun _ => False) fun _ plan => Sheds hosts targets now plan.1 plan.2) ()
      (survey targets now) := by
  unfold survey
  refine .closing ?_
  have planned : Follows (unchanged deployment hosts)
      (Ends (fun _ => False) fun _ plan => Sheds hosts targets now plan.1 plan.2) () (do
        let counts ← Task.hosts (.warm now)
        let providers := ((counts ++ targets).map Prod.fst).dedup.mergeSort (· ≤ ·)
        let ids ← excessIds targets counts now providers
        return (counts, ids)) := by
    refine .step trivial fun counts reads => ?_
    have counted := current_of_reads reads
    have unique : (((counts ++ targets).map Prod.fst).dedup.mergeSort (· ≤ ·)).Nodup :=
      (List.mergeSort_perm _ _).nodup_iff.mpr (List.nodup_dedup _)
    refine .seq (excessIds_listed unique) fun _ ids listed => ?_
    refine listed.sheds counted fun provider absent => ?_
    have unlisted : counts.lookup provider = none := by
      refine List.lookup_eq_none_iff.mpr fun item member => ?_
      have different : provider ≠ item.1 := fun same => absent <| by
        rw [List.mem_mergeSort, List.mem_dedup, same]
        exact List.mem_map_of_mem (List.mem_append_left _ member)
      simpa using different
    rw [current, unlisted, Option.getD_none]
  refine planned.weaken fun _ outcome ended => ⟨trivial, fun _ _ => ?_⟩
  cases outcome with
  | ok plan => exact ended
  | error failure => exact ended.elim

end Shed

section Maintain

/-- What a tick plans, and what it plans it from. -/
structure Plan where
  now : ℤ
  counts : Dict ℕ
  order : List String
  batch : List String
  excessIds : List HostId

/-- `_maintain` up to its batch. -/
def plan (cap : ℕ) (targets : Dict ℕ) : Task Plan := do
  let now ← Task.clock
  let (counts, excessIds) ← survey targets now
  let order ← Task.outside (.shuffle (underfilled targets counts))
  return { now, counts, order, batch := batch targets counts cap order, excessIds }

/-- `_maintain` from its batch on. -/
def carryOut (deployment : Deployment) (targets : Dict ℕ) (plan : Plan) :
    Task PoolMaintenanceSummary := do
  let created ← topUp deployment plan.batch 0 0
  let removedExcess ← shedEach deployment plan.excessIds 0
  return { created, removedExcess, targets }

/-- The plan of a tick is as it should be over these rows. -/
structure Planned (hosts : Table HostId Host) (targets : Dict ℕ) (cap : ℕ) (plan : Plan) :
    Prop where
  shuffled : plan.order.Perm (underfilled targets plan.counts)
  topsUp : TopsUp targets plan.counts cap plan.order plan.batch
  sheds : Sheds hosts targets plan.now plan.counts plan.excessIds

variable {deployment : Deployment} {hosts : Table HostId Host} {targets : Dict ℕ} {cap : ℕ}

/-- A tick carries out its plan, and nothing else. -/
theorem maintain_eq (deployment : Deployment) (targets : Dict ℕ) :
    maintain deployment targets =
      (plan deployment.settings.poolMaxCreatesPerTick targets).bind
        (carryOut deployment targets) := by
  simp only [maintain, plan, Program.bind_eq_bind, Program.bind_assoc, Program.pure_eq_done,
    Program.done_bind]
  rfl

theorem perm_of_reads {names order : List String}
    (reads : Reads deployment hosts (.outside (.shuffle names)) order) : order.Perm names := by
  obtain ⟨ι, _, task, choice, state, after, -, performed⟩ := reads
  obtain ⟨answer, answered, same⟩ := Option.map_eq_some_iff.mp performed
  obtain ⟨rfl, -⟩ := Prod.mk.inj same
  cases choice with
  | names listed =>
      simp only [OutsideCall.answer, Option.ite_none_right_eq_some, Option.some.injEq] at answered
      obtain ⟨perm, rfl⟩ := answered
      exact perm
  | go | number | numbers | text | environment | vm | failed => cases answered

theorem plan_follows (unique : (targets.map Prod.fst).Nodup) :
    Follows (unchanged deployment hosts)
      (Ends (fun _ => False) fun _ plan => Planned hosts targets cap plan) ()
      (plan cap targets) := by
  refine .step trivial fun now _ => .seq (survey_follows targets now) fun _ surveyed sheds => ?_
  refine .step trivial fun order reads => ?_
  have perm := perm_of_reads reads
  exact ⟨perm, batch_topsUp unique perm, sheds⟩

/-- A tick creates what its budget allows of the deficits, spread over the providers, and sheds what
is above the targets: it plans so, and carries out its plan. -/
theorem maintain_plans (deployment : Deployment) (hosts : Table HostId Host) (targets : Dict ℕ)
    (unique : (targets.map Prod.fst).Nodup) :
    (∀ (counts : Dict ℕ) (cap : ℕ) (order : List String),
        order.Perm (underfilled targets counts) →
          TopsUp targets counts cap order (batch targets counts cap order)) ∧
      maintain deployment targets =
        (plan deployment.settings.poolMaxCreatesPerTick targets).bind
          (carryOut deployment targets) ∧
      Follows (unchanged deployment hosts)
        (Ends (fun _ => False) fun _ plan =>
          Planned hosts targets deployment.settings.poolMaxCreatesPerTick plan) ()
        (plan deployment.settings.poolMaxCreatesPerTick targets) :=
  ⟨fun _ _ _ perm => batch_topsUp unique perm, maintain_eq deployment targets,
    plan_follows unique⟩

/-- Two warm hosts of one provider. -/
def twoWarm : Table HostId Host :=
  (Table.empty.insert 1 { Host.sample 1 with provider := "aws" }).insert 2
    { Host.sample 2 with provider := "aws", createdAt := 3 }

theorem reads_twoWarm {op : Op} {answer : op.Answer} (choice : Choice)
    (performed : ((Deployment.sample.perform () op choice
      (.resting 5 twoWarm .empty .empty : State Unit)).map Prod.fst) = some answer) :
    Reads Deployment.sample twoWarm op answer := by
  obtain ⟨⟨value, after⟩, answered, rfl⟩ := Option.map_eq_some_iff.mp performed
  exact ⟨Unit, inferInstance, (), choice, .resting 5 twoWarm .empty .empty, after, rfl, answered⟩

/-- One of two providers has a host too many, and sheds its older one; the other lacks three, and
the budget allows one create. -/
theorem maintain_plans_two :
    batch [("aws", 1), ("exe", 3)] [("exe", 1)] 2 ["exe", "aws"] = ["exe", "aws"] ∧
      TopsUp [("aws", 1), ("exe", 3)] [("exe", 1)] 2 ["exe", "aws"] ["exe", "aws"] ∧
      Planned twoWarm [("aws", 1), ("exe", 3)] 1
        { now := 5, counts := [("aws", 2)], order := ["exe"], batch := ["exe"],
          excessIds := [1] } := by
  obtain ⟨topsUp, -, follows⟩ :=
    maintain_plans Deployment.sample twoWarm [("aws", 1), ("exe", 3)] (by decide)
  refine ⟨rfl, topsUp _ 2 ["exe", "aws"] (by decide), ?_⟩
  have clock := follows.2 (5 : ℤ) (reads_twoWarm .go rfl)
  have counted := clock.2 [("aws", 2)] (reads_twoWarm (.names ["aws"]) (by decide +kernel))
  have sorted : ((([("aws", 2)] ++ [("aws", 1), ("exe", 3)] : Dict ℕ).map Prod.fst).dedup.mergeSort
      fun first second => decide (first ≤ second)) = ["aws", "exe"] :=
    List.mergeSort_of_pairwise (by decide +kernel)
  simp only [Program.done_bind, sorted] at counted
  have selected := counted.2 [1] (reads_twoWarm (.numbers [1]) (by decide +kernel))
  have closed := selected.2 () (reads_twoWarm .go rfl)
  exact closed.2 ["exe"] (reads_twoWarm (.names ["exe"]) (by decide +kernel))

end Maintain

end Pool

end Drukbox
