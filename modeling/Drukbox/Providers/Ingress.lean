import Drukbox.Await.Contract
import Drukbox.Core
import Mathlib.Data.Finset.Card

/-!
# The SSH ingress of the managed security group

`_reconcile_ssh_ingress` compares the configured CIDR strings with the rules that it reads, adds
what is missing and revokes what is stale.  Several calls may do so at once, each from its own read.
EC2 stores a network in canonical form and refuses a request as a whole. -/

namespace Drukbox

open Await

namespace Ingress

/-- The error code for a rule that is there already. -/
def duplicateCode : String := "InvalidPermission.Duplicate"

/-- The error code for a rule that is not there. -/
def notFoundCode : String := "InvalidPermission.NotFound"

/-- What EC2 makes of CIDR strings. -/
structure Ec2 where
  /-- The form in which it stores a network. -/
  canonical : String → String
  canonical_canonical : ∀ cidr, canonical (canonical cidr) = canonical cidr
  /-- The error code for a request that names one network twice, if that is an error. -/
  repeated : Option String

variable {ec2 : Ec2}

/-- The tcp/22 IPv4 rules of the group. -/
structure Rules (ec2 : Ec2) where
  cidrs : Finset String
  stored : ∀ cidr ∈ cidrs, ec2.canonical cidr = cidr

/-- The networks of some CIDR strings, as EC2 stores them. -/
def Ec2.networks (ec2 : Ec2) (cidrs : Finset String) : Finset String :=
  cidrs.image ec2.canonical

namespace Rules

def add (rules : Rules ec2) (cidrs : Finset String) : Rules ec2 where
  cidrs := rules.cidrs ∪ ec2.networks cidrs
  stored cidr member := by
    rcases Finset.mem_union.mp member with held | added
    · exact rules.stored cidr held
    · obtain ⟨text, -, rfl⟩ := Finset.mem_image.mp added
      exact ec2.canonical_canonical text

def remove (rules : Rules ec2) (cidrs : Finset String) : Rules ec2 where
  cidrs := rules.cidrs \ ec2.networks cidrs
  stored cidr member := rules.stored cidr (Finset.mem_sdiff.mp member).1

@[simp] theorem add_cidrs (rules : Rules ec2) (cidrs : Finset String) :
    (rules.add cidrs).cidrs = rules.cidrs ∪ ec2.networks cidrs := rfl

@[simp] theorem remove_cidrs (rules : Rules ec2) (cidrs : Finset String) :
    (rules.remove cidrs).cidrs = rules.cidrs \ ec2.networks cidrs := rfl

end Rules

/-- `ClientError` or `BotoCoreError`: its error code and its text. -/
structure AwsError where
  code : String
  text : String
  deriving DecidableEq, Repr

/-- A call to EC2, on the group's tcp/22 rules. -/
inductive Op
  | describe
  | authorize (cidrs : Finset String)
  | revoke (cidrs : Finset String)

/-- What a call returns or raises. -/
@[reducible] def Op.Answer : Op → Type
  | describe => Except AwsError (Finset String)
  | authorize _ => Except AwsError Unit
  | revoke _ => Except AwsError Unit

/-- What happens to a call. -/
inductive Choice
  | served
  /-- It fails for another reason than the rules, before or after EC2 has served it. -/
  | failed (error : AwsError) (late : Bool)

/-- `authorize_security_group_ingress`. -/
def authorize (cidrs : Finset String) (rules : Rules ec2) : Except AwsError Unit × Rules ec2 :=
  if ¬ Disjoint (ec2.networks cidrs) rules.cidrs then (.error ⟨duplicateCode, ""⟩, rules)
  else
    match ec2.repeated with
    | none => (.ok (), rules.add cidrs)
    | some code =>
        if (ec2.networks cidrs).card < cidrs.card then (.error ⟨code, ""⟩, rules)
        else (.ok (), rules.add cidrs)

/-- `revoke_security_group_ingress`. -/
def revoke (cidrs : Finset String) (rules : Rules ec2) : Except AwsError Unit × Rules ec2 :=
  if ec2.networks cidrs ⊆ rules.cidrs then (.ok (), rules.remove cidrs)
  else (.error ⟨notFoundCode, ""⟩, rules)

/-- Serve a call. -/
def serve (rules : Rules ec2) : (op : Op) → op.Answer × Rules ec2
  | .describe => (.ok rules.cidrs, rules)
  | .authorize cidrs => authorize cidrs rules
  | .revoke cidrs => revoke cidrs rules

/-- The answer of a call that fails. -/
def Op.failed (error : AwsError) : (op : Op) → op.Answer
  | describe => .error error
  | authorize _ => .error error
  | revoke _ => .error error

/-- A call with its fate.  The two codes about rules are EC2's own answers only. -/
def perform (op : Op) (choice : Choice) (rules : Rules ec2) : Option (op.Answer × Rules ec2) :=
  match choice with
  | .served => some (serve rules op)
  | .failed error late =>
      if error.code = duplicateCode ∨ error.code = notFoundCode then none
      else some (op.failed error, if late then (serve rules op).2 else rules)

/-- Any number of callers on one group, which nobody else edits. -/
def system (ec2 : Ec2) (ι : Type) : System ι Op.Answer (Rules ec2) Choice Empty where
  perform _ := perform
  world := nofun
  abandon _ rules := rules

/-- A coroutine that calls EC2. -/
abbrev Task := Program Op.Answer Failure

/-- `raise AwsTransportError(f"{action} failed: {exc}")`. -/
def transportError (action : String) (error : AwsError) : Failure :=
  { kind := .provider, detail := action ++ " failed: " ++ error.text }

def currentSshCidrs : Task (Finset String) := do
  match ← Program.await Op.describe with
  | .ok cidrs => return cidrs
  | .error error => .raise (transportError "DescribeSecurityGroups" error)

/-- `except (ClientError, BotoCoreError)`, where one error code is no failure. -/
def tolerate (action code : String) : Except AwsError Unit → Task Unit
  | .ok _ => return
  | .error error => if error.code ≠ code then .raise (transportError action error) else return

/-- The end of `_reconcile_ssh_ingress`. -/
def revokeStale (toRevoke : Finset String) : Task Unit := do
  if toRevoke.Nonempty then
    tolerate "RevokeSecurityGroupIngress" notFoundCode (← Program.await (Op.revoke toRevoke))

def reconcileSshIngress (cidrs : List String) : Task Unit := do
  let desired := cidrs.toFinset
  let current ← currentSshCidrs
  let toAdd := desired \ current
  let toRevoke := current \ desired
  if toAdd.Nonempty then
    tolerate "AuthorizeSecurityGroupIngress" duplicateCode (← Program.await (Op.authorize toAdd))
  revokeStale toRevoke

/-- Every caller starts on the same rules, with the same CIDR strings. -/
def start (ι : Type) (rules : Rules ec2) (cidrs : List String) :
    Config ι Op.Answer (Rules ec2) Failure Unit where
  world := { state := rules, log := [] }
  tasks _ := some (reconcileSshIngress cidrs)

/-- All callers end with the configured networks, and running it again changes nothing. -/
def Converges (ec2 : Ec2) (cidrs : List String) : Prop :=
  ∀ (ι : Type) [DecidableEq ι] [Nonempty ι] (rules : Rules ec2)
    (config : Config ι Op.Answer (Rules ec2) Failure Unit),
    (system ec2 ι).Reaches {} (start ι rules cidrs) config →
      (∀ task, config.tasks task = some (.done ())) →
        config.world.state.cidrs = ec2.networks cidrs.toFinset ∧
          ∀ (κ : Type) [DecidableEq κ] (later : Config κ Op.Answer (Rules ec2) Failure Unit),
            (system ec2 κ).Reaches {} (start κ config.world.state cidrs) later →
              later.world.state.cidrs = config.world.state.cidrs

/-- Each string is in canonical form, or all denote one network, whose canonical form is among
them, and a request that names a network twice is not refused as a duplicate. -/
def Faithful (ec2 : Ec2) (cidrs : List String) : Prop :=
  (∀ cidr ∈ cidrs, ec2.canonical cidr = cidr) ∨
    (ec2.repeated ≠ some duplicateCode ∧ ∃ cidr ∈ cidrs, ec2.canonical cidr = cidr ∧
      ∀ other ∈ cidrs, ec2.canonical other = cidr)

/-- The error is none for the code that goes on. -/
def Passes (code : String) : Except AwsError Unit → Prop
  | .ok _ => True
  | .error error => error.code = code

/-- Rules on the way from the initial ones to the networks: those to add come at once, and so do
those to revoke go. -/
structure Between (initial networks cidrs : Finset String) : Prop where
  kept : initial ∩ networks ⊆ cidrs
  within : cidrs ⊆ initial ∪ networks
  added : cidrs ∩ networks ⊆ initial ∨ networks ⊆ cidrs
  revoked : initial ⊆ cidrs ∪ networks ∨ cidrs ⊆ networks

/-- No network goes, and nothing else comes back. -/
structure Later (networks before after : Finset String) : Prop where
  grows : before ∩ networks ⊆ after
  shrinks : before ⊆ networks → after ⊆ networks

section Sets

variable {initial networks before after last : Finset String}

theorem Between.refl : Between initial networks initial :=
  ⟨Finset.inter_subset_left, Finset.subset_union_left, .inl Finset.inter_subset_left,
    .inl Finset.subset_union_left⟩

theorem Later.refl : Later networks before before :=
  ⟨Finset.inter_subset_left, id⟩

theorem Later.trans (first : Later networks before after) (second : Later networks after last) :
    Later networks before last where
  grows _ member :=
    second.grows (Finset.mem_inter.mpr ⟨first.grows member, (Finset.mem_inter.mp member).2⟩)
  shrinks all := second.shrinks (first.shrinks all)

end Sets

section Serve

variable {cidrs : List String} {initial current : Finset String} {rules : Rules ec2}

theorem mem_networks {cidr : String} (member : cidr ∈ cidrs.toFinset)
    (stored : ec2.canonical cidr = cidr) : cidr ∈ ec2.networks cidrs.toFinset :=
  Finset.mem_image.mpr ⟨cidr, member, stored⟩

theorem stored_of_mem_networks {cidr : String} {some_cidrs : Finset String}
    (member : cidr ∈ ec2.networks some_cidrs) : ec2.canonical cidr = cidr := by
  obtain ⟨text, -, rfl⟩ := Finset.mem_image.mp member
  exact ec2.canonical_canonical text

theorem Faithful.networks_subset (faithful : Faithful ec2 cidrs) :
    ec2.networks cidrs.toFinset ⊆ cidrs.toFinset := by
  intro cidr member
  obtain ⟨text, listed, rfl⟩ := Finset.mem_image.mp member
  rw [List.mem_toFinset] at listed ⊢
  rcases faithful with stored | ⟨-, network, named, -, same⟩
  · rwa [stored text listed]
  · rwa [same text listed]

/-- A request for missing networks adds all of them, or they are there already. -/
theorem authorize_spec (faithful : Faithful ec2 cidrs)
    (between : Between initial (ec2.networks cidrs.toFinset) rules.cidrs)
    (read : Between initial (ec2.networks cidrs.toFinset) current)
    (later : Later (ec2.networks cidrs.toFinset) current rules.cidrs) :
    Between initial (ec2.networks cidrs.toFinset)
        (authorize (cidrs.toFinset \ current) rules).2.cidrs ∧
      Later (ec2.networks cidrs.toFinset) rules.cidrs
        (authorize (cidrs.toFinset \ current) rules).2.cidrs ∧
      (Passes duplicateCode (authorize (cidrs.toFinset \ current) rules).1 →
        ec2.networks cidrs.toFinset ⊆ (authorize (cidrs.toFinset \ current) rules).2.cidrs) := by
  have own : ec2.networks (cidrs.toFinset \ current) ⊆ ec2.networks cidrs.toFinset :=
    Finset.image_subset_image Finset.sdiff_subset
  have all : ec2.networks cidrs.toFinset ⊆ (rules.add (cidrs.toFinset \ current)).cidrs := by
    intro network member
    by_cases known : network ∈ current
    · exact Finset.mem_union_left _ (later.grows (Finset.mem_inter.mpr ⟨known, member⟩))
    · refine Finset.mem_union_right _ (Finset.mem_image.mpr ⟨network, ?_, ?_⟩)
      · exact Finset.mem_sdiff.mpr ⟨faithful.networks_subset member, known⟩
      · exact stored_of_mem_networks member
  have adds : Between initial (ec2.networks cidrs.toFinset)
      (rules.add (cidrs.toFinset \ current)).cidrs ∧
        Later (ec2.networks cidrs.toFinset) rules.cidrs
          (rules.add (cidrs.toFinset \ current)).cidrs := by
    refine ⟨⟨?_, ?_, .inr all, ?_⟩, ?_, ?_⟩
    · exact between.kept.trans Finset.subset_union_left
    · exact Finset.union_subset between.within (own.trans Finset.subset_union_right)
    · refine between.revoked.imp (fun covers => ?_) fun inside => Finset.union_subset inside own
      exact covers.trans (Finset.union_subset_union_left Finset.subset_union_left)
    · exact Finset.inter_subset_left.trans Finset.subset_union_left
    · exact fun inside => Finset.union_subset inside own
  rw [authorize]
  split
  · next present =>
      refine ⟨between, .refl, fun _ => ?_⟩
      obtain ⟨network, asked, held⟩ := Finset.not_disjoint_iff.mp present
      obtain ⟨text, missing, same⟩ := Finset.mem_image.mp asked
      obtain ⟨listed, unread⟩ := Finset.mem_sdiff.mp missing
      rcases faithful with stored | ⟨-, single, -, -, one⟩
      · -- The request names the network itself, so another caller has added it since the read.
        rw [stored text (List.mem_toFinset.mp listed)] at same
        subst same
        refine between.added.resolve_left fun old => unread (read.kept ?_)
        have member := own asked
        exact Finset.mem_inter.mpr ⟨old (Finset.mem_inter.mpr ⟨held, member⟩), member⟩
      · intro other member
        obtain ⟨other_text, other_listed, rfl⟩ := Finset.mem_image.mp member
        rwa [one other_text (List.mem_toFinset.mp other_listed),
          ← one text (List.mem_toFinset.mp listed), same]
  · split
    · exact ⟨adds.1, adds.2, fun _ => all⟩
    · next code refusal =>
        split
        · next fewer =>
            refine ⟨between, .refl, fun passes => ?_⟩
            obtain rfl : code = duplicateCode := passes
            rcases faithful with stored | ⟨allowed, -⟩
            · refine absurd (Finset.card_image_of_injOn fun first member second other same => ?_)
                fewer.ne
              have listed := List.mem_toFinset.mp (Finset.mem_sdiff.mp member).1
              have other_listed := List.mem_toFinset.mp (Finset.mem_sdiff.mp other).1
              rwa [stored first listed, stored second other_listed] at same
            · exact absurd refusal allowed
        · exact ⟨adds.1, adds.2, fun _ => all⟩

/-- A request for stale rules revokes all of them, or they are gone already. -/
theorem revoke_spec (faithful : Faithful ec2 cidrs)
    (between : Between initial (ec2.networks cidrs.toFinset) rules.cidrs)
    (read : Between initial (ec2.networks cidrs.toFinset) current)
    (stored : ∀ cidr ∈ current, ec2.canonical cidr = cidr)
    (stale : (current \ cidrs.toFinset).Nonempty) :
    Between initial (ec2.networks cidrs.toFinset)
        (revoke (current \ cidrs.toFinset) rules).2.cidrs ∧
      Later (ec2.networks cidrs.toFinset) rules.cidrs
        (revoke (current \ cidrs.toFinset) rules).2.cidrs ∧
      (Passes notFoundCode (revoke (current \ cidrs.toFinset) rules).1 →
        (revoke (current \ cidrs.toFinset) rules).2.cidrs ⊆ ec2.networks cidrs.toFinset) := by
  have same : ec2.networks (current \ cidrs.toFinset) = current \ cidrs.toFinset := by
    rw [Ec2.networks, Finset.image_congr (g := id), Finset.image_id]
    exact fun cidr member => stored cidr (Finset.mem_sdiff.mp member).1
  have foreign {cidr : String} (member : cidr ∈ current \ cidrs.toFinset) :
      cidr ∉ ec2.networks cidrs.toFinset := fun network =>
    (Finset.mem_sdiff.mp member).2 (faithful.networks_subset network)
  obtain ⟨witness, stale⟩ := stale
  have unfinished : initial ⊆ current ∪ ec2.networks cidrs.toFinset :=
    read.revoked.resolve_right fun inside =>
      foreign stale (inside (Finset.mem_sdiff.mp stale).1)
  rw [revoke, same]
  split
  · have clean : (rules.remove (current \ cidrs.toFinset)).cidrs ⊆
        ec2.networks cidrs.toFinset := by
      intro cidr member
      rw [Rules.remove_cidrs, same] at member
      obtain ⟨held, left⟩ := Finset.mem_sdiff.mp member
      by_contra outside
      have old := (Finset.mem_union.mp (between.within held)).resolve_right outside
      have seen := (Finset.mem_union.mp (unfinished old)).resolve_right outside
      refine left (Finset.mem_sdiff.mpr ⟨seen, fun listed => outside ?_⟩)
      exact mem_networks listed (rules.stored cidr held)
    have stays {cidr : String} (held : cidr ∈ rules.cidrs)
        (network : cidr ∈ ec2.networks cidrs.toFinset) :
        cidr ∈ (rules.remove (current \ cidrs.toFinset)).cidrs := by
      rw [Rules.remove_cidrs, same]
      exact Finset.mem_sdiff.mpr ⟨held, fun member => foreign member network⟩
    refine ⟨⟨?_, ?_, ?_, .inr clean⟩, ⟨?_, fun _ => clean⟩, fun _ => clean⟩
    · exact fun cidr member => stays (between.kept member) (Finset.mem_inter.mp member).2
    · exact clean.trans Finset.subset_union_right
    · refine between.added.imp (fun old => ?_) fun all network member => stays (all member) member
      exact (Finset.inter_subset_inter_right Finset.sdiff_subset).trans old
    · exact fun cidr member => stays (Finset.mem_inter.mp member).1 (Finset.mem_inter.mp member).2
  · next gone =>
      refine ⟨between, .refl, fun _ => between.revoked.resolve_left fun covers => ?_⟩
      obtain ⟨cidr, asked, missing⟩ := Finset.not_subset.mp gone
      have old := (Finset.mem_union.mp (read.within (Finset.mem_sdiff.mp asked).1)).resolve_right
        (foreign asked)
      exact (Finset.mem_union.mp (covers old)).elim missing (foreign asked)

end Serve

/-- Where a caller stands, from its own steps. -/
inductive Phase
  | starting
  /-- It has read these rules. -/
  | read (current : Finset String)
  /-- It has added what was missing of them. -/
  | added (current : Finset String)
  /-- It has revoked what was stale. -/
  | revoked
  | failed

/-- The phase after a request: the given one where the caller goes on. -/
def Phase.after (phase : Phase) (code : String) : Except AwsError Unit → Phase
  | .ok _ => phase
  | .error error => if error.code = code then phase else failed

/-- The steps of a caller with these CIDR strings. -/
def contract (desired : Finset String) : Contract Op.Answer Phase where
  allows
    | .starting, .describe => True
    | .read current, .authorize cidrs => cidrs = desired \ current
    | .read current, .revoke cidrs =>
        desired ⊆ current ∧ cidrs = current \ desired ∧ cidrs.Nonempty
    | .added current, .revoke cidrs => cidrs = current \ desired ∧ cidrs.Nonempty
    | _, _ => False
  next
    | .starting, .describe, .ok current => .read current
    | .read current, .authorize _, answer => Phase.after (.added current) duplicateCode answer
    | .read _, .revoke _, answer => Phase.after .revoked notFoundCode answer
    | .added _, .revoke _, answer => Phase.after .revoked notFoundCode answer
    | _, _, _ => .failed

/-- A caller that may return: it has nothing left to do. -/
def Settled (desired : Finset String) : Phase → Prop
  | .read current => desired ⊆ current ∧ current ⊆ desired
  | .added current => current ⊆ desired
  | .revoked => True
  | .starting => False
  | .failed => False

section Follows

variable {desired current : Finset String} {phase : Phase}

theorem tolerate_follows (phase : Phase) (action code : String) (answer : Except AwsError Unit) :
    Follows (contract desired) (Returns fun later _ => later = phase) (phase.after code answer)
      (tolerate action code answer) := by
  cases answer with
  | ok done => rfl
  | error error =>
      rw [tolerate, Phase.after]
      by_cases same : error.code = code
      · simp [same]
      · simp [same]

theorem revokeStale_follows
    (allowed : (current \ desired).Nonempty →
      (contract desired).allows phase (.revoke (current \ desired)))
    (next : ∀ answer, (contract desired).next phase (.revoke (current \ desired)) answer =
      Phase.after .revoked notFoundCode answer)
    (settled : current ⊆ desired → Settled desired phase) :
    Follows (contract desired) (Returns fun later _ => Settled desired later) phase
      (revokeStale (current \ desired)) := by
  rw [revokeStale]
  split
  · next stale =>
      refine .step (allowed stale) fun answer _ => ?_
      rw [next]
      refine (tolerate_follows .revoked _ _ answer).returns ?_
      rintro later done rfl
      trivial
  · next clean =>
      exact settled (Finset.sdiff_eq_empty_iff_subset.mp
        (Finset.not_nonempty_iff_eq_empty.mp clean))

theorem reconcile_follows (cidrs : List String) :
    Follows (contract cidrs.toFinset)
      (Returns fun later _ => Settled cidrs.toFinset later) .starting
      (reconcileSshIngress cidrs) := by
  refine .step trivial fun answer _ => ?_
  cases answer with
  | error error => trivial
  | ok current =>
      simp only [Program.pure_eq_done, Program.bind_eq_bind, Program.done_bind]
      split
      · refine .step rfl fun answer _ => ?_
        refine .seq (tolerate_follows (.added current) _ _ answer) ?_
        rintro later done rfl
        exact revokeStale_follows (fun stale => ⟨rfl, stale⟩) (fun _ => rfl) id
      · next complete =>
          have all := Finset.sdiff_eq_empty_iff_subset.mp
            (Finset.not_nonempty_iff_eq_empty.mp complete)
          exact revokeStale_follows (fun stale => ⟨all, rfl, stale⟩) (fun _ => rfl)
            fun clean => ⟨all, clean⟩

end Follows

/-- What a caller's read of the rules still says of them. -/
structure Reading (ec2 : Ec2) (initial networks current cidrs : Finset String) : Prop where
  stored : ∀ cidr ∈ current, ec2.canonical cidr = cidr
  between : Between initial networks current
  later : Later networks current cidrs

/-- What holds of the rules while a caller stands in a phase. -/
def Stands (ec2 : Ec2) (initial networks cidrs : Finset String) : Phase → Prop
  | .read current => Reading ec2 initial networks current cidrs
  | .added current => Reading ec2 initial networks current cidrs ∧ networks ⊆ cidrs
  | .revoked => networks ⊆ cidrs ∧ cidrs ⊆ networks
  | .starting => True
  | .failed => True

section Runs

variable {ι : Type} {cidrs : List String} {initial : Finset String} {rules : Rules ec2}
  {phase : Phase} {op : Op}

theorem Later.all {networks before after : Finset String} (later : Later networks before after)
    (present : networks ⊆ before) : networks ⊆ after :=
  fun _ member => later.grows (Finset.mem_inter.mpr ⟨present member, member⟩)

theorem Stands.stays {networks before after : Finset String}
    (stands : Stands ec2 initial networks before phase) (later : Later networks before after) :
    Stands ec2 initial networks after phase := by
  have reads {current : Finset String} (reading : Reading ec2 initial networks current before) :
      Reading ec2 initial networks current after :=
    { reading with later := reading.later.trans later }
  cases phase with
  | starting => trivial
  | read current => exact reads stands
  | added current => exact ⟨reads stands.1, later.all stands.2⟩
  | revoked => exact ⟨later.all stands.1, later.shrinks stands.2⟩
  | failed => trivial

/-- A caller that has returned leaves exactly the networks. -/
theorem Stands.settled (faithful : Faithful ec2 cidrs)
    (stands : Stands ec2 initial (ec2.networks cidrs.toFinset) rules.cidrs phase)
    (settled : Settled cidrs.toFinset phase) :
    rules.cidrs = ec2.networks cidrs.toFinset := by
  have inside {current : Finset String}
      (reading : Reading ec2 initial (ec2.networks cidrs.toFinset) current rules.cidrs)
      (clean : current ⊆ cidrs.toFinset) : rules.cidrs ⊆ ec2.networks cidrs.toFinset :=
    reading.later.shrinks fun cidr member =>
      mem_networks (clean member) (reading.stored cidr member)
  cases phase with
  | starting => exact settled.elim
  | read current =>
      have reading : Reading ec2 initial _ current rules.cidrs := stands
      refine (inside reading settled.2).antisymm (reading.later.all ?_)
      exact faithful.networks_subset.trans settled.1
  | added current => exact (inside stands.1 settled).antisymm stands.2
  | revoked => exact stands.2.antisymm stands.1
  | failed => exact settled.elim

/-- What EC2 does with a call that a caller makes, and where its answer leaves the caller. -/
theorem serve_spec (faithful : Faithful ec2 cidrs)
    (allowed : (contract cidrs.toFinset).allows phase op)
    (between : Between initial (ec2.networks cidrs.toFinset) rules.cidrs)
    (stands : Stands ec2 initial (ec2.networks cidrs.toFinset) rules.cidrs phase) :
    Between initial (ec2.networks cidrs.toFinset) (serve rules op).2.cidrs ∧
      Later (ec2.networks cidrs.toFinset) rules.cidrs (serve rules op).2.cidrs ∧
      Stands ec2 initial (ec2.networks cidrs.toFinset) (serve rules op).2.cidrs
        ((contract cidrs.toFinset).next phase op (serve rules op).1) := by
  have passes {later : Phase} {code : String} {answer : Except AwsError Unit}
      {networks left : Finset String}
      (holds : Passes code answer → Stands ec2 initial networks left later) :
      Stands ec2 initial networks left (later.after code answer) := by
    cases answer with
    | ok done => exact holds trivial
    | error error =>
        rw [Phase.after]
        split
        · next same => exact holds same
        · trivial
  have revokes {current : Finset String}
      (reading : Reading ec2 initial (ec2.networks cidrs.toFinset) current rules.cidrs)
      (present : ec2.networks cidrs.toFinset ⊆ rules.cidrs)
      (stale : (current \ cidrs.toFinset).Nonempty) :
      Between initial (ec2.networks cidrs.toFinset)
          (revoke (current \ cidrs.toFinset) rules).2.cidrs ∧
        Later (ec2.networks cidrs.toFinset) rules.cidrs
          (revoke (current \ cidrs.toFinset) rules).2.cidrs ∧
        Stands ec2 initial (ec2.networks cidrs.toFinset)
          (revoke (current \ cidrs.toFinset) rules).2.cidrs
          (Phase.after .revoked notFoundCode (revoke (current \ cidrs.toFinset) rules).1) := by
    obtain ⟨between_after, later, clean⟩ :=
      revoke_spec faithful between reading.between reading.stored stale
    exact ⟨between_after, later, passes fun passed => ⟨later.all present, clean passed⟩⟩
  cases phase with
  | starting =>
      cases op with
      | describe => exact ⟨between, .refl, rules.stored, between, .refl⟩
      | authorize batch => exact allowed.elim
      | revoke batch => exact allowed.elim
  | read current =>
      have reading : Reading ec2 initial _ current rules.cidrs := stands
      cases op with
      | describe => exact allowed.elim
      | authorize batch =>
          obtain rfl : batch = cidrs.toFinset \ current := allowed
          obtain ⟨between_after, later, present⟩ :=
            authorize_spec faithful between reading.between reading.later
          refine ⟨between_after, later, passes fun passed => ⟨?_, present passed⟩⟩
          exact { reading with later := reading.later.trans later }
      | revoke batch =>
          obtain ⟨complete, rfl, stale⟩ := allowed
          exact revokes reading
            (reading.later.all (faithful.networks_subset.trans complete)) stale
  | added current =>
      cases op with
      | describe => exact allowed.elim
      | authorize batch => exact allowed.elim
      | revoke batch =>
          obtain ⟨rfl, stale⟩ := allowed
          exact revokes stands.1 stands.2 stale
  | revoked => cases op <;> exact allowed.elim
  | failed => cases op <;> exact allowed.elim

theorem next_failed (desired : Finset String) (phase : Phase) (op : Op) {error : AwsError}
    (other : ¬ (error.code = duplicateCode ∨ error.code = notFoundCode)) :
    (contract desired).next phase op (op.failed error) = .failed := by
  obtain ⟨not_duplicate, not_missing⟩ := not_or.mp other
  cases phase <;> cases op <;> simp [contract, Op.failed, Phase.after, not_duplicate, not_missing]

/-- What any call of a caller does, whatever its fate. -/
theorem perform_spec (faithful : Faithful ec2 cidrs) {choice : Choice} {answer : op.Answer}
    {after : Rules ec2} (allowed : (contract cidrs.toFinset).allows phase op)
    (between : Between initial (ec2.networks cidrs.toFinset) rules.cidrs)
    (stands : Stands ec2 initial (ec2.networks cidrs.toFinset) rules.cidrs phase)
    (performed : perform op choice rules = some (answer, after)) :
    Between initial (ec2.networks cidrs.toFinset) after.cidrs ∧
      Later (ec2.networks cidrs.toFinset) rules.cidrs after.cidrs ∧
      Stands ec2 initial (ec2.networks cidrs.toFinset) after.cidrs
        ((contract cidrs.toFinset).next phase op answer) := by
  obtain ⟨between_served, later, own⟩ := serve_spec faithful allowed between stands
  cases choice with
  | served =>
      obtain ⟨rfl, rfl⟩ := Prod.mk.inj (Option.some.inj performed)
      exact ⟨between_served, later, own⟩
  | failed error late =>
      rw [perform] at performed
      split at performed
      · cases performed
      · next other =>
          obtain ⟨rfl, rfl⟩ := Prod.mk.inj (Option.some.inj performed)
          rw [next_failed _ _ _ other]
          cases late with
          | true => exact ⟨between_served, later, trivial⟩
          | false => exact ⟨between, .refl, trivial⟩

theorem upheld (faithful : Faithful ec2 cidrs) (initial : Finset String) :
    Upheld (system ec2 ι) {} (contract cidrs.toFinset)
      (fun world => Between initial (ec2.networks cidrs.toFinset) world.state.cidrs)
      (fun _ phase world =>
        Stands ec2 initial (ec2.networks cidrs.toFinset) world.state.cidrs phase) where
  perform allowed between stands _ answered := by
    have performed := (System.answer_eq_some.mp answered).1
    obtain ⟨between_after, -, own⟩ := perform_spec faithful allowed between stands performed
    exact ⟨trivial, between_after, own⟩
  others allowed between stands _ answered _ held := by
    have performed := (System.answer_eq_some.mp answered).1
    exact held.stays (perform_spec faithful allowed between stands performed).2.1
  abandon _ between := ⟨between, fun _ held => held⟩
  world {move} := move.elim

theorem upholds_start (rules : Rules ec2) (cidrs : List String) :
    Upholds (contract cidrs.toFinset)
      (fun world => Between rules.cidrs (ec2.networks cidrs.toFinset) world.state.cidrs)
      (fun _ phase world =>
        Stands ec2 rules.cidrs (ec2.networks cidrs.toFinset) world.state.cidrs phase)
      (fun _ => Returns fun later _ => Settled cidrs.toFinset later) (start ι rules cidrs) where
  inv := .refl
  follows {task program} present := by
    obtain rfl : reconcileSshIngress cidrs = program := Option.some.inj present
    exact ⟨.starting, trivial, reconcile_follows cidrs⟩

theorem converges_of_faithful (faithful : Faithful ec2 cidrs) : Converges ec2 cidrs := by
  intro ι _ nonempty rules config reach returned
  obtain ⟨task⟩ := nonempty
  have upholds := (upholds_start rules cidrs).reaches (upheld faithful rules.cidrs) reach
  obtain ⟨phase, stands, settled⟩ := upholds.follows (returned task)
  have exact_rules := stands.settled faithful settled
  refine ⟨exact_rules, fun κ _ later again => ?_⟩
  have between := ((upholds_start _ cidrs).reaches (upheld faithful _) again).inv
  rw [exact_rules] at between ⊢
  have kept := between.kept
  have within := between.within
  rw [Finset.inter_self] at kept
  rw [Finset.union_self] at within
  exact within.antisymm kept

/-- One caller alone can end its program with these rules. -/
def Leaves (rules : Rules ec2) (program : Task Unit) (left : Finset String) : Prop :=
  ∀ log, ∃ config, (system ec2 Unit).Reaches {}
      { world := { state := rules, log }, tasks := fun _ => some program } config ∧
    (∀ task, config.tasks task = some (.done ())) ∧ config.world.state.cidrs = left

theorem Leaves.done (rules : Rules ec2) : Leaves rules (.done ()) rules.cidrs :=
  fun _ => ⟨_, .refl, fun _ => rfl, rfl⟩

theorem Leaves.served (op : Op) {resume : op.Answer → Task Unit} {left : Finset String}
    (leaves : Leaves (serve rules op).2 (resume (serve rules op).1) left) :
    Leaves rules (.call op resume) left := by
  intro log
  obtain ⟨config, reach, returned, same⟩ := leaves (log ++ [.answered () op (serve rules op).1])
  have waiting : (⟨⟨rules, log⟩, fun _ => some (.call op resume)⟩ :
      Config Unit Op.Answer (Rules ec2) Failure Unit).tasks () = some (.call op resume) := rfl
  refine ⟨config, .perform () .served waiting rfl trivial ?_, returned, same⟩
  convert reach
  exact Function.update_self ..

/-- A caller whose request is refused as a duplicate takes it for served, and revokes what it
thinks stale. -/
theorem leaves_of_duplicate (missing : (cidrs.toFinset \ rules.cidrs).Nonempty)
    (refused : authorize (cidrs.toFinset \ rules.cidrs) rules =
      (.error ⟨duplicateCode, ""⟩, rules)) :
    Leaves rules (reconcileSshIngress cidrs) (rules.cidrs ∩ cidrs.toFinset) := by
  have served : serve rules (.authorize (cidrs.toFinset \ rules.cidrs)) =
    (.error ⟨duplicateCode, ""⟩, rules) := refused
  have networks : ec2.networks (rules.cidrs \ cidrs.toFinset) =
      rules.cidrs \ cidrs.toFinset := by
    rw [Ec2.networks, Finset.image_congr (g := id), Finset.image_id]
    exact fun cidr member => rules.stored cidr (Finset.mem_sdiff.mp member).1
  have revokes : Leaves rules (revokeStale (rules.cidrs \ cidrs.toFinset))
      (rules.cidrs ∩ cidrs.toFinset) := by
    rw [revokeStale]
    split
    · have ends : (serve rules (.revoke (rules.cidrs \ cidrs.toFinset))) =
          (.ok (), rules.remove (rules.cidrs \ cidrs.toFinset)) := by
        rw [serve, revoke, networks, if_pos Finset.sdiff_subset]
      refine .served (.revoke (rules.cidrs \ cidrs.toFinset)) ?_
      rw [ends]
      have left := Leaves.done (rules.remove (rules.cidrs \ cidrs.toFinset))
      rwa [Rules.remove_cidrs, networks, Finset.sdiff_sdiff_self_left] at left
    · next clean =>
        have inside := Finset.sdiff_eq_empty_iff_subset.mp
          (Finset.not_nonempty_iff_eq_empty.mp clean)
        have left := Leaves.done rules
        rwa [← Finset.inter_eq_left.mpr inside] at left
  refine .served .describe ?_
  simp only [serve, Program.pure_eq_done, Program.bind_eq_bind, Program.done_bind, if_pos missing]
  refine .served (.authorize (cidrs.toFinset \ rules.cidrs)) ?_
  rw [served]
  exact revokes

theorem duplicate_of_converges (converges : Converges ec2 cidrs) (rules : Rules ec2)
    (missing : (cidrs.toFinset \ rules.cidrs).Nonempty)
    (refused : authorize (cidrs.toFinset \ rules.cidrs) rules =
      (.error ⟨duplicateCode, ""⟩, rules)) :
    rules.cidrs ∩ cidrs.toFinset = ec2.networks cidrs.toFinset := by
  obtain ⟨config, reach, returned, left⟩ := leaves_of_duplicate missing refused []
  rw [← left]
  exact (converges Unit rules config reach returned).1

theorem faithful_of_converges (converges : Converges ec2 cidrs) : Faithful ec2 cidrs := by
  by_cases stored : ∀ cidr ∈ cidrs, ec2.canonical cidr = cidr
  · exact .inl stored
  · push Not at stored
    obtain ⟨text, listed, other⟩ := stored
    have desired : text ∈ cidrs.toFinset := List.mem_toFinset.mpr listed
    have network : ec2.canonical text ∈ ec2.networks cidrs.toFinset :=
      Finset.mem_image_of_mem _ desired
    -- EC2 never lists the text itself, so every caller asks for it.
    have asked (rules : Rules ec2) : text ∈ cidrs.toFinset \ rules.cidrs :=
      Finset.mem_sdiff.mpr ⟨desired, fun held => other (rules.stored text held)⟩
    have refused (rules : Rules ec2) (held : ec2.canonical text ∈ rules.cidrs) :
        authorize (cidrs.toFinset \ rules.cidrs) rules = (.error ⟨duplicateCode, ""⟩, rules) := by
      refine if_pos (Finset.not_disjoint_iff.mpr ⟨_, ?_, held⟩)
      exact Finset.mem_image_of_mem _ (asked rules)
    have all : ec2.networks cidrs.toFinset ⊆ cidrs.toFinset := by
      let rules : Rules ec2 := ⟨ec2.networks cidrs.toFinset, fun _ => stored_of_mem_networks⟩
      have same := duplicate_of_converges converges rules ⟨text, asked rules⟩
        (refused rules network)
      exact Finset.inter_eq_left.mp same
    have single : ec2.networks cidrs.toFinset = {ec2.canonical text} := by
      let rules : Rules ec2 :=
        ⟨{ec2.canonical text}, fun cidr member => Finset.mem_singleton.mp member ▸
        ec2.canonical_canonical text⟩
      have same := duplicate_of_converges converges rules ⟨text, asked rules⟩
        (refused rules (Finset.mem_singleton_self _))
      rw [← same]
      exact Finset.inter_eq_left.mpr (Finset.singleton_subset_iff.mpr (all network))
    refine .inr ⟨fun repeats => ?_, ec2.canonical text, List.mem_toFinset.mp (all network),
      ec2.canonical_canonical text, fun cidr member => ?_⟩
    · let rules : Rules ec2 := ⟨∅, fun _ member => absurd member (Finset.notMem_empty _)⟩
      have pair : ({text, ec2.canonical text} : Finset String) ⊆ cidrs.toFinset :=
        Finset.insert_subset desired (Finset.singleton_subset_iff.mpr (all network))
      have fewer : (ec2.networks cidrs.toFinset).card < cidrs.toFinset.card := by
        have two := Finset.card_le_card pair
        rw [Finset.card_pair (Ne.symm other)] at two
        rw [single, Finset.card_singleton]
        exact two
      have twice : authorize (cidrs.toFinset \ rules.cidrs) rules =
          (.error ⟨duplicateCode, ""⟩, rules) := by
        rw [authorize, Finset.sdiff_empty, if_neg (not_not.mpr (Finset.disjoint_empty_right _)),
          repeats]
        exact if_pos fewer
      have same := duplicate_of_converges converges rules ⟨text, asked rules⟩ twice
      rw [← same, Finset.empty_inter] at network
      exact Finset.notMem_empty _ network
    · have member : ec2.canonical cidr ∈ ec2.networks cidrs.toFinset :=
        Finset.mem_image_of_mem _ (List.mem_toFinset.mpr member)
      rw [single] at member
      exact Finset.mem_singleton.mp member

/-- The calls converge, for any rules, number of callers and order of their steps, exactly when the
strings are as EC2 stores them, or all denote one network and one of them is. -/
theorem reconcile_converges_iff (ec2 : Ec2) (cidrs : List String) :
    Converges ec2 cidrs ↔ Faithful ec2 cidrs :=
  ⟨faithful_of_converges, converges_of_faithful⟩

end Runs

/-- EC2 clears the host bits of `10.1.2.3/8`. -/
def hostBits : Ec2 where
  canonical cidr := if cidr = "10.1.2.3/8" then "10.0.0.0/8" else cidr
  canonical_canonical cidr := by
    split
    · rfl
    · rfl
  repeated := some "InvalidParameterValue"

/-- The network is there, and the call revokes it. -/
theorem reconcile_revokes : ¬ Converges hostBits ["10.1.2.3/8"] := by
  intro converges
  let rules : Rules hostBits := ⟨{"10.0.0.0/8"}, by decide⟩
  have same := duplicate_of_converges converges rules (by decide) rfl
  exact absurd same (by decide)

end Ingress

end Drukbox
