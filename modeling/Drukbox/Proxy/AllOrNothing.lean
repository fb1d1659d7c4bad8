import Drukbox.Proxy.Swap
import Mathlib.Data.List.Dedup

/-!
# The swap is all or nothing

A request with placeholders is answered and stays as it is, or every placeholder is replaced.  Three
texts make the hook raise instead: a Basic value outside ASCII, an authority that `urlsplit`
refuses, and a placeholder that no header can carry to the exchange. -/

namespace Drukbox.Proxy

variable {tables : Tables} {map : HeaderMap} {client : Sender}
  {exchange : ℕ → String → String → ExchangeAnswer} {flow : Flow} {fields : List Field}
  {approved : String}

/-- The placeholders that the fields carry. -/
def carried (fields : List Field) : List (HeaderName × String) :=
  fields.filterMap fun field =>
    match placeholderIn field.value with
    | .ok placeholder => if placeholder = "" then none else some (field.name, placeholder)
    | .error _ => none

/-- Every placeholder is replaced. -/
structure Swapped (tables : Tables) (exchange : ℕ → String → String → ExchangeAnswer)
    (flow : Flow) (after : List Field) (credentials : List (HeaderName × String)) : Prop where
  authority : urlHostname tables (flow.hostHeader.getD "") =
    .ok (some (String.ofList (tables.lower flow.approved.toList)))
  count : credentials.length = (carried flow.fields).length
  authorized : ∀ call name placeholder, (carried flow.fields)[call]? = some (name, placeholder) →
    ∃ header credential, credentials[call]? = some (header, credential) ∧
      exchange call placeholder flow.approved = .granted header credential
  distinct : (credentials.map (·.1.lower)).Nodup
  kept : ∀ field ∈ after,
    (∃ item ∈ credentials, field.name.lower = item.1.lower ∧ field.value = item.2) ∨
      (field ∈ flow.fields ∧ ∀ item ∈ carried flow.fields, item.1.lower ≠ field.name.lower)
  once : ∀ item ∈ credentials, ∃ field, field.value = item.2 ∧
    after.filter (·.name.lower == item.1.lower) = [field]

/-- The hook returns, and a request with placeholders is answered and untouched, or swapped. -/
def AllOrNothing (tables : Tables) (exchange : ℕ → String → String → ExchangeAnswer) (flow : Flow)
    (outcome : Except Failure Handled) : Prop :=
  ∃ after, outcome = .ok after ∧
    (carried flow.fields ≠ [] →
      (after.response.isSome ∧ after.fields = flow.fields) ∨
        (after.response = none ∧ ∃ credentials,
          Swapped tables exchange flow after.fields credentials))

/-- The exchange grants the first texts, in calls from a number on. -/
def Grants (exchange : ℕ → String → String → ExchangeAnswer) (approved : String) :
    ℕ → List String → List (HeaderName × String) → Prop
  | _, _, [] => True
  | call, text :: rest, (header, credential) :: later =>
      exchange call text approved = .granted header credential ∧
        Grants exchange approved (call + 1) rest later
  | _, [], _ :: _ => False

/-- The exchange grants the texts before this one, for different headers: so it is asked for it. -/
def Asked (exchange : ℕ → String → String → ExchangeAnswer) (approved : String)
    (texts : List String) (call : ℕ) : Prop :=
  ∃ credentials : List (HeaderName × String), credentials.length = call ∧
    (credentials.map (·.1.lower)).Nodup ∧ Grants exchange approved 0 texts credentials

/-- What follows the scheme of every Basic value is ASCII.  Where a field carries a placeholder,
`urlsplit` reads the authority; and where that is the host of the connection, the client can send it
and each placeholder that the exchange is asked for. -/
structure Readable (tables : Tables) (client : Sender)
    (exchange : ℕ → String → String → ExchangeAnswer) (flow : Flow) : Prop where
  values : ∀ field ∈ flow.fields,
    lowerScheme (partition ' ' field.value.toList).1 = "basic" →
      isAscii (strip (partition ' ' field.value.toList).2)
  authority : carried flow.fields ≠ [] →
    ∃ hostname, urlHostname tables (flow.hostHeader.getD "") = .ok hostname
  sendable : urlHostname tables (flow.hostHeader.getD "") =
      .ok (some (String.ofList (tables.lower flow.approved.toList))) →
    ∀ call text, ((carried flow.fields).map (·.2))[call]? = some text →
      Asked exchange flow.approved ((carried flow.fields).map (·.2)) call →
        client.sends ("Bearer " ++ text) ∧ client.sends flow.approved

/-- `placeholder_in` raises for a Basic value outside ASCII only. -/
theorem placeholderIn_ok_iff (value : String) :
    (∃ placeholder, placeholderIn value = .ok placeholder) ↔
      (lowerScheme (partition ' ' value.toList).1 = "basic" →
        isAscii (strip (partition ' ' value.toList).2)) := by
  have reads : (∃ placeholder, placeholderIn value = .ok placeholder) ↔
      ∃ text, candidate value = .ok text := by
    unfold placeholderIn
    cases candidate value <;> simp [bind, Except.bind, pure, Except.pure]
  rw [reads]
  unfold candidate
  dsimp only
  split
  · next scheme => rcases scheme with scheme | scheme <;> simp [scheme]
  · split
    · next scheme =>
        simp only [scheme, forall_const, basicPassword]
        split
        · next ascii =>
            simp only [ascii, iff_true]
            split <;> exact ⟨_, rfl⟩
        · next ascii => simp [ascii]
    · next scheme => simp [scheme]

theorem placeholders_ok_iff (fields : List Field) :
    (∃ found, placeholders fields = .ok found) ↔
      ∀ field ∈ fields, ∃ placeholder, placeholderIn field.value = .ok placeholder := by
  induction fields with
  | nil => simp [placeholders]
  | cons field rest ih =>
      simp only [List.forall_mem_cons, ← ih, placeholders]
      cases placeholderIn field.value <;> cases placeholders rest <;>
        simp [bind, Except.bind, pure, Except.pure]

theorem placeholders_eq {found : List (HeaderName × String)}
    (read : placeholders fields = .ok found) : found = carried fields := by
  induction fields generalizing found with
  | nil => simpa [placeholders, carried, eq_comm] using read
  | cons field rest ih =>
      simp only [placeholders] at read
      cases first : placeholderIn field.value with
      | error failure => simp [first, bind, Except.bind] at read
      | ok placeholder =>
          cases others : placeholders rest with
          | error failure => simp [first, others, bind, Except.bind] at read
          | ok later =>
              have same := ih others
              simp only [first, others, bind, Except.bind, pure, Except.pure,
                Except.ok.injEq] at read
              subst read
              by_cases empty : placeholder = "" <;>
                simp [carried, first, empty, same]

theorem nodup_snoc {before : List (HeaderName × String)} {header : HeaderName} {credential : String}
    (distinct : (before.map (·.1.lower)).Nodup)
    (free : ¬ before.any (·.1.lower == header.lower)) :
    ((before ++ [(header, credential)]).map (·.1.lower)).Nodup := by
  rw [List.map_append, List.nodup_append]
  refine ⟨distinct, List.nodup_singleton _, ?_⟩
  rintro name member _ same rfl
  obtain ⟨item, present, rfl⟩ := List.mem_map.mp member
  simp only [List.map_cons, List.map_nil, List.mem_singleton] at same
  exact free (List.any_eq_true.mpr ⟨item, present, by simp [same]⟩)

/-- A loop that ends without a refusal authorized every placeholder, for distinct headers. -/
theorem collect_ok {call : ℕ} {rest : List String} {before credentials : List (HeaderName × String)}
    (collected : collect client exchange approved call rest before = .ok (.ok credentials))
    (distinct : (before.map (·.1.lower)).Nodup) :
    (credentials.map (·.1.lower)).Nodup ∧ ∃ added, credentials = before ++ added ∧
      added.length = rest.length ∧ ∀ index placeholder, rest[index]? = some placeholder →
        ∃ header credential, added[index]? = some (header, credential) ∧
          exchange (call + index) placeholder approved = .granted header credential := by
  induction rest generalizing call before with
  | nil =>
      obtain rfl : before = credentials := by simpa [collect] using collected
      exact ⟨distinct, [], by simp⟩
  | cons placeholder rest ih =>
      rw [collect] at collected
      split at collected
      · cases answer : exchange call placeholder approved with
        | forbidden | otherStatus | none => simp [answer, authorized] at collected
        | granted header credential =>
            simp only [answer, authorized] at collected
            split at collected
            · simp at collected
            · next free =>
                obtain ⟨nodup, added, rfl, count, answers⟩ :=
                  ih collected (nodup_snoc distinct free)
                refine ⟨nodup, (header, credential) :: added, by simp, by simp [count],
                  fun index other present => ?_⟩
                cases index with
                | zero =>
                    obtain rfl : placeholder = other := by simpa using present
                    exact ⟨header, credential, by simp, answer⟩
                | succ index =>
                    obtain ⟨header, credential, found, granted⟩ := answers index other present
                    exact ⟨header, credential, by simpa using found, by
                      rw [← granted, Nat.add_right_comm, Nat.add_assoc]⟩
      · contradiction

/-- The loop ends exactly where the client can send every placeholder that it comes to. -/
theorem collect_ends_iff {call : ℕ} {rest : List String} {before : List (HeaderName × String)}
    (distinct : (before.map (·.1.lower)).Nodup) :
    (∃ answer, collect client exchange approved call rest before = .ok answer) ↔
      ∀ index text, rest[index]? = some text →
        (∃ added : List (HeaderName × String), added.length = index ∧
          ((before ++ added).map (·.1.lower)).Nodup ∧ Grants exchange approved call rest added) →
          client.sends ("Bearer " ++ text) ∧ client.sends approved := by
  induction rest generalizing call before with
  | nil => simp [collect]
  | cons placeholder rest ih =>
      rw [collect]
      split
      · next sends =>
          have ended {answer : Except Response (List (HeaderName × String))}
              (stops : ∀ header credential added,
                ((before ++ (header, credential) :: added).map (·.1.lower)).Nodup →
                  exchange call placeholder approved ≠ .granted header credential) :
              (∃ other, (.ok answer : Except Failure _) = .ok other) ↔
                ∀ index text, (placeholder :: rest)[index]? = some text →
                  (∃ added : List (HeaderName × String), added.length = index ∧
                    ((before ++ added).map (·.1.lower)).Nodup ∧
                      Grants exchange approved call (placeholder :: rest) added) →
                    client.sends ("Bearer " ++ text) ∧ client.sends approved := by
            refine iff_of_true ⟨_, rfl⟩ ?_
            rintro (_ | index) text present ⟨added, count, nodup, granted⟩
            · obtain rfl : placeholder = text := by simpa using present
              exact sends
            · obtain ⟨⟨name, value⟩, later, rfl⟩ := List.exists_cons_of_length_eq_add_one count
              exact absurd granted.1 (stops name value later nodup)
          cases answer : exchange call placeholder approved with
          | forbidden | otherStatus | none => exact ended (by simp [answer])
          | granted header credential =>
              simp only [authorized]
              split
              · next taken =>
                  refine ended fun name value later nodup same => ?_
                  obtain ⟨rfl, rfl⟩ := ExchangeAnswer.granted.inj (answer.symm.trans same)
                  obtain ⟨item, present, named⟩ := List.any_eq_true.mp taken
                  rw [List.map_append, List.nodup_append] at nodup
                  exact absurd (beq_iff_eq.mp named)
                    (nodup.2.2 _ (List.mem_map_of_mem present) _ List.mem_cons_self)
              · next free =>
                  rw [ih (nodup_snoc distinct free)]
                  constructor
                  · rintro later (_ | index) text present ⟨added, count, nodup, granted⟩
                    · obtain rfl : placeholder = text := by simpa using present
                      exact sends
                    · obtain ⟨⟨name, value⟩, tail, rfl⟩ :=
                        List.exists_cons_of_length_eq_add_one count
                      obtain ⟨same, granted⟩ := granted
                      obtain ⟨rfl, rfl⟩ := ExchangeAnswer.granted.inj (answer.symm.trans same)
                      exact later index text (by simpa using present)
                        ⟨tail, by simpa using count, by simpa using nodup, granted⟩
                  · rintro all index text present ⟨added, count, nodup, granted⟩
                    exact all (index + 1) text (by simpa using present)
                      ⟨(header, credential) :: added, by simp [count], by simpa using nodup,
                        answer, granted⟩
      · next silent =>
          refine iff_of_false (by simp) fun all => silent ?_
          exact all 0 placeholder rfl ⟨[], rfl, by simpa using distinct, trivial⟩

theorem deleteAll_eq {names : List String} (distinct : names.Nodup)
    (present : ∀ name ∈ names, ∃ field ∈ fields, field.name.lower = name) :
    deleteAll map names fields =
      .ok (fields.filter fun field => !names.contains field.name.lower) := by
  induction names generalizing fields with
  | nil => simp [deleteAll]
  | cons name rest ih =>
      obtain ⟨absent, distinct_rest⟩ := List.nodup_cons.mp distinct
      have deleted := map.delete_eq (present name List.mem_cons_self)
      rw [deleteAll, deleted]
      dsimp only
      rw [ih distinct_rest fun other member => ?_]
      · simp only [List.filter_filter, List.contains_cons, Bool.not_or, bne]
        congr 2
        funext field
        rw [Bool.and_comm]
      · obtain ⟨field, kept, same⟩ := present other (List.mem_cons_of_mem _ member)
        refine ⟨field, List.mem_filter.mpr ⟨kept, ?_⟩, same⟩
        have different : other ≠ name := fun equal => absent (equal ▸ member)
        simpa [same] using different

theorem deleteAll_carried (map : HeaderMap) (fields : List Field) :
    deleteAll map ((carried fields).map (·.1.lower)).dedup fields =
      .ok (fields.filter fun field =>
        !((carried fields).map (·.1.lower)).dedup.contains field.name.lower) := by
  apply deleteAll_eq (List.nodup_dedup _)
  intro name member
  obtain ⟨item, carried_item, rfl⟩ := List.mem_map.mp (List.mem_dedup.mp member)
  obtain ⟨field, received, reads⟩ := List.mem_filterMap.mp carried_item
  refine ⟨field, received, ?_⟩
  split at reads
  · split at reads
    · contradiction
    · obtain rfl := Option.some.inj reads
      rfl
  · contradiction

theorem assign_slice {name : HeaderName} {value other : String} (different : other ≠ name.lower) :
    (map.assign name value fields).filter (·.name.lower == other) =
      fields.filter (·.name.lower == other) := by
  have sliced (fields : List Field) : fields.filter (·.name.lower == other) =
      (fields.filter (·.name.lower != name.lower)).filter (·.name.lower == other) := by
    rw [List.filter_filter]
    refine List.filter_congr fun field _ => ?_
    by_cases same : field.name.lower = other
    · simp [same, different]
    · simp [same]
  rw [sliced, map.assign_other, ← sliced]

/-- The assignments write each header once and leave the fields of other names. -/
theorem assignAll_slices (map : HeaderMap) (fields : List Field)
    {credentials : List (HeaderName × String)}
    (distinct : (credentials.map (·.1.lower)).Nodup) :
    (∀ item ∈ credentials, ∃ field, field.value = item.2 ∧
      (assignAll map credentials fields).filter (·.name.lower == item.1.lower) = [field]) ∧
    ∀ name, name ∉ credentials.map (·.1.lower) →
      (assignAll map credentials fields).filter (·.name.lower == name) =
        fields.filter (·.name.lower == name) := by
  induction credentials generalizing fields with
  | nil => simp [assignAll]
  | cons first rest ih =>
      obtain ⟨header, credential⟩ := first
      obtain ⟨absent, distinct_rest⟩ := List.nodup_cons.mp distinct
      obtain ⟨written, others⟩ := ih (map.assign header credential fields) distinct_rest
      refine ⟨fun item member => ?_, fun name missing => ?_⟩
      · rcases List.mem_cons.mp member with rfl | later
        · obtain ⟨field, value, slice⟩ := map.assign_self header credential fields
          exact ⟨field, value, (others header.lower absent).trans slice⟩
        · exact written item later
      · simp only [List.map_cons, List.mem_cons, not_or] at missing
        exact (others name missing.2).trans (assign_slice missing.1)

/-- Where the authority is read and the loop ends, a request with placeholders is answered or
swapped. -/
theorem swap_allOrNothing (map : HeaderMap) {hostname : Option String}
    (read : urlHostname tables (flow.hostHeader.getD "") = .ok hostname)
    (ends : hostname = some (String.ofList (tables.lower flow.approved.toList)) →
      ∃ answer, collect client exchange flow.approved 0 ((carried flow.fields).map (·.2)) [] =
        .ok answer) :
    ∃ after, swap tables map client exchange flow (carried flow.fields) = .ok after ∧
      ((after.response.isSome ∧ after.fields = flow.fields) ∨
        (after.response = none ∧
          ∃ credentials, Swapped tables exchange flow after.fields credentials)) := by
  simp only [swap, read, bind, Except.bind]
  split
  · exact ⟨_, rfl, .inl ⟨rfl, rfl⟩⟩
  · next matches_host =>
      obtain ⟨answer, collected⟩ := ends (not_not.mp matches_host)
      rw [collected]
      cases answer with
      | error response => exact ⟨_, rfl, .inl ⟨rfl, rfl⟩⟩
      | ok credentials =>
          obtain ⟨distinct, added, same, count, answers⟩ := collect_ok collected (by simp)
          obtain rfl : credentials = added := by simpa using same
          simp only [deleteAll_carried]
          refine ⟨_, rfl, .inr ⟨rfl, credentials, ?_⟩⟩
          obtain ⟨written, others⟩ := assignAll_slices map (flow.fields.filter
            fun field => !((carried flow.fields).map (·.1.lower)).dedup.contains field.name.lower)
            distinct
          refine ⟨?_, by simpa using count, fun call name placeholder listed => ?_, distinct,
            fun field kept => ?_, written⟩
          · rw [read, not_not.mp matches_host]
          · obtain ⟨header, credential, found, granted⟩ :=
              answers call placeholder (by simp [listed])
            exact ⟨header, credential, found, by simpa using granted⟩
          · have sliced := (List.mem_filter (p := (·.name.lower == field.name.lower))).mpr
              ⟨kept, beq_self_eq_true field.name.lower⟩
            by_cases assigned : field.name.lower ∈ credentials.map (·.1.lower)
            · obtain ⟨item, member, same⟩ := List.mem_map.mp assigned
              obtain ⟨only, value, slice⟩ := written item member
              left
              refine ⟨item, member, same.symm, ?_⟩
              rw [← same, slice, List.mem_singleton] at sliced
              rw [sliced, value]
            · rw [others _ assigned] at sliced
              obtain ⟨received, untouched⟩ := List.mem_filter.mp (List.mem_filter.mp sliced).1
              right
              refine ⟨received, fun item member same => ?_⟩
              simp only [List.contains_eq_mem, List.mem_dedup, Bool.not_eq_true',
                decide_eq_false_iff_not] at untouched
              exact untouched (List.mem_map.mpr ⟨item, member, same⟩)

/-- The tables for ASCII text without IPv6 addresses. -/
def Tables.ascii : Tables where
  lower text := text.map Char.toLower
  nfkc text := text
  isIPv6 _ := false

/-- A request to a host with one header field. -/
def Flow.sample (hostHeader value : String) : Flow where
  fields := [{ name := { text := "authorization", token := by decide }, value }]
  hostHeader := some hostHeader
  sni := some "api.test"
  host := "api.test"

end Drukbox.Proxy
