import Drukbox.Proxy.AllOrNothing

/-!
# What the swap leaves alone

The hook finds placeholders field by field and deletes name by name.  So the other fields of a
request stay exactly where no field without a placeholder shares its name with one that carries a
placeholder.
-/

namespace Drukbox.Proxy

variable {tables : Tables} {map : HeaderMap} {client : Sender}
  {exchange : ℕ → String → String → ExchangeAnswer} {flow : Flow} {fields : List Field}

/-- No placeholder was found in the field. -/
def Field.plain (field : Field) : Bool :=
  match placeholderIn field.value with
  | .ok placeholder => placeholder == ""
  | .error _ => false

/-- The names of the authorized credential headers, in lower case. -/
def grantedNames (exchange : ℕ → String → String → ExchangeAnswer) (flow : Flow) : List String :=
  (carried flow.fields).zipIdx.filterMap fun item =>
    match exchange item.2 item.1.2 flow.approved with
    | .granted header _ => some header.lower
    | .forbidden | .otherStatus _ | .none => none

/-- The field is not the swap's business: it carries no placeholder, and no credential goes under
its name. -/
def Flow.other (exchange : ℕ → String → String → ExchangeAnswer) (flow : Flow) (field : Field) :
    Bool :=
  field.plain && !(grantedNames exchange flow).contains field.name.lower

/-- The other fields are sent on as often as before and in their order. -/
def TouchesNothingElse (exchange : ℕ → String → String → ExchangeAnswer) (flow : Flow)
    (after : List Field) : Prop :=
  after.filter (flow.other exchange) = flow.fields.filter (flow.other exchange)

instance (exchange : ℕ → String → String → ExchangeAnswer) (flow : Flow) (after : List Field) :
    Decidable (TouchesNothingElse exchange flow after) :=
  inferInstanceAs (Decidable (_ = _))

/-- No other field shares its name with a field that carries a placeholder. -/
def Separate (exchange : ℕ → String → String → ExchangeAnswer) (flow : Flow) : Prop :=
  ∀ field ∈ flow.fields, flow.other exchange field →
    ∀ item ∈ carried flow.fields, item.1.lower ≠ field.name.lower

/-- The assignments leave the fields of all other names in their order. -/
theorem assignAll_other (map : HeaderMap) (credentials : List (HeaderName × String))
    (fields : List Field) {good : Field → Bool}
    (others : ∀ field, good field → ∀ item ∈ credentials, field.name.lower ≠ item.1.lower) :
    (assignAll map credentials fields).filter good = fields.filter good := by
  induction credentials generalizing fields with
  | nil => rfl
  | cons first rest ih =>
      obtain ⟨header, credential⟩ := first
      have narrowed (fields : List Field) : fields.filter good =
          (fields.filter (·.name.lower != header.lower)).filter good := by
        rw [List.filter_filter]
        apply List.filter_congr
        intro field _
        cases held : good field with
        | false => simp
        | true =>
            have different := others field held _ List.mem_cons_self
            simpa using different
      have assigned : (map.assign header credential fields).filter good = fields.filter good := by
        rw [narrowed (map.assign header credential fields), map.assign_other, ← narrowed]
      have later := ih (map.assign header credential fields) fun field held item member =>
        others field held item (List.mem_cons_of_mem _ member)
      exact later.trans assigned

/-- A request that is let through has its credentials in place of the names that carried
placeholders. -/
theorem requestheaders_passes {after : Handled}
    (handled : requestheaders tables map client exchange flow = .ok after)
    (passes : after.response = none) (carries : carried flow.fields ≠ []) :
    ∃ credentials,
      collect client exchange flow.approved 0 ((carried flow.fields).map (·.2)) [] =
        .ok (.ok credentials) ∧
        after.fields = assignAll map credentials (flow.fields.filter fun field =>
          !((carried flow.fields).map (·.1.lower)).dedup.contains field.name.lower) := by
  unfold requestheaders at handled
  cases read : placeholders flow.fields with
  | error failure => simp [read, bind, Except.bind] at handled
  | ok found =>
      obtain rfl := placeholders_eq read
      simp only [read, bind, Except.bind, carries, if_false, swap] at handled
      cases host : urlHostname tables (flow.hostHeader.getD "") with
      | error failure => simp [host] at handled
      | ok hostname =>
          simp only [host] at handled
          split at handled
          · obtain rfl := Except.ok.inj handled
            contradiction
          · cases collected : collect client exchange flow.approved 0
                ((carried flow.fields).map (·.2)) [] with
            | error failure => simp [collected] at handled
            | ok answer =>
                cases answer with
                | error response =>
                    rw [collected] at handled
                    obtain rfl := Except.ok.inj handled
                    contradiction
                | ok credentials =>
                    simp only [collected, deleteAll_carried] at handled
                    obtain rfl := Except.ok.inj handled
                    exact ⟨credentials, rfl, rfl⟩

/-- The credentials of the request go under the granted names. -/
theorem mem_grantedNames {credentials : List (HeaderName × String)}
    (collected :
      collect client exchange flow.approved 0 ((carried flow.fields).map (·.2)) [] =
        .ok (.ok credentials))
    (name : String) :
    name ∈ grantedNames exchange flow ↔ ∃ item ∈ credentials, item.1.lower = name := by
  obtain ⟨-, added, same, count, answers⟩ := collect_ok collected (by simp)
  obtain rfl : credentials = added := by simpa using same
  have granted (call : ℕ) (item : HeaderName × String)
      (placed : (carried flow.fields)[call]? = some item) :
      ∃ header credential, credentials[call]? = some (header, credential) ∧
        exchange call item.2 flow.approved = .granted header credential := by
    obtain ⟨header, credential, found, answer⟩ := answers call item.2 (by simp [placed])
    exact ⟨header, credential, found, by simpa using answer⟩
  simp only [grantedNames, List.mem_filterMap]
  constructor
  · rintro ⟨⟨item, call⟩, placed, names⟩
    obtain ⟨header, credential, found, answer⟩ :=
      granted call item (List.mk_mem_zipIdx_iff_getElem?.mp placed)
    rw [answer] at names
    exact ⟨(header, credential), List.mem_of_getElem? found, Option.some.inj names⟩
  · rintro ⟨item, member, rfl⟩
    obtain ⟨call, found⟩ := List.mem_iff_getElem?.mp member
    have placed : ∃ source, (carried flow.fields)[call]? = some source := by
      have bound : call < credentials.length := (List.getElem?_eq_some_iff.mp found).1
      rw [count, List.length_map] at bound
      exact ⟨_, List.getElem?_eq_getElem bound⟩
    obtain ⟨source, placed⟩ := placed
    obtain ⟨header, credential, same, answer⟩ := granted call source placed
    obtain rfl : item = (header, credential) := Option.some.inj (found.symm.trans same)
    exact ⟨(source, call), List.mk_mem_zipIdx_iff_getElem?.mpr placed, by rw [answer]⟩

/-- A request that is let through keeps its other fields exactly where they have names of their
own. -/
theorem requestheaders_touchesNothingElse_iff (tables : Tables) (map : HeaderMap)
    (client : Sender) (exchange : ℕ → String → String → ExchangeAnswer) (flow : Flow)
    (after : Handled)
    (handled : requestheaders tables map client exchange flow = .ok after)
    (passes : after.response = none) (carries : carried flow.fields ≠ []) :
    TouchesNothingElse exchange flow after.fields ↔ Separate exchange flow := by
  obtain ⟨credentials, collected, sent⟩ := requestheaders_passes handled passes carries
  have kept : after.fields.filter (flow.other exchange) =
      (flow.fields.filter fun field =>
        !((carried flow.fields).map (·.1.lower)).dedup.contains field.name.lower).filter
          (flow.other exchange) := by
    rw [sent]
    apply assignAll_other
    intro field other item member same
    have unnamed : field.name.lower ∉ grantedNames exchange flow := by
      simp only [Flow.other, Bool.and_eq_true, Bool.not_eq_true', List.contains_eq_mem,
        decide_eq_false_iff_not] at other
      exact other.2
    exact unnamed ((mem_grantedNames collected _).mpr ⟨item, member, same.symm⟩)
  rw [TouchesNothingElse, kept]
  constructor
  · intro same field received other item carried_item named
    have listed : field ∈ flow.fields.filter (flow.other exchange) :=
      List.mem_filter.mpr ⟨received, other⟩
    rw [← same] at listed
    have unnamed := (List.mem_filter.mp (List.mem_filter.mp listed).1).2
    simp only [List.contains_eq_mem, List.mem_dedup, Bool.not_eq_true', decide_eq_false_iff_not]
      at unnamed
    exact unnamed (List.mem_map.mpr ⟨item, carried_item, named⟩)
  · intro separate
    rw [List.filter_filter]
    apply List.filter_congr
    intro field received
    cases other : flow.other exchange field with
    | false => simp
    | true =>
        have unnamed : field.name.lower ∉ (carried flow.fields).map (·.1.lower) := by
          intro member
          obtain ⟨item, carried_item, named⟩ := List.mem_map.mp member
          exact separate field received other item carried_item named
        simp only [List.contains_eq_mem, List.mem_dedup, unnamed, decide_false, Bool.not_false,
          Bool.true_and]

/-- A request with two fields, the first with a placeholder. -/
def Flow.pair (second : HeaderName) (value : String) : Flow where
  fields :=
    [{ name := { text := "X-Key", token := by decide }, value := "drk.0.github.s" },
      { name := second, value }]
  hostHeader := some "api.test"
  sni := some "api.test"
  host := "api.test"

/-- An exchange that grants a bearer. -/
def grantsBearer : ℕ → String → String → ExchangeAnswer :=
  fun _ _ _ => .granted { text := "Authorization", token := by decide } "Bearer v"

/-- A field with a name of its own stays. -/
theorem requestheaders_keeps_other :
    TouchesNothingElse grantsBearer
      (Flow.pair { text := "Accept", token := by decide } "text/plain")
      [{ name := { text := "Accept", token := by decide }, value := "text/plain" },
        { name := { text := "Authorization", token := by decide }, value := "Bearer v" }] := by
  apply (requestheaders_touchesNothingElse_iff .ascii .ofList .tornado grantsBearer
    (Flow.pair { text := "Accept", token := by decide } "text/plain")
    { response := none, fields := _ } rfl rfl (by decide)).mpr
  unfold Separate
  decide

/-- A second field of the placeholder's name goes with it. -/
theorem requestheaders_drops_repeated :
    ∃ after, requestheaders .ascii .ofList .tornado grantsBearer
        (Flow.pair { text := "X-Key", token := by decide } "plain") = .ok after ∧
      after.response = none ∧
        carried (Flow.pair { text := "X-Key", token := by decide } "plain").fields ≠ [] ∧
          ¬ TouchesNothingElse grantsBearer
            (Flow.pair { text := "X-Key", token := by decide } "plain") after.fields := by
  refine ⟨_, rfl, rfl, ?_, ?_⟩
  · decide
  · decide

end Drukbox.Proxy
