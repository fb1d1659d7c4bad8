import Drukbox.Proxy.Credentials

/-!
# The proxy and the exchange together

The exchange behind the swap is `authorize` over the rows of the database, reached through HTTP
headers.  So a credential leaves only for an upstream of the entry whose placeholder the request
carries, and for each of them it does.
-/

namespace Drukbox.Proxy

open SecretsExchange

/-- What the exchange gets of a call of `Exchange.authorize`. -/
structure Arrives (text host : String) (request : Request) : Prop where
  authorization : Reads ("Bearer " ++ text) request.authorization
  forwardedHost : Reads host request.forwardedHost

/-- What the proxy gets of an outcome of `authorize`. -/
inductive Answers : Except Failure SecretsExchange.Response → ExchangeAnswer → Prop
  | forbidden : Answers (.ok .forbidden) .forbidden
  | unavailable : Answers (.ok .unavailable) (.otherStatus 503)
  | raised (failure : Failure) : Answers (.error failure) (.otherStatus 500)
  | granted (host : String) (header : HeaderName) (credential : String) :
      Answers (.ok (.granted host header.text credential)) (.granted header (readField credential))

/-- The answer to a call is the store's, or it is lost, or the server refuses what is no legal field
value. -/
inductive Relays (store : Store) (text host : String) : ExchangeAnswer → Prop
  | lost : Relays store text host .none
  | refused (code : ℕ)
      (odd : ¬ (isFieldValue ("Bearer " ++ text).toList ∧ isFieldValue host.toList)) :
      Relays store text host (.otherStatus code)
  | answered {request : Request} {answer : ExchangeAnswer} (arrives : Arrives text host request)
      (answers : Answers (store.authorize request) answer) : Relays store text host answer

/-- A credential is the one of an upstream, for an entry that the request has a placeholder of. -/
def Delivered (store : Store) (text host : String) (header : HeaderName)
    (credential : String) : Prop :=
  ∃ request placeholder entry upstream secret, Arrives text host request ∧
    store.Allows request placeholder entry upstream ∧
    (store.entries placeholder.hostId placeholder.service).Offers entry secret ∧
    header.text = upstream.authHeader ∧ credential = readField (upstream.credential secret.value)

variable {tables : Tables} {map : HeaderMap} {client : Sender}
  {exchange : ℕ → String → String → ExchangeAnswer} {flow : Flow} {after : Handled} {store : Store}
  {request : Request} {text host : String}

theorem allows_of_granted {header credential : String}
    (granted : store.authorize request = .ok (.granted host header credential)) :
    ∃ placeholder entry upstream secret, store.Allows request placeholder entry upstream ∧
      (store.entries placeholder.hostId placeholder.service).Offers entry secret ∧
      header = upstream.authHeader ∧ credential = upstream.credential secret.value := by
  have opened placeholder (host : Host)
      (read : Placeholder.read request.authorization = some placeholder)
      (row : store.hosts placeholder.hostId = some host) : store.opens placeholder.hostId := by
    by_contra closed
    obtain ⟨failure, raised⟩ :=
      Store.authorize_of_sealed read row (Bool.eq_false_of_not_eq_true closed)
    rw [granted] at raised
    contradiction
  by_cases allowed : ∃ placeholder entry upstream, store.Allows request placeholder entry upstream
  · obtain ⟨placeholder, entry, upstream, allows⟩ := allowed
    have sound : ¬ (store.entries placeholder.hostId placeholder.service).Breaks entry := by
      intro breaks
      obtain ⟨failure, raised⟩ := allows.authorize_of_breaks breaks
      rw [granted] at raised
      contradiction
    obtain ⟨served, current, exact_secret⟩ := Encounter.current_eq allows.stored sound
    obtain ⟨found, row, -⟩ := allows.present
    have answer := Store.authorize_of_allows allows (opened _ found allows.read row)
    rw [granted, current] at answer
    cases served with
    | none =>
        replace answer : Except.ok (.granted host header credential) =
          (.ok .unavailable : Except Failure SecretsExchange.Response) := answer
        cases Except.ok.inj answer
    | some secret =>
        replace answer : Except.ok _ = respond store.server upstream secret := answer
        obtain ⟨-, same⟩ := (respond_ok_iff _ _ _ _).mp answer.symm
        obtain ⟨-, rfl, rfl⟩ := SecretsExchange.Response.granted.inj same
        exact ⟨placeholder, entry, upstream, secret, allows, (exact_secret secret).mp rfl, rfl, rfl⟩
  · have refused placeholder entry upstream :
        ¬ store.Allows request placeholder entry upstream :=
      fun allows => allowed ⟨placeholder, entry, upstream, allows⟩
    have printed placeholder (host : Host) entry
        (read : Placeholder.read request.authorization = some placeholder)
        (row : store.hosts placeholder.hostId = some host)
        (found : host.secrets.lookup placeholder.service = some entry) :
        entry.placeholderFingerprint ≠ none := by
      intro missing
      obtain ⟨failure, raised⟩ := Store.authorize_of_unfingerprinted read row found missing
      rw [granted] at raised
      contradiction
    rw [Store.authorize_of_not_allows opened printed refused] at granted
    cases Except.ok.inj granted

/-- A credential that the proxy gets is of an upstream. -/
theorem Relays.delivered {header : HeaderName} {credential : String}
    (relays : Relays store text host (.granted header credential)) :
    Delivered store text host header credential := by
  generalize answered : ExchangeAnswer.granted header credential = answer at relays
  cases relays with
  | lost | refused => contradiction
  | answered arrives answers =>
      generalize outcome : store.authorize _ = response at answers
      cases answers with
      | forbidden => contradiction
      | unavailable => contradiction
      | raised failure => contradiction
      | granted named name value =>
          obtain ⟨rfl, rfl⟩ := ExchangeAnswer.granted.inj answered
          obtain ⟨placeholder, entry, upstream, secret, allows, offers, same, rfl⟩ :=
            allows_of_granted outcome
          exact ⟨_, placeholder, entry, upstream, secret, arrives, allows, offers, same, rfl⟩

/-- A request that is let through with placeholders has been swapped. -/
theorem swapped_of_passes (handled : requestheaders tables map client exchange flow = .ok after)
    (passes : after.response = none) (carries : carried flow.fields ≠ []) :
    ∃ credentials, Swapped tables exchange flow after.fields credentials := by
  unfold requestheaders at handled
  cases read : placeholders flow.fields with
  | error failure => simp [read, bind, Except.bind] at handled
  | ok found =>
      obtain rfl := placeholders_eq read
      simp only [read, bind, Except.bind, carries, if_false] at handled
      cases authority : urlHostname tables (flow.hostHeader.getD "") with
      | error failure => simp [swap, authority, bind, Except.bind] at handled
      | ok hostname =>
          have ends (same : hostname = some (String.ofList (tables.lower flow.approved.toList))) :
              ∃ answer, collect client exchange flow.approved 0
                ((carried flow.fields).map (·.2)) [] = .ok answer := by
            cases outcome : collect client exchange flow.approved 0
                ((carried flow.fields).map (·.2)) [] with
            | ok answer => exact ⟨answer, rfl⟩
            | error failure => simp [swap, authority, same, outcome, bind, Except.bind] at handled
          obtain ⟨found, swaps, way⟩ := swap_allOrNothing map authority ends
          obtain rfl := Except.ok.inj (swaps.symm.trans handled)
          rcases way with ⟨answered, -⟩ | ⟨-, swapped⟩
          · simp [passes] at answered
          · exact swapped

theorem plain_of_not_carried {fields : List Field} {found : List (HeaderName × String)}
    (read : placeholders fields = .ok found) {field : Field} (member : field ∈ fields)
    (absent : ∀ item ∈ carried fields, item.1.lower ≠ field.name.lower) : field.plain = true := by
  obtain ⟨placeholder, finds⟩ := (placeholders_ok_iff fields).mp ⟨found, read⟩ field member
  rw [Field.plain, finds]
  by_cases empty : placeholder = ""
  · simp [empty]
  · refine absurd rfl (absent (field.name, placeholder)
      (List.mem_filterMap.mpr ⟨field, member, ?_⟩))
    simp [finds, empty]

/-- Whatever a request carries and wherever it goes: where the proxy lets it through, each of its
fields is one that it had and that carries no placeholder, or the credential of an entry that the
exchange allows for what it reads of the placeholder, of an upstream whose host it reads as the host
of the connection. -/
theorem credentials_for_upstream {stores : ℕ → Store}
    (relays : ∀ call name text, (carried flow.fields)[call]? = some (name, text) →
      Relays (stores call) text flow.approved (exchange call text flow.approved))
    (handled : requestheaders tables map client exchange flow = .ok after)
    (passes : after.response = none) :
    ∀ field ∈ after.fields, (field ∈ flow.fields ∧ field.plain = true) ∨
      ∃ call name text header, (carried flow.fields)[call]? = some (name, text) ∧
        field.name.lower = header.lower ∧
          Delivered (stores call) text flow.approved header field.value := by
  have readable : ∃ found, placeholders flow.fields = .ok found := by
    unfold requestheaders at handled
    cases read : placeholders flow.fields with
    | error failure => simp [read, bind, Except.bind] at handled
    | ok found => exact ⟨found, rfl⟩
  obtain ⟨found, read⟩ := readable
  intro field member
  by_cases carries : carried flow.fields = []
  · have same : after.fields = flow.fields := by
      obtain rfl := placeholders_eq read
      simp only [requestheaders, read, bind, Except.bind, carries, if_true, pure, Except.pure]
        at handled
      obtain rfl := Except.ok.inj handled
      rfl
    rw [same] at member
    exact .inl ⟨member, plain_of_not_carried read member (by simp [carries])⟩
  · obtain ⟨credentials, swapped⟩ := swapped_of_passes handled passes carries
    rcases swapped.kept field member with ⟨item, listed, named, value⟩ | ⟨received, absent⟩
    · obtain ⟨call, placed⟩ := List.mem_iff_getElem?.mp listed
      have bound : call < (carried flow.fields).length := by
        rw [← swapped.count]
        exact (List.getElem?_eq_some_iff.mp placed).1
      have source := List.getElem?_eq_getElem bound
      obtain ⟨header, credential, same, granted⟩ := swapped.authorized call _ _ source
      obtain rfl := Option.some.inj (placed.symm.trans same)
      have relayed := relays call _ _ source
      rw [granted] at relayed
      exact .inr ⟨call, _, _, header, source, named, value ▸ relayed.delivered⟩
    · exact .inl ⟨received, plain_of_not_carried read received absent⟩

/-- A host with a static secret of a built-in service. -/
def githubStore : Store where
  sha256 := id
  hosts id := if id = 7 then
      some
        { id := 7, env := [], name := "sb-7"
          secrets := [("github", { value := some "ghp", placeholderFingerprint := some "s3" })]
          serviceAccount := none, status := .active, provider := "docker", image := "ubuntu"
          instanceType := none, diskGb := none, createdAt := 0, updatedAt := 0
          expiresAt := some 900000000, poolMember := false }
    else none
  opens _ := true
  server := .uvicorn
  entries _ _ :=
    { clock := fun _ => 0, found := { nextAttempt := 0 }, fetch := 0, answer := .issuerError
      later := fun _ => 0 }
  hosts_id _ _ := Store.id_of_single rfl
  stored _ _ _ _ := Store.stored_of_single rfl ⟨by decide, by decide, by decide⟩

def githubPlaceholder : Placeholder where
  hostId := 7
  service := "github"
  secret := "s3"

theorem accept_token : "Accept".toList.all isTokenChar := by decide

theorem authorization_token : "authorization".toList.all isTokenChar := by decide

theorem authorization_title_token : "Authorization".toList.all isTokenChar := by decide

/-- A request of its sandbox, beside a field of its own. -/
def githubFlow : Flow where
  fields :=
    [{ name := { text := "Accept", token := accept_token }, value := "*/*" },
      { name := { text := "authorization", token := authorization_token }
        value := "token " ++ githubPlaceholder.toText }]
  hostHeader := some "api.github.com"
  sni := some "api.github.com"
  host := "192.0.2.1"

/-- The answer of the exchange for it. -/
def githubExchange : ℕ → String → String → ExchangeAnswer :=
  fun _ _ _ => .granted { text := "Authorization", token := authorization_title_token } "Bearer ghp"

theorem githubExchange_relays :
    Relays githubStore githubPlaceholder.toText "api.github.com"
      (githubExchange 0 githubPlaceholder.toText "api.github.com") := by
  have read : Placeholder.read ("Bearer " ++ githubPlaceholder.toText) =
      some githubPlaceholder := by
    decide
  let request : Request :=
    { authorization := "Bearer " ++ githubPlaceholder.toText, forwardedHost := "api.github.com" }
  have granted : githubStore.authorize request =
      .ok (.granted "api.github.com" "Authorization" "Bearer ghp") := by
    rw [Store.authorize, read]
    rfl
  have arrives : Arrives githubPlaceholder.toText "api.github.com" request :=
    ⟨.refl _, .refl _⟩
  refine .answered arrives ?_
  rw [granted]
  exact .granted "api.github.com" { text := "Authorization", token := by decide } "Bearer ghp"

/-- The placeholder gives way, and the other field stays. -/
theorem credentials_for_upstream_github :
    ∃ after, requestheaders .ascii .ofList .tornado githubExchange githubFlow = .ok after ∧
      after.response = none ∧
      ∀ field ∈ after.fields, (field ∈ githubFlow.fields ∧ field.plain = true) ∨
        ∃ (call : ℕ) (name : HeaderName) (text : String) (header : HeaderName),
          (carried githubFlow.fields)[call]? = some (name, text) ∧
            field.name.lower = header.lower ∧
              Delivered githubStore text githubFlow.approved header field.value := by
  have relays (call : ℕ) (name : HeaderName) (text : String)
      (placed : (carried githubFlow.fields)[call]? = some (name, text)) :
      Relays githubStore text githubFlow.approved
        (githubExchange call text githubFlow.approved) := by
    have one : carried githubFlow.fields =
        [({ text := "authorization", token := by decide }, githubPlaceholder.toText)] := by
      decide
    rw [one] at placed
    cases call with
    | zero =>
        obtain ⟨rfl, rfl⟩ := Prod.mk.inj (Option.some.inj placed)
        exact githubExchange_relays
    | succ call => contradiction
  have handled : requestheaders .ascii .ofList .tornado githubExchange githubFlow = .ok
      { response := none
        fields :=
          [{ name := { text := "Accept", token := by decide }, value := "*/*" },
            { name := { text := "Authorization", token := by decide }, value := "Bearer ghp" }] } :=
    rfl
  exact ⟨_, handled, rfl, credentials_for_upstream relays handled rfl⟩

/-- A host holds a secret behind a placeholder that was minted for it. -/
structure Held (store : Store) (placeholder : Placeholder) (entry : SecretEntry)
    (secret : Secret) : Prop where
  minted : placeholder.Minted
  opened : store.opens placeholder.hostId
  row : ∃ host, store.hosts placeholder.hostId = some host ∧
    host.secrets.lookup placeholder.service = some entry
  fingerprint : entry.placeholderFingerprint = some (placeholder.fingerprint store.sha256)
  offers : (store.entries placeholder.hostId placeholder.service).Offers entry secret
  sound : ¬ (store.entries placeholder.hostId placeholder.service).Breaks entry

/-- A request for a host carries one placeholder, in the field of this name. -/
structure Addressed (tables : Tables) (flow : Flow) (host text : String) (name : HeaderName) :
    Prop where
  carries : placeholders flow.fields = .ok [(name, text)]
  approved : flow.approved = host
  authority : urlHostname tables (flow.hostHeader.getD "") =
    .ok (some (String.ofList (tables.lower flow.approved.toList)))

/-- A minted placeholder travels to the exchange as it is. -/
theorem isFieldValue_bearer {placeholder : Placeholder} (minted : placeholder.Minted) :
    isFieldValue ("Bearer " ++ placeholder.toText).toList := by
  have visible := isFieldValue_ends
    (isFieldValue_of_isVisible (isVisible_of_safe fun _ member => minted.mem_toText member))
  obtain ⟨rest, starts⟩ := placeholder.toList_eq_cons
  have filled : placeholder.toText ≠ "" := by
    intro empty
    rw [empty] at starts
    contradiction
  exact (isFieldValue_append "Bearer " filled).mpr
    ⟨by decide, List.all_eq_true.mpr visible.1, by simp, visible.2.2⟩

/-- The exchange grants the credential of an upstream to a request with the placeholder. -/
theorem Held.granted {placeholder : Placeholder} {entry : SecretEntry} {secret : Secret}
    {upstream : Upstream} {service : Service} (held : Held store placeholder entry secret)
    (resolves : Catalog.service placeholder.service entry = some service)
    (listed : upstream ∈ service.upstreams) (visible : isVisible upstream.host = true)
    (sent : CanBeSent upstream secret) {answer : ExchangeAnswer}
    (relays : Relays store placeholder.toText upstream.host answer) (answered : answer ≠ .none) :
    ∃ header, answer = .granted header (upstream.credential secret.value) ∧
      header.text = upstream.authHeader := by
  have bearer := isFieldValue_bearer held.minted
  have host := isFieldValue_of_isVisible visible
  cases relays with
  | lost => exact absurd rfl answered
  | refused code odd => exact absurd ⟨bearer, host⟩ odd
  | answered arrives answers =>
      have allows : store.Allows _ placeholder entry upstream :=
        { read := by
            rw [arrives.authorization.eq_of_isFieldValue bearer]
            exact held.minted.read_bearer
          present := held.row
          fingerprint := held.fingerprint
          member := ⟨service, resolves, listed⟩
          forwarded := (arrives.forwardedHost.eq_of_isFieldValue host).symm }
      obtain ⟨served, current, exact_secret⟩ := Encounter.current_eq allows.stored held.sound
      obtain rfl : served = some secret := (exact_secret secret).mpr held.offers
      have granted := Store.authorize_of_allows allows held.opened
      rw [current] at granted
      replace granted : store.authorize _ = respond store.server upstream secret := granted
      rw [granted, sent.answered] at answers
      generalize shown : upstream.authHeader = header at answers
      cases answers with
      | granted host header credential =>
          exact ⟨header, by rw [readField_of_isFieldValue sent.legal], rfl⟩

/-- A request with one placeholder that is granted has the credential in its place. -/
theorem requestheaders_granted {name header : HeaderName} {credential : String}
    (carries : placeholders flow.fields = .ok [(name, text)])
    (authority : urlHostname tables (flow.hostHeader.getD "") =
      .ok (some (String.ofList (tables.lower flow.approved.toList))))
    (sends : client.sends ("Bearer " ++ text) ∧ client.sends flow.approved)
    (granted : exchange 0 text flow.approved = .granted header credential) :
    requestheaders tables map client exchange flow = .ok
      { response := none
        fields := map.assign header credential
          (flow.fields.filter (·.name.lower != name.lower)) } := by
  have collected : collect client exchange flow.approved 0 [text] [] =
      .ok (.ok [(header, credential)]) := by
    simp [collect, sends, granted, authorized]
  have same := placeholders_eq carries
  have deleted := deleteAll_carried map flow.fields
  rw [← same] at deleted
  have kept (field : Field) : (!([(name, text)].map (·.1.lower)).dedup.contains field.name.lower) =
      (field.name.lower != name.lower) := by
    by_cases named : field.name.lower = name.lower
    · simp [named]
    · simp [named, bne_iff_ne.mpr named]
  simp only [kept] at deleted
  simp only [requestheaders, carries, bind, Except.bind, swap, authority, List.map_cons,
    List.map_nil, collected, ne_eq, not_true_eq_false, if_false, List.cons_ne_nil]
  rw [show [name.lower] = [(name, text)].map (·.1.lower) from rfl, deleted]
  rfl

/-- From registration to upstream: for every accepted entry whose prefix and value can be sent, a
request with its placeholder, on a connection to an upstream of it, is sent on with the credential
in the upstream's header, and otherwise as it came. -/
theorem swap_delivers (create : HostCreate) {secrets : Dict Registration}
    (valid : create.validate = .ok secrets) {registration : Registration}
    {placeholder : Placeholder} (member : (placeholder.service, registration) ∈ secrets)
    {service : Service}
    (resolves : Catalog.service placeholder.service registration.toStorage = some service)
    {upstream : Upstream} (listed : upstream ∈ service.upstreams) {secret : Secret}
    (filled : secret.value ≠ "") (sendable : Sendable registration.toStorage secret.value)
    (held : Held store placeholder
      { registration.toStorage with
        placeholderFingerprint := some (placeholder.fingerprint store.sha256) } secret)
    {name : HeaderName}
    (addressed : Addressed tables flow upstream.host placeholder.toText name)
    (relays : Relays store placeholder.toText upstream.host
      (exchange 0 placeholder.toText upstream.host))
    (answered : exchange 0 placeholder.toText upstream.host ≠ .none) :
    ∃ after, requestheaders tables map client exchange flow = .ok after ∧ after.response = none ∧
      ∃ header : HeaderName, header.text = upstream.authHeader ∧
        (∃ field, field.value = upstream.credential secret.value ∧
          after.fields.filter (·.name.lower == header.lower) = [field]) ∧
        after.fields.filter (fun field => !([name.lower, header.lower].contains field.name.lower)) =
          flow.fields.filter fun field =>
            !([name.lower, header.lower].contains field.name.lower) := by
  obtain ⟨raw, accepted⟩ :=
    HostCreate.raw_of_read (HostCreate.checked_of_validate valid).2.1 _ member
  have sent := (credentials_canBeSent_iff accepted resolves secret filled).mpr sendable upstream
    listed
  have visible := ((upstreams_of_read accepted resolves).1 upstream listed).1
  have sends : client.sends ("Bearer " ++ placeholder.toText) ∧ client.sends flow.approved :=
    ⟨client.legal (isFieldValue_bearer held.minted),
      client.legal (addressed.approved ▸ isFieldValue_of_isVisible visible)⟩
  obtain ⟨header, granted, named⟩ := held.granted
    ((Catalog.service_fingerprint _ _ _).trans resolves) listed visible sent relays answered
  rw [← addressed.approved] at granted
  refine ⟨_, requestheaders_granted addressed.carries addressed.authority sends granted, rfl,
    header, named, map.assign_self header _ _, ?_⟩
  have untouched (fields : List Field) :
      (map.assign header (upstream.credential secret.value) fields).filter
        (fun field => !([name.lower, header.lower].contains field.name.lower)) =
        fields.filter fun field => !([name.lower, header.lower].contains field.name.lower) :=
    assignAll_other map [(header, upstream.credential secret.value)] fields (by simp)
  rw [untouched]
  rw [List.filter_filter]
  apply List.filter_congr
  intro field _
  by_cases same : field.name.lower = name.lower
  · simp [same]
  · simp [same]

/-- The registration of that secret. -/
def githubRequest : HostCreate where
  secrets := [("github", { value := some "ghp" })]
  secrets_nodup := List.nodup_singleton _

theorem swap_delivers_github :
    ∃ after, requestheaders .ascii .ofList .tornado githubExchange githubFlow = .ok after ∧
      after.response = none ∧
      ∃ header : HeaderName, header.text = "Authorization" ∧
        ∃ field, field.value = "Bearer ghp" ∧
          after.fields.filter (·.name.lower == header.lower) = [field] := by
  have held : Held githubStore githubPlaceholder
      { value := some "ghp", placeholderFingerprint := some "s3" } { value := "ghp" } :=
    { minted := ⟨by decide, by decide, List.all_iff_forall_prop.mp (by decide)⟩
      opened := rfl
      row := ⟨_, rfl, rfl⟩
      fingerprint := rfl
      offers := .value "ghp" rfl
      sound := fun breaks => Option.some_ne_none _ breaks.1 }
  have addressed : Addressed .ascii githubFlow "api.github.com" githubPlaceholder.toText
      { text := "authorization", token := by decide } :=
    ⟨by decide, rfl, by decide⟩
  have member : ("github", ({ value := some "ghp" } : Registration)) ∈ githubRequest.secrets :=
    List.mem_cons_self
  have listed : ({ host := "api.github.com" } : Upstream) ∈ Catalog.github.upstreams :=
    List.mem_cons_self
  have delivered : ∃ after, requestheaders .ascii .ofList .tornado githubExchange githubFlow =
    .ok after ∧ _ :=
    swap_delivers githubRequest rfl member rfl listed (by decide) (by unfold Sendable; decide) held
      addressed githubExchange_relays (by decide)
  obtain ⟨after, handled, passes, header, named, credential, -⟩ := delivered
  exact ⟨after, handled, passes, header, named, credential⟩

end Drukbox.Proxy
