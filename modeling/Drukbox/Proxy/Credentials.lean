import Drukbox.Hosts.Schemas
import Drukbox.Proxy.Frame
import Drukbox.Proxy.RoundTrip
import Drukbox.SecretsExchange.Authorize

/-!
# Which credentials can be sent

A credential travels in a header of the exchange's answer and in one of the upstream request.  The
schemas check neither the prefix nor the value of an entry, so only some accepted entries make a
legal field value.  Basic makes one of every value.
-/

namespace Drukbox.Proxy

open SecretsExchange

/-- The credential of an upstream can be sent: it is a legal field value, the exchange answers with
it through any server, and the proxy puts exactly it on a request that it lets through. -/
structure CanBeSent (upstream : Upstream) (secret : Secret) : Prop where
  legal : isFieldValue (upstream.credential secret.value).toList
  answered : ∀ server : Sender, respond server upstream secret =
    .ok (.granted upstream.host upstream.authHeader (upstream.credential secret.value))
  swapped : ∀ {tables map client exchange flow after call name placeholder header},
    requestheaders tables map client exchange flow = .ok after → after.response = none →
      (carried flow.fields)[call]? = some (name, placeholder) →
        exchange call placeholder flow.approved =
          .granted header (readField (upstream.credential secret.value)) →
        header.text = upstream.authHeader →
          ∃ field, field.value = upstream.credential secret.value ∧
            after.fields.filter (·.name.lower == header.lower) = [field]

/-- The prefix of an entry. -/
def authPrefix (entry : SecretEntry) : String :=
  entry.authPrefix.getD "Bearer "

/-- Prefix and value are free of control characters and of characters outside Latin-1, nothing
starts with a space where the credential starts, and the value does not end with one. -/
def Sendable (entry : SecretEntry) (value : String) : Prop :=
  (authPrefix entry).toList.all isFieldChar ∧ value.toList.all isFieldChar ∧
    (if authPrefix entry = "" then value else authPrefix entry).toList.head? ≠ some ' ' ∧
      value.toList.getLast? ≠ some ' '

theorem isFieldValue_append (front : String) {value : String} (filled : value ≠ "") :
    isFieldValue (front ++ value).toList ↔
      front.toList.all isFieldChar ∧ value.toList.all isFieldChar ∧
        (if front = "" then value else front).toList.head? ≠ some ' ' ∧
          value.toList.getLast? ≠ some ' ' := by
  have filled_list : value.toList ≠ [] := fun empty =>
    filled (String.toList_inj.mp (by simp [empty]))
  have head : (front ++ value).toList.head? =
    (if front = "" then value else front).toList.head? := by
    split
    · next empty => simp [empty]
    · next present =>
        have present_list : front.toList ≠ [] :=
          fun empty => present (String.toList_inj.mp (by simp [empty]))
        simp [List.head?_append_of_ne_nil _ present_list]
  have last : (front ++ value).toList.getLast? = value.toList.getLast? := by
    simp [List.getLast?_append_of_ne_nil _ filled_list]
  unfold isFieldValue
  rw [head, last]
  simp [and_assoc]

/-- A legal credential can be sent. -/
theorem canBeSent_of_legal {upstream : Upstream} {secret : Secret}
    (host : isVisible upstream.host) (header : isVisible upstream.authHeader)
    (legal : isFieldValue (upstream.credential secret.value).toList) :
    CanBeSent upstream secret := by
  refine ⟨legal, fun server => (respond_ok_iff _ _ _ _).mpr ⟨?_, rfl⟩, ?_⟩
  · have sends : upstream.basicUser ≠ "" ∨
        server.sends (upstream.authPrefix ++ secret.value) := by
      refine or_iff_not_imp_left.mpr fun basic => ?_
      rw [Upstream.credential, if_neg basic] at legal
      exact server.legal legal
    simpa [Upstream.carries, server.legal (isFieldValue_of_isVisible host),
      server.legal (isFieldValue_of_isVisible header)] using sends
  · intro tables map client exchange flow after call name placeholder granted handled passes listed
      answer _
    have carries : carried flow.fields ≠ [] := by
      intro none_carried
      simp [none_carried] at listed
    obtain ⟨credentials, collected, sent⟩ := requestheaders_passes handled passes carries
    obtain ⟨distinct, added, same, -, answers⟩ := collect_ok collected (by simp)
    obtain rfl : credentials = added := by simpa using same
    obtain ⟨other, credential, found, also⟩ := answers call placeholder (by simp [listed])
    rw [Nat.zero_add, answer] at also
    obtain ⟨rfl, rfl⟩ := ExchangeAnswer.granted.inj also
    obtain ⟨written, -⟩ := assignAll_slices map _ distinct
    obtain ⟨field, value, slice⟩ := written _ (List.mem_of_getElem? found)
    refine ⟨field, ?_, ?_⟩
    · rw [value, readField_of_isFieldValue legal]
    · rw [sent, slice]

theorem mem_of_mem_intercalate {α : Type} {separator : List α} {parts : List (List α)} {item : α}
    (member : item ∈ separator.intercalate parts) :
    item ∈ separator ∨ ∃ part ∈ parts, item ∈ part := by
  induction parts with
  | nil => simp at member
  | cons first rest ih =>
      cases rest with
      | nil => exact .inr ⟨first, List.mem_cons_self, by simpa using member⟩
      | cons second rest =>
          rw [List.intercalate_cons_cons, List.mem_append, List.mem_append] at member
          rcases member with (here | between) | later
          · exact .inr ⟨first, List.mem_cons_self, here⟩
          · exact .inl between
          · rcases ih later with between | ⟨part, listed, inside⟩
            · exact .inl between
            · exact .inr ⟨part, List.mem_cons_of_mem _ listed, inside⟩

theorem isVisible_of_safe {text : String}
    (safe : ∀ char ∈ text.toList, isUrlSafe char = true ∨ char = '.') :
    isVisible text = true := by
  apply List.all_eq_true.mpr
  intro char member
  obtain ⟨low, high⟩ := toNat_of_safe (safe char member)
  rw [Bool.and_eq_true, decide_eq_true_iff, decide_eq_true_iff]
  omega

theorem safe_of_isHost {host : List Char} (valid : Registration.isHost host = true) :
    ∀ char ∈ host, isUrlSafe char = true ∨ char = '.' := by
  simp only [Registration.isHost, Bool.and_eq_true, List.all_eq_true] at valid
  intro char member
  have joined : host = ['.'].intercalate (host.splitOn '.') :=
    (List.intercalate_splitOn '.').symm
  rw [joined] at member
  rcases mem_of_mem_intercalate member with dot | ⟨label, listed, inside⟩
  · exact .inr (List.mem_singleton.mp dot)
  · left
    have shaped := valid.2 label listed
    cases label with
    | nil => simp at inside
    | cons head rest =>
        simp only [Registration.isLabel, Bool.and_eq_true, List.all_eq_true, Bool.or_eq_true,
          beq_iff_eq] at shaped
        rcases List.mem_cons.mp inside with rfl | later
        · simp [isUrlSafe, shaped.1.1.1]
        · rcases shaped.2 char later with letter | rfl
          · simp [isUrlSafe, letter]
          · decide

theorem isVisible_lowered {text : String} (visible : isVisible text = true) :
    isVisible (Registration.lowered text) = true := by
  have small : ∀ code ≤ 126, 33 ≤ code →
      33 ≤ (Char.ofNat code).toLower.toNat ∧ (Char.ofNat code).toLower.toNat ≤ 126 := by
    decide
  simp only [isVisible, Registration.lowered, String.toList_ofList, List.all_map,
    List.all_eq_true, Function.comp_apply, Bool.and_eq_true, decide_eq_true_iff] at visible ⊢
  intro char member
  obtain ⟨low, high⟩ := visible char member
  have bounds := small char.toNat high low
  rwa [Char.ofNat_toNat] at bounds

/-- The upstreams of a service that needs no entry of its own: a bearer and, for git, Basic. -/
theorem listed_upstreams :
    ∀ item ∈ Catalog.catalog ++ Catalog.builtInHosts,
      (∀ upstream ∈ item.2.upstreams, isVisible upstream.host ∧ isVisible upstream.authHeader ∧
        (upstream.basicUser = "" → upstream.authPrefix = "Bearer ")) ∧
      ∃ upstream ∈ item.2.upstreams, upstream.basicUser = "" ∧
        upstream.authPrefix = "Bearer " := by
  decide

/-- What the patterns of the fields leave. -/
theorem visible_of_wellFormed {raw : Registration} (valid : raw.wellFormed) :
    (∀ host, raw.lowerCase.host = some host → isVisible host) ∧
      ∀ header, raw.authHeader = some header → isVisible header := by
  simp only [Registration.wellFormed, Bool.and_eq_true] at valid
  obtain ⟨⟨⟨host, -⟩, header⟩, -⟩ := valid
  constructor
  · intro lower named
    obtain ⟨text, given_host, rfl⟩ := Option.map_eq_some_iff.mp named
    rw [given_host] at host
    exact isVisible_lowered (isVisible_of_safe (safe_of_isHost host))
  · intro text named
    rw [named] at header
    simp only [Option.all_some, Registration.isHeaderName, Bool.and_eq_true, List.all_eq_true,
      Bool.or_eq_true] at header
    have marks : ∀ char ∈ "!#$%&'*+.^_`|~-".toList, 33 ≤ char.toNat ∧ char.toNat ≤ 126 :=
      List.all_iff_forall_prop.mp (by decide)
    apply List.all_eq_true.mpr
    intro char member
    rw [Bool.and_eq_true, decide_eq_true_iff, decide_eq_true_iff]
    rcases header.2 char member with letter | mark
    · have safe : isUrlSafe char = true := by simp [isUrlSafe, letter]
      have bounds := toNat_of_safe (.inl safe)
      omega
    · exact marks char (List.contains_iff_mem.mp mark)

/-- What an accepted entry resolves to: every upstream takes the entry's prefix or Basic, and one
takes the prefix. -/
theorem upstreams_of_read {raw registration : Registration} {name : String} {service : Service}
    (accepted : raw.read = .ok registration)
    (resolves : Catalog.service name registration.toStorage = some service) :
    (∀ upstream ∈ service.upstreams, isVisible upstream.host ∧ isVisible upstream.authHeader ∧
      (upstream.basicUser = "" →
        upstream.authPrefix = authPrefix registration.toStorage)) ∧
    ∃ upstream ∈ service.upstreams, upstream.basicUser = "" ∧
      upstream.authPrefix = authPrefix registration.toStorage := by
  have listed (item : String × Service) (member : item ∈ Catalog.catalog ++ Catalog.builtInHosts)
      (bearer : registration.toStorage.authPrefix = none) :
      (∀ upstream ∈ item.2.upstreams, isVisible upstream.host ∧ isVisible upstream.authHeader ∧
        (upstream.basicUser = "" → upstream.authPrefix = authPrefix registration.toStorage)) ∧
      ∃ upstream ∈ item.2.upstreams, upstream.basicUser = "" ∧
        upstream.authPrefix = authPrefix registration.toStorage := by
    rw [authPrefix, bearer]
    exact listed_upstreams item member
  obtain ⟨rfl, -⟩ := Registration.read_ok accepted
  have valid : raw.wellFormed := by
    cases shaped : raw.wellFormed with
    | true => rfl
    | false =>
        simp [Registration.read, shaped, bind, Except.bind, throw, throwThe,
          MonadExceptOf.throw] at accepted
  obtain ⟨plain_host, plain_header⟩ := visible_of_wellFormed valid
  have named (text : String) (host : raw.lowerCase.toStorage.host = some text) :
      raw.lowerCase.host = some text := by
    simp only [Registration.toStorage, Option.ite_none_right_eq_some] at host
    exact host.2
  unfold Catalog.service at resolves
  cases host : raw.lowerCase.toStorage.host with
  | none =>
      rw [host] at resolves
      apply listed _ (List.mem_append_left _ (Dict.mem_of_lookup resolves))
      cases named : raw.lowerCase.host with
      | none => simp [Registration.toStorage, named, given]
      | some text =>
          simp only [Registration.toStorage, named, ite_eq_right_iff, reduceCtorEq, imp_false,
            Bool.not_eq_true, Bool.or_eq_false_iff] at host
          simp [Registration.toStorage, named, host.2]
  | some text =>
      rw [host] at resolves
      simp only at resolves
      split at resolves
      · next built_in =>
          cases resolves
          apply listed _ (List.mem_append_right _ (Dict.mem_of_lookup built_in))
          have carries : raw.lowerCase.builtIn := by
            rw [Registration.builtIn, named text host]
            simp [built_in]
          simp [Registration.toStorage, carries]
      · next custom =>
          simp only [Option.bind_eq_bind, Option.bind_eq_some_iff] at resolves
          obtain ⟨_, _, header, header_eq, front, front_eq, same⟩ := resolves
          cases same
          have visible_header : isVisible header := by
            simp only [Registration.toStorage, Option.ite_none_right_eq_some,
              Option.some.injEq] at header_eq
            obtain ⟨-, rfl⟩ := header_eq
            cases own : raw.authHeader with
            | none => simp [Registration.lowerCase, own, isVisible]
            | some own_header => simpa [Registration.lowerCase, own] using plain_header _ own
          have prefixed : authPrefix raw.lowerCase.toStorage = front := by
            simp [authPrefix, front_eq]
          simp only [List.mem_singleton, forall_eq, exists_eq_left, prefixed]
          exact ⟨⟨plain_host _ (named text host), visible_header, fun _ => trivial⟩,
            trivial, trivial⟩

/-- Every credential of an accepted entry can be sent exactly where its prefix and its value can. -/
theorem credentials_canBeSent_iff {raw registration : Registration} {name : String}
    {service : Service} (accepted : raw.read = .ok registration)
    (resolves : Catalog.service name registration.toStorage = some service) (secret : Secret)
    (filled : secret.value ≠ "") :
    (∀ upstream ∈ service.upstreams, CanBeSent upstream secret) ↔
      Sendable registration.toStorage secret.value := by
  obtain ⟨every, bearer, listed, no_basic, same⟩ := upstreams_of_read accepted resolves
  constructor
  · intro sent
    have legal := (sent bearer listed).legal
    rw [Upstream.credential, if_neg (by simp [no_basic]), same] at legal
    exact (isFieldValue_append _ filled).mp legal
  · intro sendable upstream member
    obtain ⟨host, header, takes⟩ := every upstream member
    apply canBeSent_of_legal host header
    by_cases basic : upstream.basicUser = ""
    · rw [Upstream.credential, if_neg (by simp [basic]), takes basic]
      exact (isFieldValue_append _ filled).mpr sendable
    · exact isFieldValue_basic basic _

/-- The entry holds the secret, or its issuer can return it. -/
def Holds (entry : SecretEntry) (secret : Secret) : Prop :=
  entry.value = some secret.value ∨ (entry.issuer.isSome ∧ secret.value ≠ "")

/-- For every entry that `HostCreate` accepts and every secret of it: all its credentials can be
sent exactly where its prefix and the secret's value can. -/
theorem hostCreate_canBeSent_iff (request : HostCreate) {secrets : Dict Registration}
    (valid : request.validate = .ok secrets) {name : String} {registration : Registration}
    (member : (name, registration) ∈ secrets) (service : Service)
    (resolves : Catalog.service name registration.toStorage = some service) {secret : Secret}
    (holds : Holds registration.toStorage secret) :
    (∀ upstream ∈ service.upstreams, CanBeSent upstream secret) ↔
      Sendable registration.toStorage secret.value := by
  obtain ⟨raw, accepted⟩ :=
    HostCreate.raw_of_read (HostCreate.checked_of_validate valid).2.1 _ member
  have filled : secret.value ≠ "" := by
    rcases holds with held | ⟨-, filled⟩
    · intro empty
      have stored : given registration.value = some "" := by
        rw [← empty]
        exact held
      exact absurd (Option.filter_eq_some_iff.mp stored).2 (by decide)
    · exact filled
  exact credentials_canBeSent_iff accepted resolves secret filled

/-- A request with a static secret of a built-in service. -/
def anthropicRequest (value : String) : HostCreate where
  secrets := [("anthropic", { value := some value })]
  secrets_nodup := List.nodup_singleton _

/-- A plain token can be sent to both upstreams. -/
theorem hostCreate_canBeSent_token :
    CanBeSent { host := "api.anthropic.com" } { value := "sk" } ∧
      CanBeSent { host := "mcp-proxy.anthropic.com" } { value := "sk" } := by
  have sent :
    ∀ upstream ∈ ([{ host := "api.anthropic.com" }, { host := "mcp-proxy.anthropic.com" }] :
      List Upstream), CanBeSent upstream { value := "sk" } := by
    apply (hostCreate_canBeSent_iff (anthropicRequest "sk") rfl List.mem_cons_self ⟨_, _⟩ rfl
      (.inl rfl)).mpr
    unfold Sendable
    decide
  exact ⟨sent _ List.mem_cons_self, sent _ (List.mem_cons_of_mem _ List.mem_cons_self)⟩

/-- A value that ends with a line break is accepted, and its credential is no field value. -/
theorem hostCreate_accepts_lineBreak :
    ∃ secrets registration service upstream,
      (anthropicRequest "sk\n").validate = .ok secrets ∧ ("anthropic", registration) ∈ secrets ∧
        Catalog.service "anthropic" registration.toStorage = some service ∧
          Holds registration.toStorage { value := "sk\n" } ∧ upstream ∈ service.upstreams ∧
            ¬ CanBeSent upstream { value := "sk\n" } := by
  refine ⟨_, _, _, _, rfl, List.mem_cons_self, rfl, .inl rfl, List.mem_cons_self, fun sent => ?_⟩
  exact absurd sent.legal (by decide)

end Drukbox.Proxy
