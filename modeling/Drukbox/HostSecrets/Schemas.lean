import Drukbox.HostSecrets.Catalog
import Drukbox.HostSecrets.RoundTrip
import Drukbox.Providers.Environment

/-!
# Secret registrations

A request registers a secret as `host_secrets.schemas.SecretEntry`; the host row stores what
`to_storage` writes of it.
-/

namespace Drukbox

/-- `host_secrets.schemas.SecretEntry`, from a request. -/
structure Registration where
  host : Option String := none
  authVariable : Option String := none
  authHeader : Option String := none
  authPrefix : Option String := none
  value : Option String := none
  issuer : Option Issuer := none
  /-- The request sets `host` or `auth_variable` to null. -/
  setsNull : Bool := false
  deriving DecidableEq, Repr

namespace Registration

/-- `SERVICE_FIELDS & self.model_fields_set`. -/
def setsService (registration : Registration) : Bool :=
  registration.setsNull || registration.host.isSome || registration.authVariable.isSome ||
    registration.authHeader.isSome || registration.authPrefix.isSome

/-- A label of `HOST_PATTERN`. -/
def isLabel (label : List Char) : Bool :=
  match label with
  | [] => false
  | head :: rest =>
      head.isAlphanum && rest.length ≤ 62 && (label.getLastD head).isAlphanum &&
        rest.all fun char => char.isAlphanum || char == '-'

/-- `HOST_PATTERN`, and the length of a host name. -/
def isHost (host : List Char) : Bool :=
  host.length ≤ 253 && (host.splitOn '.').all isLabel

/-- `HeaderName`. -/
def isHeaderName (name : List Char) : Bool :=
  name ≠ [] && name.all fun char => char.isAlphanum || "!#$%&'*+.^_`|~-".toList.contains char

/-- The constraints of the fields. -/
def wellFormed (registration : Registration) : Bool :=
  (registration.host.all fun host => isHost host.toList) &&
    (registration.authVariable.all fun name => Environment.isName name.toList) &&
    (registration.authHeader.all fun name => isHeaderName name.toList) &&
    registration.value.all (· != "")

def lowerCase (registration : Registration) : Registration :=
  { registration with
    host := registration.host.map fun host => String.ofList (host.toList.map Char.toLower) }

/-- The host is one of `BUILT_IN_HOSTS`. -/
def builtIn (registration : Registration) : Bool :=
  registration.host.any fun host => (Catalog.builtInHosts.lookup host).isSome

def validateShape (registration : Registration) : Except Failure Unit := do
  if (given registration.value).isSome = registration.issuer.isSome then
    throw { kind := .value, detail := "provide exactly one of value or issuer" }
  let custom := registration.setsService && !registration.builtIn
  if custom ∧ ¬ ((given registration.host).isSome ∧ (given registration.authVariable).isSome) then
    throw { kind := .value, detail := "a custom service needs host and auth_variable" }

/-- What the model makes of the fields of a request. -/
def read (registration : Registration) : Except Failure Registration := do
  if !registration.wellFormed then
    throw { kind := .value, detail := "a field does not match its pattern" }
  let registration := registration.lowerCase
  registration.validateShape
  return registration

/-- `to_storage`.  A built-in host carries the whole service, so the entry keeps only the host. -/
def toStorage (registration : Registration) : SecretEntry :=
  let custom := !registration.builtIn && (given registration.host).isSome
  { host := if registration.builtIn || custom then registration.host else none
    authVariable := if custom then registration.authVariable else none
    authHeader := if custom then some (registration.authHeader.getD "Authorization") else none
    authPrefix := if custom then some (registration.authPrefix.getD "Bearer ") else none
    value := given registration.value
    issuer := if (given registration.value).isSome then none else registration.issuer }

theorem read_ok {raw registration : Registration} (accepted : raw.read = .ok registration) :
    registration = raw.lowerCase ∧ registration.validateShape = .ok () := by
  rw [read] at accepted
  simp only [bind, Except.bind, pure, Except.pure, throw, throwThe, MonadExceptOf.throw] at accepted
  split at accepted
  · cases accepted
  · split at accepted
    · cases accepted
    · next shape =>
        cases accepted
        exact ⟨rfl, shape⟩

theorem shaped_of_validateShape {registration : Registration}
    (shaped : registration.validateShape = .ok ()) :
    (given registration.value).isSome ≠ registration.issuer.isSome ∧
      ((given registration.host).isSome → registration.builtIn = false →
        registration.authVariable.isSome) := by
  rw [validateShape] at shaped
  simp only [bind, Except.bind, throw, throwThe, MonadExceptOf.throw, pure, Except.pure] at shaped
  split at shaped
  · cases shaped
  · next differs =>
      refine ⟨differs, fun present custom => ?_⟩
      split at shaped
      · cases shaped
      · next complete =>
          have set : registration.setsService := by
            cases host : registration.host with
            | none => simp [given, host] at present
            | some host => simp [setsService, host]
          have named := not_not.mp fun missing => complete ⟨by simp [set, custom], missing⟩
          cases name : registration.authVariable with
          | none => simp [given, name] at named
          | some name => rfl

/-- What a request stores has exactly one of a nonempty value and an issuer, and resolves. -/
theorem toStorage_stored {registration : Registration} {name : String}
    (shaped : registration.validateShape = .ok ())
    (known : (given registration.host).isSome ∨ (Catalog.catalog.lookup name).isSome) :
    registration.toStorage.Stored name := by
  obtain ⟨differs, custom⟩ := shaped_of_validateShape shaped
  refine ⟨?_, ?_, ?_⟩
  · cases host : registration.host with
    | none =>
        have listed : (Catalog.catalog.lookup name).isSome := by
          simpa [given, host] using known
        simpa [Catalog.service, toStorage, builtIn, host, given] using listed
    | some text =>
        cases built_in : Catalog.builtInHosts.lookup text with
        | some service => simp [Catalog.service, toStorage, builtIn, host, built_in]
        | none =>
            have ordinary : registration.builtIn = false := by simp [builtIn, host, built_in]
            by_cases empty : text = ""
            · subst empty
              have listed : (Catalog.catalog.lookup name).isSome := by
                simpa [given, host] using known
              simpa [Catalog.service, toStorage, ordinary, host, given] using listed
            · have present : (given registration.host).isSome := by simp [given, host, empty]
              obtain ⟨variable_name, named⟩ :=
                Option.isSome_iff_exists.mp (custom present ordinary)
              rw [host] at present
              simp [Catalog.service, toStorage, ordinary, present, host, built_in, named]
  · intro empty
    have filled := (Option.filter_eq_some_iff.mp empty).2
    exact absurd filled (by decide)
  · simp only [toStorage]
    cases present : (given registration.value).isSome with
    | true => rfl
    | false =>
        rw [present] at differs
        cases issued : registration.issuer with
        | none => simp [issued] at differs
        | some issuer => rfl

theorem read_wellFormed {raw registration : Registration} (accepted : raw.read = .ok registration) :
    raw.wellFormed := by
  cases shaped : raw.wellFormed with
  | true => rfl
  | false =>
      simp [read, shaped, bind, Except.bind, throw, throwThe, MonadExceptOf.throw] at accepted

/-- `str.lower`, of a text in ASCII. -/
def lowered (text : String) : String :=
  String.ofList (text.toList.map Char.toLower)

theorem toLower_toLower (char : Char) : char.toLower.toLower = char.toLower := by
  by_cases upper : 'A' ≤ char ∧ char ≤ 'Z'
  · have small : ∀ code ≤ 90, (Char.ofNat code).toLower.toLower = (Char.ofNat code).toLower := by
      decide
    have bound : char.toNat ≤ 90 := upper.2
    have same := small char.toNat bound
    rwa [Char.ofNat_toNat] at same
  · have kept : char.toLower = char := dif_neg upper
    rw [kept, kept]

theorem lowered_lowered (text : String) : lowered (lowered text) = lowered text := by
  rw [lowered, lowered, String.toList_ofList, List.map_map]
  refine congrArg String.ofList (List.map_congr_left fun char _ => ?_)
  exact toLower_toLower char

/-- A stored entry resolves to what its request asks for. -/
structure Resolves (raw : Registration) (name : String) (entry : SecretEntry) : Prop where
  resolves : (Catalog.service name entry).isSome
  exactly_one : entry.value.isSome = !entry.issuer.isSome
  /-- Every upstream is in lower case. -/
  lower : ∀ service, Catalog.service name entry = some service →
    ∀ upstream ∈ service.upstreams, lowered upstream.host = upstream.host
  /-- A built-in host, in any case, is its service. -/
  built_in : ∀ host service, raw.host = some host →
    Catalog.builtInHosts.lookup (lowered host) = some service →
      Catalog.service name entry = some service
  /-- Any other host is a service with the variable, header and prefix of the request. -/
  custom : ∀ host, raw.host = some host → Catalog.builtInHosts.lookup (lowered host) = none →
    ∃ authVariable, raw.authVariable = some authVariable ∧
      Catalog.service name entry = some
        { authVariable
          upstreams :=
            [{ host := lowered host
               authHeader := raw.authHeader.getD "Authorization"
               authPrefix := raw.authPrefix.getD "Bearer " }] }

theorem listed_lower : ∀ item ∈ Catalog.catalog ++ Catalog.builtInHosts,
    ∀ upstream ∈ item.2.upstreams, lowered upstream.host = upstream.host := by
  decide

theorem host_ne_empty {raw : Registration} (valid : raw.wellFormed) {host : String}
    (named : raw.host = some host) : lowered host ≠ "" := by
  intro empty
  have blank : host.toList = [] := by
    have mapped := congrArg String.toList empty
    rw [lowered, String.toList_ofList] at mapped
    exact List.map_eq_nil_iff.mp mapped
  simp only [wellFormed, Bool.and_eq_true, named, Option.all_some, blank] at valid
  exact absurd valid.1.1.1 (by decide)

/-- A host of the request's own stores the service that the request describes. -/
theorem service_custom {raw : Registration} {name host : String} (valid : raw.wellFormed)
    (shaped : raw.lowerCase.validateShape = .ok ()) (named : raw.host = some host)
    (ordinary : Catalog.builtInHosts.lookup (lowered host) = none) :
    ∃ authVariable, raw.authVariable = some authVariable ∧
      Catalog.service name raw.lowerCase.toStorage = some
        { authVariable
          upstreams :=
            [{ host := lowered host
               authHeader := raw.authHeader.getD "Authorization"
               authPrefix := raw.authPrefix.getD "Bearer " }] } := by
  have lower_host : raw.lowerCase.host = some (lowered host) := by
    rw [lowerCase, named]
    rfl
  have own : raw.lowerCase.builtIn = false := by simp [builtIn, lower_host, ordinary]
  have present : (given raw.lowerCase.host).isSome := by
    simp [given, lower_host, host_ne_empty valid named]
  obtain ⟨authVariable, set⟩ :=
    Option.isSome_iff_exists.mp ((shaped_of_validateShape shaped).2 present own)
  refine ⟨authVariable, set, ?_⟩
  rw [lower_host] at present
  simp only [Catalog.service, toStorage, own, lower_host, present, Bool.not_false, Bool.true_and,
    Bool.false_or, if_true, ordinary, set]
  rfl

/-- Every entry that validation reads resolves to what it asks for, once its name or its host is
known. -/
theorem resolves_of_read {raw registration : Registration} {name : String}
    (accepted : raw.read = .ok registration)
    (known : (given registration.host).isSome ∨ (Catalog.catalog.lookup name).isSome) :
    raw.Resolves name registration.toStorage := by
  have valid := read_wellFormed accepted
  obtain ⟨rfl, shaped⟩ := read_ok accepted
  have stored := toStorage_stored shaped known
  have built_in {host : String} {service : Service} (named : raw.host = some host)
      (listed : Catalog.builtInHosts.lookup (lowered host) = some service) :
      Catalog.service name raw.lowerCase.toStorage = some service := by
    have lower_host : raw.lowerCase.host = some (lowered host) := by
      rw [lowerCase, named]
      rfl
    simp [Catalog.service, toStorage, builtIn, lower_host, listed]
  refine ⟨stored.resolves, stored.exactly_one, fun service resolved => ?_,
    fun host service => built_in, fun host named ordinary =>
      service_custom valid shaped named ordinary⟩
  cases named : raw.host with
  | none =>
      have catalogued : Catalog.service name raw.lowerCase.toStorage =
          Catalog.catalog.lookup name := by
        simp [Catalog.service, toStorage, lowerCase, named]
      rw [catalogued] at resolved
      exact listed_lower _ (List.mem_append_left _ (Dict.mem_of_lookup resolved))
  | some host =>
      cases listed : Catalog.builtInHosts.lookup (lowered host) with
      | some found =>
          obtain rfl := Option.some.inj ((built_in named listed).symm.trans resolved)
          exact listed_lower _ (List.mem_append_right _ (Dict.mem_of_lookup listed))
      | none =>
          obtain ⟨authVariable, -, custom⟩ := service_custom valid shaped named listed
          obtain rfl := Option.some.inj (custom.symm.trans resolved)
          intro upstream member
          obtain rfl := List.mem_singleton.mp member
          exact lowered_lowered host

end Registration

end Drukbox
