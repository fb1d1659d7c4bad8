import Mathlib.Data.List.Nodup
import Mathlib.Data.Int.Notation
import Mathlib.Data.Nat.Notation

/-!
# Time, errors and settings

The values that every part of drukbox shares: instants of one clock, Python's ordered dictionaries,
the exceptions that cross its functions, and the settings of a deployment.  An instant is an
integer, the microseconds since the epoch.
-/

namespace Drukbox

/-- `timedelta(seconds=count)`. -/
def seconds (count : ℕ) : ℤ := count * 1000000

/-- `timedelta(hours=count)`. -/
def hours (count : ℕ) : ℤ := seconds (count * 3600)

theorem seconds_nonneg (count : ℕ) : 0 ≤ seconds count := by
  simp only [seconds]
  omega

/-- A Python dictionary: keys in insertion order, each once. -/
abbrev Dict (α : Type) := List (String × α)

namespace Dict

variable {α : Type}

/-- `dict[key] = value`: an existing key keeps its place. -/
def set (dict : Dict α) (key : String) (value : α) : Dict α :=
  if dict.any fun item => item.1 == key then
    dict.map fun item => if item.1 == key then (key, value) else item
  else
    dict ++ [(key, value)]

/-- `dict.update(other)`. -/
def update (dict other : Dict α) : Dict α :=
  other.foldl (fun dict item => dict.set item.1 item.2) dict

theorem update_cons (dict other : Dict α) (key : String) (value : α) :
    dict.update ((key, value) :: other) = (dict.set key value).update other := rfl

theorem set_nil (key : String) (value : α) : Dict.set [] key value = [(key, value)] := rfl

theorem lookup_cons (dict : Dict α) (key query : String) (value : α) :
    List.lookup query ((key, value) :: dict) =
      if query = key then some value else List.lookup query dict := by
  rw [List.lookup_cons]
  by_cases same : query = key
  · simp [same]
  · rw [if_neg same, beq_false_of_ne same]

theorem lookup_map_set (dict : Dict α) {key query : String} (other : query ≠ key) (value : α) :
    (dict.map fun item => if item.1 == key then (key, value) else item).lookup query =
      dict.lookup query := by
  induction dict with
  | nil => rfl
  | cons item rest ih =>
      obtain ⟨name, held⟩ := item
      rw [List.map_cons]
      by_cases same : name = key
      · subst same
        rw [if_pos (beq_self_eq_true name), lookup_cons, lookup_cons, if_neg other,
          if_neg other, ih]
      · rw [if_neg (by simpa using same), lookup_cons, lookup_cons, ih]

theorem lookup_map_self (dict : Dict α) {key : String}
    (present : dict.any fun item => item.1 == key) (value : α) :
    (dict.map fun item => if item.1 == key then (key, value) else item).lookup key =
      some value := by
  induction dict with
  | nil => simp at present
  | cons item rest ih =>
      obtain ⟨name, held⟩ := item
      rw [List.map_cons]
      by_cases same : name = key
      · subst same
        rw [if_pos (beq_self_eq_true name), lookup_cons, if_pos rfl]
      · rw [List.any_cons, beq_false_of_ne same, Bool.false_or] at present
        rw [if_neg (by simpa using same), lookup_cons, if_neg (Ne.symm same), ih present]

/-- The last write of a key is what it holds. -/
theorem lookup_set (dict : Dict α) (key query : String) (value : α) :
    (dict.set key value).lookup query = if query = key then some value else dict.lookup query := by
  rw [set]
  by_cases present : dict.any fun item => item.1 == key
  · rw [if_pos present]
    by_cases asked : query = key
    · rw [if_pos asked, asked, lookup_map_self dict present]
    · rw [if_neg asked, lookup_map_set dict asked]
  · have free : dict.lookup key = none := by
      refine List.lookup_eq_none_iff.mpr fun item member => ?_
      have other : key ≠ item.1 := by
        rintro rfl
        exact present (List.any_eq_true.mpr ⟨item, member, beq_self_eq_true item.1⟩)
      simpa using other
    rw [if_neg present, List.lookup_append, lookup_cons]
    by_cases asked : query = key
    · rw [if_pos asked, asked, free, Option.none_or, if_pos rfl]
    · rw [if_neg asked, if_neg asked]
      exact Option.or_none

theorem lookup_update (dict other : Dict α) (query : String) :
    (dict.update other).lookup query = (other.reverse.lookup query).or (dict.lookup query) := by
  induction other generalizing dict with
  | nil => rfl
  | cons item rest ih =>
      obtain ⟨name, value⟩ := item
      rw [update_cons, ih, lookup_set, List.reverse_cons, List.lookup_append, lookup_cons,
        Option.or_assoc]
      by_cases asked : query = name
      · rw [if_pos asked, if_pos asked, Option.some_or]
      · rw [if_neg asked, if_neg asked]
        rfl

theorem mem_of_lookup {dict : Dict α} {key : String} {value : α}
    (found : dict.lookup key = some value) : (key, value) ∈ dict := by
  induction dict with
  | nil => cases found
  | cons item rest ih =>
      obtain ⟨name, held⟩ := item
      rw [lookup_cons] at found
      split at found
      · next same =>
          cases found
          exact same ▸ List.mem_cons_self
      · exact List.mem_cons_of_mem _ (ih found)

theorem lookup_of_mem {dict : Dict α} (distinct : (dict.map Prod.fst).Nodup) {key : String}
    {value : α} (member : (key, value) ∈ dict) : dict.lookup key = some value := by
  induction dict with
  | nil => cases member
  | cons item rest ih =>
      obtain ⟨name, held⟩ := item
      rw [List.map_cons, List.nodup_cons] at distinct
      rw [lookup_cons]
      rcases List.mem_cons.mp member with same | later
      · cases same
        rw [if_pos rfl]
      · have other : key ≠ name := by
          rintro rfl
          exact distinct.1 (List.mem_map.mpr ⟨_, later, rfl⟩)
        rw [if_neg other, ih distinct.2 later]

/-- A dictionary of distinct keys holds what it is made of. -/
theorem lookup_update_nil {items : Dict α} (distinct : (items.map Prod.fst).Nodup)
    (query : String) :
    (Dict.update [] items).lookup query = items.lookup query := by
  have reversed : (items.reverse.map Prod.fst).Nodup := by
    rwa [List.map_reverse, List.nodup_reverse]
  have same (value : α) :
      items.reverse.lookup query = some value ↔ items.lookup query = some value := by
    constructor
    · intro found
      exact lookup_of_mem distinct (List.mem_reverse.mp (mem_of_lookup found))
    · intro found
      exact lookup_of_mem reversed (List.mem_reverse.mpr (mem_of_lookup found))
  rw [lookup_update]
  exact (Option.or_none).trans (Option.ext same)

theorem map_fst_set (dict : Dict α) (key : String) (value : α) :
    (dict.set key value).map Prod.fst =
      if key ∈ dict.map Prod.fst then dict.map Prod.fst else dict.map Prod.fst ++ [key] := by
  have present : (dict.any fun item => item.1 == key) = decide (key ∈ dict.map Prod.fst) := by
    rw [Bool.eq_iff_iff, List.any_eq_true, decide_eq_true_iff, List.mem_map]
    simp
  rw [set, present]
  by_cases member : key ∈ dict.map Prod.fst
  · rw [if_pos (decide_eq_true member), if_pos member, List.map_map]
    refine List.map_congr_left fun item _ => ?_
    by_cases same : item.1 = key
    · simp [same]
    · simp [same]
  · rw [if_neg (by simpa using member), if_neg member, List.map_append]
    rfl

theorem nodup_set {dict : Dict α} (distinct : (dict.map Prod.fst).Nodup) (key : String)
    (value : α) : ((dict.set key value).map Prod.fst).Nodup := by
  rw [map_fst_set]
  by_cases member : key ∈ dict.map Prod.fst
  · rwa [if_pos member]
  · rw [if_neg member]
    refine List.nodup_append.mpr ⟨distinct, List.nodup_singleton key, ?_⟩
    rintro other listed _ single rfl
    exact member (List.mem_singleton.mp single ▸ listed)

theorem nodup_update {dict : Dict α} (distinct : (dict.map Prod.fst).Nodup) (other : Dict α) :
    ((dict.update other).map Prod.fst).Nodup := by
  induction other generalizing dict with
  | nil => exact distinct
  | cons item rest ih => exact ih (nodup_set distinct item.1 item.2)

/-- Where no key repeats, an update takes what the other dictionary holds. -/
theorem lookup_update_of_nodup (dict : Dict α) {other : Dict α}
    (distinct : (other.map Prod.fst).Nodup) (query : String) :
    (dict.update other).lookup query = (other.lookup query).or (dict.lookup query) := by
  have fresh := lookup_update_nil distinct query
  rw [lookup_update, List.lookup_nil, Option.or_none] at fresh
  rw [lookup_update, fresh]

end Dict

/-- A string as Python's `or` reads it: the empty one is false. -/
def given (text : Option String) : Option String :=
  text.filter (· != "")

/-- The exception classes that the modelled functions raise or catch. -/
inductive ErrorKind
  | unknownProvider
  | unsupportedSizing
  | capabilityUnsupported
  | provider
  | providerNotFound
  | secretsProxyNotConfigured
  | unknownTemplate
  | templateNotAvailable
  | templateState
  | resourceNotFound
  | hostState
  | idempotencyKeyConflict
  | hostCapacity
  | provisioningFailed
  | hostKeyScan
  | missingSecret
  | issuer
  | issuerUnavailable
  | network
  | deviceDiscoveryTimeout
  | value
  | key
  | integrity
  | staleData
  | invalidRequest
  /-- Any class that no handler of the modelled functions names. -/
  | other
  deriving DecidableEq, Repr

namespace ErrorKind

/-- `type(exc).__name__`. -/
def name : ErrorKind → String
  | unknownProvider => "UnknownProviderError"
  | unsupportedSizing => "UnsupportedSizingError"
  | capabilityUnsupported => "CapabilityUnsupportedError"
  | provider => "ProviderError"
  | providerNotFound => "ProviderNotFoundError"
  | secretsProxyNotConfigured => "SecretsProxyNotConfiguredError"
  | unknownTemplate => "UnknownTemplateError"
  | templateNotAvailable => "TemplateNotAvailableError"
  | templateState => "TemplateStateError"
  | resourceNotFound => "ResourceNotFoundError"
  | hostState => "HostStateError"
  | idempotencyKeyConflict => "IdempotencyKeyConflictError"
  | hostCapacity => "HostCapacityError"
  | provisioningFailed => "ProvisioningFailedError"
  | hostKeyScan => "HostKeyScanError"
  | missingSecret => "MissingSecretError"
  | issuer => "IssuerError"
  | issuerUnavailable => "IssuerUnavailableError"
  | network => "NetworkError"
  | deviceDiscoveryTimeout => "DeviceDiscoveryTimeoutError"
  | value => "ValueError"
  | key => "KeyError"
  | integrity => "IntegrityError"
  | staleData => "StaleDataError"
  | invalidRequest => "InvalidRequestError"
  | other => "Exception"

/-- `isinstance(exc, ProviderError)`. -/
def isProviderError : ErrorKind → Bool
  | unknownProvider | unsupportedSizing | capabilityUnsupported | provider | providerNotFound =>
      true
  | _ => false

/-- `isinstance(exc, IssuerError)`. -/
def isIssuerError : ErrorKind → Bool
  | issuer | missingSecret => true
  | _ => false

/-- `isinstance(exc, NetworkError)`. -/
def isNetworkError : ErrorKind → Bool
  | network | deviceDiscoveryTimeout => true
  | _ => false

end ErrorKind

/-- A raised exception: its class and its message. -/
structure Failure where
  /-- Exception class. -/
  kind : ErrorKind
  /-- `str(exc)`. -/
  detail : String
  deriving DecidableEq, Repr

/-- `dict[key]`, from what the lookup found. -/
def required {α : Type} (key : String) : Option α → Except Failure α
  | some value => .ok value
  | none => .error { kind := .key, detail := "'" ++ key ++ "'" }

/-- `f"{type(exc).__name__}: {exc}"`. -/
def Failure.describe (failure : Failure) : String :=
  failure.kind.name ++ ": " ++ failure.detail

theorem Failure.describe_ne_empty (failure : Failure) : failure.describe ≠ "" := by
  intro empty
  have parts := String.append_eq_empty_iff.mp (String.append_eq_empty_iff.mp empty).1
  exact absurd parts.2 (by decide)

/-- `core.settings.Settings`, as far as the modelled functions read it. -/
structure Settings where
  defaultHostProvider : String
  secretsProxyUrl : String
  secretsProxyCaFile : String
  idempotencyKeyTtlHours : ℕ
  provisioningGraceSeconds : ℕ
  templateBuildTimeout : ℕ
  templateFailedRetention : ℕ
  templateUnusedTtl : ℕ
  leaseDefaultTtl : ℕ
  poolSizes : Dict ℕ
  hostLimits : Dict ℕ
  hostLimitPerServiceAccount : Option ℕ
  poolSize : ℕ
  poolHostMaxAgeHours : ℕ
  poolMaxCreatesPerTick : ℕ

/-- `Settings.get_pool_targets`: providers at zero drop out. -/
def Settings.getPoolTargets (settings : Settings) : Dict ℕ :=
  (Dict.update [(settings.defaultHostProvider, settings.poolSize)] settings.poolSizes).filter
    fun item => 0 < item.2

theorem Settings.nodup_getPoolTargets (settings : Settings) :
    (settings.getPoolTargets.map Prod.fst).Nodup := by
  have single : ([(settings.defaultHostProvider, settings.poolSize)].map Prod.fst).Nodup :=
    List.nodup_singleton _
  exact (Dict.nodup_update single settings.poolSizes).sublist (List.filter_sublist.map _)

end Drukbox
