import Drukbox.Codec.Base64
import Drukbox.Core

/-!
# The catalog of secret services

A stored entry resolves to a service: the variable that a client reads and the upstreams that the
service reaches.  An entry that names a host of its own never consults the catalog.
-/

namespace Drukbox

structure Upstream where
  host : String
  authHeader : String := "Authorization"
  authPrefix : String := "Bearer "
  /-- Basic carries the credential as this user's password. -/
  basicUser : String := ""
  deriving DecidableEq, Repr

def Upstream.credential (upstream : Upstream) (value : String) : String :=
  if upstream.basicUser ≠ "" then
    "Basic " ++ String.ofList
      (Base64.encode (upstream.basicUser ++ ":" ++ value).toByteArray.data.toList)
  else
    upstream.authPrefix ++ value

structure Service where
  authVariable : String
  upstreams : List Upstream
  deriving DecidableEq, Repr

/-- An issuer as `SecretIssuer.to_storage` writes it. -/
structure Issuer where
  url : String
  headers : Dict String
  refresh : String
  deriving DecidableEq, Repr

/-- A stored secret entry: a dictionary, whose absent keys are `none`. -/
structure SecretEntry where
  host : Option String := none
  authVariable : Option String := none
  authHeader : Option String := none
  authPrefix : Option String := none
  value : Option String := none
  issuer : Option Issuer := none
  placeholderFingerprint : Option String := none
  deriving DecidableEq, Repr

namespace Catalog

/-- `CATALOG["github"]`: git's smart HTTP takes Basic with `x-access-token` as the user. -/
def github : Service :=
  { authVariable := "GH_TOKEN"
    upstreams :=
      [{ host := "api.github.com" }, { host := "uploads.github.com" },
        { host := "github.com", basicUser := "x-access-token" }] }

def catalog : Dict Service :=
  [("anthropic",
      { authVariable := "ANTHROPIC_AUTH_TOKEN"
        upstreams := [{ host := "api.anthropic.com" }, { host := "mcp-proxy.anthropic.com" }] }),
    ("github", github),
    ("openai", { authVariable := "OPENAI_API_KEY", upstreams := [{ host := "api.openai.com" }] })]

def builtInHosts : Dict Service := [("github.com", github)]

/-- `catalog.service`: `none` is the `KeyError` of a missing key. -/
def service (name : String) (entry : SecretEntry) : Option Service :=
  match entry.host with
  | some host =>
      match builtInHosts.lookup host with
      | some service => some service
      | none => do
          let authVariable ← entry.authVariable
          let authHeader ← entry.authHeader
          let authPrefix ← entry.authPrefix
          some { authVariable, upstreams := [{ host, authHeader, authPrefix }] }
  | none => catalog.lookup name

/-- A fingerprint does not change what an entry resolves to. -/
@[simp] theorem service_fingerprint (name : String) (entry : SecretEntry)
    (fingerprint : Option String) :
    service name { entry with placeholderFingerprint := fingerprint } = service name entry := rfl

theorem service_nodup {name : String} {entry : SecretEntry} {service : Service}
    (resolves : Catalog.service name entry = some service) :
    (service.upstreams.map Upstream.host).Nodup := by
  have listed : ∀ item ∈ catalog ++ builtInHosts, (item.2.upstreams.map Upstream.host).Nodup := by
    decide
  rw [Catalog.service] at resolves
  cases host_eq : entry.host with
  | none =>
      rw [host_eq] at resolves
      exact listed _ (List.mem_append_left _ (Dict.mem_of_lookup resolves))
  | some host =>
      rw [host_eq] at resolves
      simp only at resolves
      split at resolves
      · next built_in =>
          cases resolves
          exact listed _ (List.mem_append_right _ (Dict.mem_of_lookup built_in))
      · simp only [Option.bind_eq_bind, Option.bind_eq_some_iff] at resolves
        obtain ⟨_, _, _, _, _, _, same⟩ := resolves
        cases same
        exact List.nodup_singleton host

end Catalog

/-- What `HostCreate` accepts and `to_storage` writes: the entry resolves, and it holds exactly one
of a nonempty value and an issuer. -/
structure SecretEntry.Stored (name : String) (entry : SecretEntry) : Prop where
  resolves : (Catalog.service name entry).isSome
  nonempty : entry.value ≠ some ""
  exactly_one : entry.value.isSome = !entry.issuer.isSome

namespace SecretEntry.Stored

theorem fingerprint {name : String} {entry : SecretEntry} (stored : entry.Stored name)
    (fingerprint : Option String) :
    SecretEntry.Stored name { entry with placeholderFingerprint := fingerprint } :=
  ⟨stored.resolves, stored.nonempty, stored.exactly_one⟩

end SecretEntry.Stored

end Drukbox
