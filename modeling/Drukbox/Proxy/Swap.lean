import Drukbox.HostSecrets.HeaderValue
import Drukbox.Proxy.Placeholders

/-!
# The swap of placeholders

`Swap.requestheaders` for one HTTPS request: every placeholder is authorized first, then all are
replaced at once.
-/

namespace Drukbox.Proxy

/-- The characters of a token. -/
def isTokenChar (char : Char) : Bool :=
  char.isAlphanum || "!#$%&'*+-.^_`|~".toList.contains char

/-- The name of a header field: a token. -/
structure HeaderName where
  text : String
  token : text.toList.all isTokenChar
  deriving DecidableEq

/-- `name.lower()`. -/
def HeaderName.lower (name : HeaderName) : String :=
  String.ofList (name.text.toList.map Char.toLower)

structure Field where
  name : HeaderName
  value : String
  deriving DecidableEq

/-- mitmproxy's header fields: a multi-map that compares names without case. -/
structure HeaderMap where
  /-- `del headers[name]`, for a name in lower case: `none` is its `KeyError`. -/
  delete : String → List Field → Option (List Field)
  /-- `headers[name] = value`. -/
  assign : HeaderName → String → List Field → List Field
  delete_eq : ∀ {name fields}, (∃ field ∈ fields, field.name.lower = name) →
    delete name fields = some (fields.filter (·.name.lower != name))
  assign_self : ∀ name value fields, ∃ field, field.value = value ∧
    (assign name value fields).filter (·.name.lower == name.lower) = [field]
  assign_other : ∀ name value fields,
    (assign name value fields).filter (·.name.lower != name.lower) =
      fields.filter (·.name.lower != name.lower)

namespace HeaderMap

/-- The first field of a name takes the value, and the others of the name go. -/
def write (name : HeaderName) (value : String) : List Field → List Field
  | [] => [{ name, value }]
  | field :: rest =>
      if field.name.lower == name.lower then
        { field with value } :: rest.filter (·.name.lower != name.lower)
      else
        field :: write name value rest

theorem write_self (name : HeaderName) (value : String) (fields : List Field) :
    ∃ field, field.value = value ∧
      (write name value fields).filter (·.name.lower == name.lower) = [field] := by
  induction fields with
  | nil => exact ⟨{ name, value }, rfl, by simp [write]⟩
  | cons first rest ih =>
      rw [write]
      split
      · next same =>
          refine ⟨{ first with value }, rfl, ?_⟩
          simp only [List.filter_cons, same, if_true, List.filter_filter, List.cons.injEq, true_and,
            List.filter_eq_nil_iff]
          intro field _
          simp
      · next different =>
          obtain ⟨field, written, slice⟩ := ih
          exact ⟨field, written, by simp [different, slice]⟩

theorem write_other (name : HeaderName) (value : String) (fields : List Field) :
    (write name value fields).filter (·.name.lower != name.lower) =
      fields.filter (·.name.lower != name.lower) := by
  induction fields with
  | nil => simp [write]
  | cons first rest ih =>
      rw [write]
      split
      · next same => simp_all
      · next different => simp [List.filter_cons, ih]

/-- The fields as a list. -/
def ofList : HeaderMap where
  delete name fields :=
    if fields.any (·.name.lower == name) then some (fields.filter (·.name.lower != name)) else none
  assign := write
  delete_eq present := if_pos (by simpa using present)
  assign_self := write_self
  assign_other := write_other

end HeaderMap

/-- What Python decides by tables: letter case and normal forms of Unicode, and the syntax of IPv6
addresses. -/
structure Tables where
  /-- `str.lower`. -/
  lower : List Char → List Char
  /-- `unicodedata.normalize("NFKC", ...)`. -/
  nfkc : List Char → List Char
  /-- `ipaddress.ip_address` reads an IPv6 address. -/
  isIPv6 : List Char → Bool

/-- `_check_bracketed_host`. -/
def Tables.bracketed (tables : Tables) (host : List Char) : Bool :=
  match host with
  | 'v' :: rest =>
      let isHex := fun char => (Uuid.digitValue char).isSome
      match rest.takeWhile isHex, rest.dropWhile isHex with
      | _ :: _, '.' :: _ :: _ => true
      | _, _ => false
  | _ => tables.isIPv6 host

/-- `_checknetloc`. -/
def Tables.normal (tables : Tables) (netloc : List Char) : Bool :=
  isAscii netloc ||
    (let plain := netloc.filter fun char => !"@:#?".toList.contains char
    let normal := tables.nfkc plain
    plain == normal || !normal.any fun char => "/?#@:".toList.contains char)

/-- `str.rpartition`, its last part. -/
def afterLast (separator : Char) (text : List Char) : List Char :=
  (text.reverse.takeWhile (· != separator)).reverse

/-- `urllib.parse.urlsplit(f"//{host}").hostname`. -/
def urlHostname (tables : Tables) (host : String) : Except Failure (Option String) := do
  let url := host.toList.filter fun char => !"\t\r\n".toList.contains char
  let netloc := url.takeWhile fun char => !"/?#".toList.contains char
  if netloc.contains '[' ≠ netloc.contains ']' then
    throw { kind := .value, detail := "Invalid IPv6 URL" }
  if netloc.contains '[' ∧ netloc.contains ']' ∧
      ¬ tables.bracketed (partition ']' (partition '[' netloc).2).1 then
    throw { kind := .value, detail := "invalid bracketed host" }
  if ¬ tables.normal netloc then
    throw
      { kind := .value
        detail :=
          "netloc '" ++ String.ofList netloc ++
            "' contains invalid characters under NFKC normalization" }
  let hostinfo := afterLast '@' netloc
  let hostname :=
    if hostinfo.contains '[' then (partition ']' (partition '[' hostinfo).2).1
    else (partition ':' hostinfo).1
  if hostname = [] then return none
  else
    return some (String.ofList
      (tables.lower (hostname.takeWhile (· != '%')) ++ hostname.dropWhile (· != '%')))

/-- How the exchange answers one placeholder. -/
inductive ExchangeAnswer
  /-- Status 200, with a header and a credential. -/
  | granted (header : HeaderName) (credential : String)
  /-- Status 403. -/
  | forbidden
  | otherStatus (code : ℕ)
  /-- A timeout or a refused connection. -/
  | none
  deriving DecidableEq

structure Response where
  status : ℕ
  body : String
  deriving DecidableEq, Repr

/-- An HTTPS request in `requestheaders`. -/
structure Flow where
  fields : List Field
  /-- The authority that the client sends. -/
  hostHeader : Option String
  sni : Option String
  host : String
  deriving DecidableEq

/-- What the hook leaves: without a response, mitmproxy sends the fields on. -/
structure Handled where
  response : Option Response
  fields : List Field
  deriving DecidableEq

/-- The host of the connection. -/
def Flow.approved (flow : Flow) : String :=
  (given flow.sni).getD flow.host

/-- `Exchange.authorize`, with what `Swap.swap` answers to a `Refused` or an
`ExchangeUnavailable`. -/
def authorized : ExchangeAnswer → Except Response (HeaderName × String)
  | .granted header credential => .ok (header, credential)
  | .forbidden => .error { status := 403, body := "placeholder refused\n" }
  | .otherStatus _ | .none => .error { status := 503, body := "exchange unavailable\n" }

/-- The loop over the placeholders, from the one with a number on.  The exchange gives an answer to
each call.  For a header that the client cannot send, `client.fetch` raises what `Exchange._get`
does not catch. -/
def collect (client : Sender) (exchange : ℕ → String → String → ExchangeAnswer)
    (approved : String) :
    ℕ → List String → List (HeaderName × String) →
      Except Failure (Except Response (List (HeaderName × String)))
  | _, [], credentials => .ok (.ok credentials)
  | call, placeholder :: rest, credentials =>
      if client.sends ("Bearer " ++ placeholder) ∧ client.sends approved then
        match authorized (exchange call placeholder approved) with
        | .error response => .ok (.error response)
        | .ok (header, credential) =>
            if credentials.any (·.1.lower == header.lower) then
              .ok (.error { status := 403, body := "placeholders conflict\n" })
            else
              collect client exchange approved (call + 1) rest
                (credentials ++ [(header, credential)])
      else
        .error { kind := .value, detail := "Illegal characters in header" }

/-- `del` for each name. -/
def deleteAll (map : HeaderMap) : List String → List Field → Except Failure (List Field)
  | [], fields => .ok fields
  | name :: rest, fields =>
      match map.delete name fields with
      | some fields => deleteAll map rest fields
      | none => .error { kind := .key, detail := name }

/-- An assignment for each credential. -/
def assignAll (map : HeaderMap) (credentials : List (HeaderName × String))
    (fields : List Field) : List Field :=
  credentials.foldl (fun fields item => map.assign item.1 item.2 fields) fields

def swap (tables : Tables) (map : HeaderMap) (client : Sender)
    (exchange : ℕ → String → String → ExchangeAnswer) (flow : Flow)
    (found : List (HeaderName × String)) : Except Failure Handled := do
  let authority ← urlHostname tables (flow.hostHeader.getD "")
  if authority ≠ some (String.ofList (tables.lower flow.approved.toList)) then
    let response := { status := 403, body := "host does not match the connection\n" }
    return { response := some response, fields := flow.fields }
  else
    match ← collect client exchange flow.approved 0 (found.map (·.2)) [] with
    | .error response => return { response := some response, fields := flow.fields }
    | .ok credentials => do
        -- Python's set gives the names in some order, and deletes of different names commute.
        let kept ← deleteAll map (found.map (·.1.lower)).dedup flow.fields
        return { response := none, fields := assignAll map credentials kept }

/-- The placeholders of a request, each with the name of its field. -/
def placeholders : List Field → Except Failure (List (HeaderName × String))
  | [] => .ok []
  | field :: rest => do
      let placeholder ← placeholderIn field.value
      let found ← placeholders rest
      return if placeholder = "" then found else (field.name, placeholder) :: found

/-- `Swap.requestheaders` of an HTTPS request. -/
def requestheaders (tables : Tables) (map : HeaderMap) (client : Sender)
    (exchange : ℕ → String → String → ExchangeAnswer) (flow : Flow) : Except Failure Handled := do
  let found ← placeholders flow.fields
  if found = [] then return { response := none, fields := flow.fields }
  else swap tables map client exchange flow found

end Drukbox.Proxy
