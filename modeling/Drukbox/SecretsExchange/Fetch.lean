import Drukbox.Await.Contract
import Drukbox.Hosts.Service
import Drukbox.SecretsExchange.Authorize

/-!
# The issuer's answer

`Secret.fetch` from the end of `client.get` on.  It turns the exceptions that it names into
`IssuerError`; a body of another shape, a body that `json.loads` cannot read for another reason than
its syntax, and an interval beyond the calendar leave it with exceptions that it does not name.  The
issuer's own reason goes into `last_error`, so a reason that no text column takes keeps the host
from being marked failed. -/

namespace Drukbox

open Await

namespace HostService

/-- How far `provision` is with a fetch that failed. -/
inductive FetchPhase
  | pending
  | failed
  /-- The host has been marked failed, or the secrets are behind it. -/
  | settled
  deriving DecidableEq

/-- After this failure of a fetch, nothing but the clock is read until the host has been marked
failed. -/
def failureContract (failure : Failure) (id : HostId) : Contract Op.Answer FetchPhase where
  allows phase op :=
    match phase, op with
    | .failed, .clock => True
    | .failed, .hosts (.update place target columns) =>
        place = .failure ∧ target = id ∧ columns.status = some .error ∧
          columns.lastError = some failure.describe
    | .failed, _ => False
    | .pending, _ | .settled, _ => True
  next phase op answer :=
    match phase, op, answer with
    | .settled, _, _ => .settled
    | .pending, .outside (.fetchSecret _), .error raised =>
        if raised = failure then .failed else .pending
    | .pending, .hosts (.update _ _ columns), _ =>
        if columns.status = some .creatingNetwork then .pending else .settled
    | .failed, .hosts _, _ => .settled
    | .pending, _, _ => .pending
    | .failed, _, _ => .failed

section Provision

variable {deployment : Deployment} {failure : Failure} {id : HostId} {phase : FetchPhase}
  {α : Type}

/-- The end of a program that leaves no failed fetch behind. -/
def Settles (phase : FetchPhase) (_ : Except Failure α) : Prop := phase ≠ .failed

theorem settled_follows (program : Task α) :
    Follows (failureContract failure id) Settles .settled program := by
  induction program with
  | done value => exact nofun
  | raise error => exact nofun
  | call op resume ih => exact ⟨trivial, fun answer _ => ih answer⟩

theorem markFailed_settles (secrets : Dict SecretEntry) {cause : Failure}
    (same : phase = .failed → cause = failure) :
    Follows (failureContract failure id) Settles phase (markFailed id secrets cause) := by
  cases phase with
  | pending | settled =>
      refine .step trivial fun now _ => .step trivial ?_
      rintro (_ | _) - <;> exact nofun
  | failed =>
      obtain rfl := same rfl
      refine .step trivial fun now _ => .step ⟨rfl, rfl, rfl, rfl⟩ ?_
      rintro (_ | _) - <;> exact nofun

theorem markFailed_pending (secrets : Dict SecretEntry) (cause : Failure) :
    Follows (failureContract failure id) Settles .pending (markFailed id secrets cause) :=
  markFailed_settles secrets nofun

theorem currentValue_follows (entry : SecretEntry) :
    Follows (failureContract failure id)
      (fun later outcome => later = .pending ∨ later = .failed ∧ outcome = .ok (.error failure))
      .pending (currentValue entry) := by
  unfold currentValue
  split
  · exact .inl rfl
  · refine ⟨trivial, ?_⟩
    rintro (raised | value) -
    · by_cases same : raised = failure
      · subst same
        exact .inr ⟨if_pos rfl, rfl⟩
      · exact .inl (if_neg same)
    · exact .inl rfl
  · exact .inl rfl

theorem putEntries_follows {host : Host} {vm : VMProvider} (entries secrets : Dict SecretEntry)
    (environment : Dict String) :
    Follows (failureContract failure id)
      (fun later outcome => later = .pending ∨
        later = .failed ∧ ∃ secrets, outcome = .ok (secrets, .error failure))
      .pending (putEntries deployment host vm entries secrets environment) := by
  induction entries generalizing secrets environment with
  | nil => exact .inl rfl
  | cons item rest ih =>
      obtain ⟨name, entry⟩ := item
      refine .step trivial fun secret _ => .bind ?_
      have value : Follows (failureContract failure id)
          (fun later outcome => later = .pending ∨ later = .failed ∧ outcome = .ok (.error failure))
          .pending (if vm.needsValue then currentValue entry else pure (.ok "")) := by
        split
        · exact currentValue_follows entry
        · exact .inl rfl
      refine value.weaken fun later outcome ended => ?_
      rcases ended with rfl | ⟨rfl, rfl⟩
      · rcases outcome with raised | (raised | value)
        · exact .inl rfl
        · exact .inl rfl
        · dsimp only
          split
          · exact .inl rfl
          · refine ⟨trivial, ?_⟩
            rintro (raised | added) -
            · exact .inl rfl
            · exact ih _ _
      · exact .inr ⟨rfl, _, rfl⟩

theorem injectSecrets_settles {host : Host} {vm : VMProvider} {tailnet : Option String}
    {environment : Dict String} {setupScript : Option String}
    (issuer : failure.kind.isIssuerError) :
    Follows (failureContract failure host.id) Settles .pending
      (injectSecrets deployment host vm tailnet environment setupScript) := by
  refine .bind ((putEntries_follows _ _ _).weaken fun later outcome ended => ?_)
  rcases ended with rfl | ⟨rfl, secrets, rfl⟩
  · rcases outcome with raised | ⟨secrets, outcome⟩
    · exact nofun
    · dsimp only
      split
      · refine .step trivial fun now _ => .step trivial fun matched _ => ?_
        exact settled_follows _
      · split
        · exact .bind ((markFailed_pending _ _).weaken fun later outcome ended => by
            cases outcome <;> exact ended)
        · split
          · exact markFailed_pending _ _
          · exact nofun
  · have marked : Follows (failureContract failure host.id) Settles .failed
        (if failure.kind = .missingSecret then do
            markFailed host.id secrets failure
            .raise failure
          else if failure.kind.isIssuerError ∨ failure.kind.isProviderError ∨
              failure.kind = .value then
            markFailed host.id secrets failure
          else
            .raise failure) := by
      split
      · exact .bind ((markFailed_settles _ fun _ => rfl).weaken fun later outcome ended => by
            cases outcome <;> exact ended)
      · rw [if_pos (.inl issuer)]
        exact markFailed_settles _ fun _ => rfl
    exact marked

/-- A fetch that ends in an `IssuerError` marks the host failed. -/
theorem provision_settles (host : Host) (issuer : failure.kind.isIssuerError) :
    Follows (failureContract failure host.id) Settles .pending (provision deployment host) := by
  refine .step trivial fun now _ => .bind (.step trivial fun matched _ => ?_)
  cases matched with
  | false => rintro ⟨⟩
  | true =>
      refine .bind ?_
      cases deployment.getVmProvider (some host.provider) with
      | error failure => rintro ⟨⟩
      | ok vm =>
          simp only [Program.ofExcept, Follows.done_iff]
          split
          · split
            · exact markFailed_pending _ _
            · refine .step trivial fun issued _ => ?_
              cases issued with
              | error cause =>
                  dsimp only
                  split
                  · exact markFailed_pending _ _
                  · rintro ⟨⟩
              | ok credentials => exact injectSecrets_settles issuer
          · exact injectSecrets_settles issuer

end Provision

end HostService

end Drukbox

namespace Drukbox.SecretsExchange

open Await

/-- A JSON value as `json.loads` gives it. -/
inductive Json
  | null
  | bool (value : Bool)
  | number (literal : String)
  | string (text : String)
  /-- A string with a lone surrogate: it has no encoding. -/
  | loneSurrogate
  | array (items : List Json)
  /-- A dictionary: each key once. -/
  | object (members : List (String × Json))

/-- Why `json.loads` raises. -/
inductive LoadFailure
  /-- `JSONDecodeError`. -/
  | syntaxError
  /-- `UnicodeDecodeError`, or the `ValueError` of an integer with too many digits. -/
  | value (detail : String)
  /-- `RecursionError`. -/
  | other (detail : String)

def isPrintable (text : String) : Bool :=
  text.toList.all fun char => 32 ≤ char.toNat && char.toNat ≤ 126

/-- What the interpreter, pydantic and the database make of texts. -/
structure Runtime where
  /-- `json.loads`. -/
  loads : List UInt8 → Except LoadFailure Json
  /-- `str` of a JSON value. -/
  text : Json → String
  /-- `AwareDatetime`. -/
  awareDatetime : Json → Option ℤ
  /-- A text column takes the text; otherwise the commit raises. -/
  stores : String → Bool
  stores_printable : ∀ {text}, isPrintable text → stores text
  stores_nul : ∀ {text}, '\x00' ∈ text.toList → stores text = false

/-- How `client.get` ends. -/
inductive HttpAnswer
  | response (status : ℕ) (body : List UInt8)
  /-- `httpx.LocalProtocolError`. -/
  | localProtocolError
  /-- Any other `httpx.HTTPError`, by the name of its class. -/
  | httpError (name : String) (ascii : isPrintable name)
  /-- No `httpx.HTTPError`: `InvalidURL`, for the location of a redirect, or the
  `UnicodeEncodeError` of a header value outside ASCII, which is a `ValueError`. -/
  | otherError (isValue : Bool) (detail : String)

namespace LoadFailure

/-- What leaves `fetch` for a body that `json.loads` cannot read. -/
def failure : LoadFailure → Failure
  | syntaxError => { kind := .issuer, detail := "answer is not JSON" }
  | value detail => { kind := .value, detail }
  | other detail => { kind := .other, detail }

end LoadFailure

namespace Secret

variable (runtime : Runtime)

/-- `answer has the wrong shape`. -/
def wrongShape : Failure :=
  { kind := .issuer, detail := "answer has the wrong shape" }

/-- `response.json()`. -/
def json (body : List UInt8) : Except Failure Json :=
  match runtime.loads body with
  | .ok json => .ok json
  | .error failure => .error failure.failure

/-- `response.json()["detail"]`: only a dictionary takes the key. -/
def detail : Json → Except Failure Json
  | .object members =>
      match members.lookup "detail" with
      | some reason => .ok reason
      | none => .error wrongShape
  | .null | .bool _ | .number _ | .string _ | .loneSurrogate | .array _ =>
      .error { kind := .other, detail := "indices must be integers" }

/-- The `expires_at` of an answer: none, null, or an aware datetime. -/
def expiry (members : List (String × Json)) : Option (Option ℤ) :=
  match members.lookup "expires_at" with
  | none | some .null => some none
  | some value => (runtime.awareDatetime value).map some

/-- `Secret.model_validate`: `none` is its `ValidationError`. -/
def modelValidate : Json → Option Secret
  | .object members =>
      match members.lookup "value" with
      | some (.string value) =>
          if value = "" then none
          else (expiry runtime members).map fun expiresAt => { value, expiresAt }
      | _ => none
  | .null | .bool _ | .number _ | .string _ | .loneSurrogate | .array _ => none

/-- The status and the body of an answer, up to the parsed secret. -/
def receive : HttpAnswer → Except Failure Secret
  | .localProtocolError => .error { kind := .issuer, detail := "issuer headers are not valid HTTP" }
  | .httpError name _ => .error { kind := .issuer, detail := name }
  | .otherError isValue detail => .error { kind := if isValue then .value else .other, detail }
  | .response status body =>
      if 400 ≤ status ∧ status ≤ 499 then do
        let json ← json runtime body
        let reason ← detail json
        .error { kind := .missingSecret, detail := runtime.text reason }
      else if 200 ≤ status ∧ status ≤ 299 then do
        let json ← json runtime body
        match modelValidate runtime json with
        | some secret => .ok secret
        | none => .error wrongShape
      else
        .error { kind := .issuer, detail := "status " ++ toString status }

/-- `REFRESH_PATTERN`. -/
def isRefresh : List Char → Bool
  | [] => false
  | head :: rest =>
      '1' ≤ head && head ≤ '9' && rest.dropLast.all Char.isDigit &&
        rest.getLast?.any fun unit => "smhd".toList.contains unit

/-- `_UNITS`. -/
def unitSeconds : Char → Option ℕ
  | 's' => some 1
  | 'm' => some 60
  | 'h' => some 3600
  | 'd' => some 86400
  | _ => none

/-- The number of a decimal literal. -/
def decimal (digits : List Char) : ℕ :=
  digits.foldl (fun value digit => value * 10 + (digit.toNat - '0'.toNat)) 0

/-- The longest literal that `int` reads. -/
def maxDigits : ℕ := 4300

/-- The days of the longest `timedelta`. -/
def maxDays : ℕ := 999999999

/-- `datetime.max`. -/
def maxInstant : ℤ := 253402300799999999

/-- `timedelta(seconds=int(interval[:-1]) * _UNITS[interval[-1]])`. -/
def lifetime (interval : List Char) : Except Failure ℤ :=
  if maxDigits < interval.dropLast.length then
    .error { kind := .value, detail := "Exceeds the limit for integer string conversion" }
  else do
    let unit ← required "unit" (interval.getLast?.bind unitSeconds)
    let count := decimal interval.dropLast * unit
    if maxDays < count / 86400 then
      .error { kind := .other, detail := "days must have magnitude <= 999999999" }
    else
      .ok (seconds count)

/-- `datetime.now(UTC) + lifetime`. -/
def after (now lifetime : ℤ) : Except Failure ℤ :=
  if maxInstant < now + lifetime then .error { kind := .other, detail := "date value out of range" }
  else .ok (now + lifetime)

/-- `Secret.fetch`, with its two readings of the clock. -/
def fetch (issuer : Issuer) (answer : HttpAnswer) (now later : ℤ) : Except Failure Secret := do
  let received ← receive runtime answer
  let secret ← match received.expiresAt with
    | some _ => pure received
    | none => do
        let lifetime ← lifetime issuer.refresh.toList
        let expiresAt ← after now lifetime
        pure { received with expiresAt := some expiresAt }
  if secret.isValid later then return secret
  else throw { kind := .issuer, detail := "answer has already expired" }

/-- The answer is 4xx with a detail. -/
def HasDetail : HttpAnswer → Prop
  | .response status body =>
      (400 ≤ status ∧ status ≤ 499) ∧ ∃ members reason,
        runtime.loads body = .ok (.object members) ∧ members.lookup "detail" = some reason
  | .localProtocolError | .httpError _ _ | .otherError _ _ => False

/-- The interval from now on is within the calendar, and short enough to be read. -/
def InCalendar (interval : List Char) (now : ℤ) : Prop :=
  interval.dropLast.length ≤ maxDigits ∧ ∃ unit, interval.getLast?.bind unitSeconds = some unit ∧
    decimal interval.dropLast * unit / 86400 ≤ maxDays ∧
      now + seconds (decimal interval.dropLast * unit) ≤ maxInstant

/-- `fetch` names what the answer leads to: a 4xx body is an object, with a detail that the database
can store, or no JSON; a 2xx body is any JSON or none, and where it sets no expiry, the interval
does within the calendar. -/
def Foreseen (interval : List Char) (now : ℤ) : HttpAnswer → Prop
  | .response status body =>
      if 400 ≤ status ∧ status ≤ 499 then
        runtime.loads body = .error .syntaxError ∨
          ∃ members, runtime.loads body = .ok (.object members) ∧
            ∀ reason, members.lookup "detail" = some reason →
              runtime.stores ("MissingSecretError: " ++ runtime.text reason)
      else if 200 ≤ status ∧ status ≤ 299 then
        runtime.loads body = .error .syntaxError ∨
          ∃ json, runtime.loads body = .ok json ∧ ∀ value,
            modelValidate runtime json = some { value } → InCalendar interval now
      else True
  | .localProtocolError | .httpError _ _ => True
  | .otherError _ _ => False

variable {runtime} {interval : List Char} {now later : ℤ}

theorem unit_of_isRefresh (accepted : isRefresh interval) :
    ∃ unit, interval.getLast?.bind unitSeconds = some unit := by
  cases interval with
  | nil => simp [isRefresh] at accepted
  | cons head rest =>
      simp only [isRefresh, Bool.and_eq_true] at accepted
      obtain ⟨char, last, listed⟩ := (Option.any_eq_true _ _).mp accepted.2
      have ends : (head :: rest).getLast? = some char := by
        cases rest with
        | nil => simp at last
        | cons => simpa [List.getLast?_cons_cons] using last
      have known : char = 's' ∨ char = 'm' ∨ char = 'h' ∨ char = 'd' := by simpa using listed
      rw [ends]
      rcases known with rfl | rfl | rfl | rfl
      · exact ⟨1, rfl⟩
      · exact ⟨60, rfl⟩
      · exact ⟨3600, rfl⟩
      · exact ⟨86400, rfl⟩

theorem lifetime_eq {unit : ℕ} (ends : interval.getLast?.bind unitSeconds = some unit) :
    lifetime interval =
      if maxDigits < interval.dropLast.length then
        .error { kind := .value, detail := "Exceeds the limit for integer string conversion" }
      else if maxDays < decimal interval.dropLast * unit / 86400 then
        .error { kind := .other, detail := "days must have magnitude <= 999999999" }
      else
        .ok (seconds (decimal interval.dropLast * unit)) := by
  rw [lifetime, ends]
  rfl

/-- The interval gives an expiry within the calendar, and otherwise an exception of the interpreter.
-/
theorem expires_of_isRefresh (accepted : isRefresh interval) (now : ℤ) :
    (InCalendar interval now ∧ ∃ expiresAt, (lifetime interval >>= after now) = .ok expiresAt) ∨
      (¬ InCalendar interval now ∧ ∃ failure, (lifetime interval >>= after now) = .error failure ∧
        ¬ failure.kind.isIssuerError) := by
  obtain ⟨unit, ends⟩ := unit_of_isRefresh accepted
  rw [lifetime_eq ends]
  by_cases short : maxDigits < interval.dropLast.length
  · rw [if_pos short]
    refine .inr ⟨fun within => ?_, _, rfl, by simp [ErrorKind.isIssuerError]⟩
    exact absurd within.1 (not_le.mpr short)
  rw [if_neg short]
  by_cases few : maxDays < decimal interval.dropLast * unit / 86400
  · rw [if_pos few]
    refine .inr ⟨?_, _, rfl, by simp [ErrorKind.isIssuerError]⟩
    rintro ⟨-, _, same, days, -⟩
    obtain rfl := Option.some.inj (ends.symm.trans same)
    exact absurd days (not_le.mpr few)
  rw [if_neg few]
  by_cases early : maxInstant < now + seconds (decimal interval.dropLast * unit)
  · refine .inr ⟨?_, _, if_pos early, by simp [ErrorKind.isIssuerError]⟩
    rintro ⟨-, _, same, -, within⟩
    obtain rfl := Option.some.inj (ends.symm.trans same)
    exact absurd within (not_le.mpr early)
  · exact .inl ⟨⟨not_lt.mp short, unit, ends, not_lt.mp few, not_lt.mp early⟩, _, if_neg early⟩

/-- What an answer gives before the fetch looks at the clock. -/
theorem fetch_of_error {issuer : Issuer} {answer : HttpAnswer} {failure : Failure}
    (received : receive runtime answer = .error failure) :
    fetch runtime issuer answer now later = .error failure := by
  rw [fetch, received]
  rfl

theorem fetch_of_expiry {issuer : Issuer} {answer : HttpAnswer} {value : String} {expiresAt : ℤ}
    (received : receive runtime answer = .ok { value, expiresAt := some expiresAt }) :
    fetch runtime issuer answer now later =
      if Secret.isValid { value, expiresAt := some expiresAt } later then
        .ok { value, expiresAt := some expiresAt }
      else .error { kind := .issuer, detail := "answer has already expired" } := by
  rw [fetch, received]
  rfl

theorem fetch_of_no_expiry {issuer : Issuer} {answer : HttpAnswer} {value : String}
    (received : receive runtime answer = .ok { value }) :
    fetch runtime issuer answer now later =
      (lifetime issuer.refresh.toList >>= after now) >>= fun expiresAt =>
        if Secret.isValid { value, expiresAt := some expiresAt } later then
          .ok { value, expiresAt := some expiresAt }
        else .error { kind := .issuer, detail := "answer has already expired" } := by
  rw [fetch, received]
  cases lifetime issuer.refresh.toList with
  | error failure => rfl
  | ok lifetime => cases after now lifetime <;> rfl

/-- What can come of an answer. -/
inductive Received (runtime : Runtime) (answer : HttpAnswer) : Except Failure Secret → Prop
  /-- An exception that `fetch` names. -/
  | issuer (failure : Failure) (kind : failure.kind.isIssuerError)
      (missing : failure.kind = .missingSecret ↔ HasDetail runtime answer)
      (foreseen : ∀ interval now,
        Foreseen runtime interval now answer ↔ runtime.stores failure.describe) :
      Received runtime answer (.error failure)
  /-- Any other exception. -/
  | other (failure : Failure) (kind : ¬ failure.kind.isIssuerError)
      (unforeseen : ∀ interval now, ¬ Foreseen runtime interval now answer) :
      Received runtime answer (.error failure)
  | secret (secret : Secret) (filled : secret.value ≠ "") (none : ¬ HasDetail runtime answer)
      (foreseen : ∀ interval now, Foreseen runtime interval now answer ↔
        (secret.expiresAt = .none → InCalendar interval now)) :
      Received runtime answer (.ok secret)

theorem modelValidate_filled {json : Json} {secret : Secret}
    (valid : modelValidate runtime json = some secret) : secret.value ≠ "" := by
  cases json with
  | object members =>
      simp only [modelValidate] at valid
      split at valid
      · split at valid
        · cases valid
        · obtain ⟨expiresAt, -, rfl⟩ := Option.map_eq_some_iff.mp valid
          assumption
      · cases valid
  | null | bool | number | string | loneSurrogate | array => cases valid

/-- The constant texts of `fetch` can be stored. -/
theorem stores_issuer {detail : String} (printable : isPrintable detail) :
    runtime.stores ({ kind := .issuer, detail } : Failure).describe := by
  refine runtime.stores_printable (List.all_eq_true.mpr fun char member => ?_)
  rw [Failure.describe, String.toList_append] at member
  rcases List.mem_append.mp member with front | back
  · have named : isPrintable (ErrorKind.issuer.name ++ ": ") := by decide
    exact List.all_eq_true.mp named char front
  · exact List.all_eq_true.mp printable char back

theorem isPrintable_status (status : ℕ) : isPrintable ("status " ++ toString status) := by
  refine List.all_eq_true.mpr fun char member => ?_
  rw [String.toList_append] at member
  rcases List.mem_append.mp member with front | digit
  · have named : isPrintable "status " := by decide
    exact List.all_eq_true.mp named char front
  · have number : char.isDigit :=
      Nat.isDigit_of_mem_toDigits (b := 10) (n := status) (by decide) (by decide)
        (by simpa [toString, Nat.repr] using digit)
    obtain ⟨low, high⟩ := (Bool.and_eq_true _ _).mp number
    have bounds : 48 ≤ char.toNat ∧ char.toNat ≤ 57 :=
      ⟨of_decide_eq_true low, of_decide_eq_true high⟩
    rw [Bool.and_eq_true, decide_eq_true_iff, decide_eq_true_iff]
    omega

theorem received_clientError {status : ℕ} {body : List UInt8}
    (client : 400 ≤ status ∧ status ≤ 499) :
    Received runtime (.response status body) (receive runtime (.response status body)) := by
  have foreseen : ∀ interval now, Foreseen runtime interval now (.response status body) ↔
      (runtime.loads body = .error .syntaxError ∨
        ∃ members, runtime.loads body = .ok (.object members) ∧
          ∀ reason, members.lookup "detail" = some reason →
            runtime.stores ("MissingSecretError: " ++ runtime.text reason)) := by
    intro interval now
    rw [Foreseen, if_pos client]
  rw [receive, if_pos client, json]
  cases loads : runtime.loads body with
  | error failure =>
      rw [loads] at foreseen
      cases failure with
      | syntaxError =>
          refine .issuer _ rfl ?_ fun interval now =>
            iff_of_true ((foreseen interval now).mpr (.inl rfl)) (stores_issuer (by decide))
          simp [HasDetail, loads, LoadFailure.failure]
      | value detail => exact .other _ nofun fun interval now => by simp [foreseen]
      | other detail => exact .other _ nofun fun interval now => by simp [foreseen]
  | ok json =>
      rw [loads] at foreseen
      cases json with
      | object members =>
          cases found : members.lookup "detail" with
          | none =>
              have shape : (detail (.object members)) = .error wrongShape := by simp [detail, found]
              simp only [bind, Except.bind, shape]
              refine .issuer _ rfl ?_ fun interval now =>
                iff_of_true ((foreseen interval now).mpr (.inr ⟨members, rfl, by simp [found]⟩))
                  (stores_issuer (by decide))
              simp [wrongShape, HasDetail, loads, found]
          | some reason =>
              have read : (detail (.object members)) = .ok reason := by simp [detail, found]
              simp only [bind, Except.bind, read]
              refine .issuer _ rfl ?_ fun interval now => ?_
              · simp [HasDetail, loads, found, client]
              · rw [foreseen]
                simp [found, Failure.describe, ErrorKind.name]
      | null | bool | number | string | loneSurrogate | array =>
          exact .other _ nofun fun interval now => by simp [foreseen]

theorem received_success {status : ℕ} {body : List UInt8}
    (client : ¬ (400 ≤ status ∧ status ≤ 499)) (success : 200 ≤ status ∧ status ≤ 299) :
    Received runtime (.response status body) (receive runtime (.response status body)) := by
  have foreseen : ∀ interval now, Foreseen runtime interval now (.response status body) ↔
      (runtime.loads body = .error .syntaxError ∨
        ∃ json, runtime.loads body = .ok json ∧ ∀ value,
          modelValidate runtime json = some { value } → InCalendar interval now) := by
    intro interval now
    rw [Foreseen, if_neg client, if_pos success]
  have detail : ¬ HasDetail runtime (.response status body) := fun has => client has.1
  rw [receive, if_neg client, if_pos success, json]
  cases loads : runtime.loads body with
  | error failure =>
      rw [loads] at foreseen
      cases failure with
      | syntaxError =>
          exact .issuer _ rfl (iff_of_false nofun detail) fun interval now =>
            iff_of_true ((foreseen interval now).mpr (.inl rfl)) (stores_issuer (by decide))
      | value detail => exact .other _ nofun fun interval now => by simp [foreseen]
      | other detail => exact .other _ nofun fun interval now => by simp [foreseen]
  | ok json =>
      rw [loads] at foreseen
      simp only [bind, Except.bind]
      cases valid : modelValidate runtime json with
      | none =>
          exact .issuer _ rfl (iff_of_false nofun detail) fun interval now =>
            iff_of_true ((foreseen interval now).mpr (.inr ⟨json, rfl, by simp [valid]⟩))
              (stores_issuer (by decide))
      | some secret =>
          refine .secret secret (modelValidate_filled valid) detail fun interval now => ?_
          rw [foreseen]
          constructor
          · rintro (broken | ⟨_, same, within⟩) open_
            · cases broken
            · obtain rfl := Except.ok.inj same
              refine within secret.value (valid.trans ?_)
              rw [← open_]
          · intro within
            refine .inr ⟨json, rfl, fun value same => within ?_⟩
            obtain rfl := Option.some.inj (valid.symm.trans same)
            rfl

theorem receive_received (answer : HttpAnswer) :
    Received runtime answer (receive runtime answer) := by
  cases answer with
  | localProtocolError =>
      exact .issuer _ rfl (iff_of_false nofun nofun) fun _ _ =>
        iff_of_true trivial (stores_issuer (by decide))
  | httpError name ascii =>
      exact .issuer _ rfl (iff_of_false nofun nofun) fun _ _ =>
        iff_of_true trivial (stores_issuer ascii)
  | otherError isValue detail =>
      refine .other _ ?_ fun _ _ => nofun
      cases isValue <;> exact nofun
  | response status body =>
      by_cases client : 400 ≤ status ∧ status ≤ 499
      · exact received_clientError client
      by_cases success : 200 ≤ status ∧ status ≤ 299
      · exact received_success client success
      · rw [receive, if_neg client, if_neg success]
        refine .issuer _ rfl (iff_of_false nofun fun has => client has.1) fun interval now => ?_
        rw [Foreseen, if_neg client, if_neg success]
        exact iff_of_true trivial (stores_issuer (isPrintable_status status))

end Secret

/-- `Secret.fetch` as an answer that `Secrets.current` waits for. -/
def Answer.ofFetch : Except Failure Secret → Answer
  | .ok fetched => .secret fetched
  | .error failure => if failure.kind.isIssuerError then .issuerError else .otherError

/-- The request waits for a fetch that ends so, and no other fetch has brought a valid secret. -/
def Store.Waits (store : Store) (request : Request) (outcome : Except Failure Secret) : Prop :=
  ∃ placeholder entry upstream, store.Allows request placeholder entry upstream ∧
    store.opens placeholder.hostId ∧ ∃ encounter,
      store.entries placeholder.hostId placeholder.service = encounter ∧
      entry.value = none ∧ encounter.refreshable.valid (encounter.clock 1) = none ∧
        encounter.refreshable.refreshes (encounter.clock 2) ∧
          encounter.answer = .ofFetch outcome ∧ encounter.found.valid (encounter.later 1) = none

theorem Store.authorize_unavailable {store : Store} {request : Request} {failure : Failure}
    (kind : failure.kind.isIssuerError) (waits : store.Waits request (.error failure)) :
    store.authorize request = .ok .unavailable := by
  obtain ⟨placeholder, entry, upstream, allows, opened, encounter, same, value, missing, refreshes,
    answer, found⟩ := waits
  obtain ⟨host, row, entries⟩ := allows.present
  have stored := store.stored _ _ _ _ row entries
  have answer : encounter.answer = .issuerError := answer.trans (if_pos kind)
  have after : encounter.afterRefresh = none := by
    rw [Encounter.afterRefresh, if_pos refreshes, answer]
    exact found
  have regular : ¬ encounter.Breaks entry := by
    rintro ⟨-, -, -, broken⟩
    rw [answer] at broken
    cases broken
  obtain ⟨secret, served, offers⟩ := Encounter.current_eq stored regular
  rw [authorize_of_allows allows opened, same, served]
  cases secret with
  | none => rfl
  | some secret =>
      cases (offers secret).mp rfl with
      | value _ given => rw [value] at given; cases given
      | held _ _ holds => rw [missing] at holds; cases holds
      | refreshed _ _ _ holds => rw [after] at holds; cases holds

/-- What `fetch` promises: a valid secret with a value, or an `IssuerError`, a `MissingSecretError`
for a 4xx answer with a detail.  The exchange answers 503 to that, and `provision` marks the host
failed: it does nothing else before, and the database takes the text of the error. -/
structure Secret.FailsClosed (runtime : Runtime) (answer : HttpAnswer) (later : ℤ)
    (outcome : Except Failure Secret) : Prop where
  returned : ∀ secret, outcome = .ok secret → secret.value ≠ "" ∧ secret.isValid later
  raised : ∀ failure, outcome = .error failure → failure.kind.isIssuerError
  missing : (∃ detail, outcome = .error { kind := .missingSecret, detail }) ↔
    HasDetail runtime answer
  unavailable : ∀ failure, outcome = .error failure → ∀ store request,
    Store.Waits store request outcome → store.authorize request = .ok .unavailable
  marked : ∀ failure, outcome = .error failure → runtime.stores failure.describe ∧
    ∀ deployment host, Follows (HostService.failureContract failure host.id) HostService.Settles
      .pending (HostService.provision deployment host)

namespace Secret

variable {runtime : Runtime} {answer : HttpAnswer} {issuer : Issuer} {now later : ℤ}

theorem failsClosed_error {failure : Failure} (kind : failure.kind.isIssuerError)
    (missing : failure.kind = .missingSecret ↔ HasDetail runtime answer)
    (stored : runtime.stores failure.describe) :
    FailsClosed runtime answer later (.error failure) where
  returned := nofun
  raised := by
    rintro _ ⟨⟩
    exact kind
  missing := by
    rw [← missing]
    constructor
    · rintro ⟨detail, ⟨⟩⟩
      rfl
    · intro same
      exact ⟨failure.detail, by rw [← same]⟩
  unavailable := by
    rintro _ ⟨⟩ store request waits
    exact store.authorize_unavailable kind waits
  marked := by
    rintro _ ⟨⟩
    exact ⟨stored, fun deployment host => HostService.provision_settles host kind⟩

/-- A secret that is checked last. -/
theorem failsClosed_checked {secret : Secret} (filled : secret.value ≠ "")
    (detail : ¬ HasDetail runtime answer) :
    FailsClosed runtime answer later
      (if secret.isValid later then .ok secret
      else .error { kind := .issuer, detail := "answer has already expired" }) := by
  by_cases valid : secret.isValid later
  · rw [if_pos valid]
    constructor
    · rintro _ ⟨⟩
      exact ⟨filled, valid⟩
    · exact nofun
    · exact iff_of_false nofun detail
    · exact nofun
    · exact nofun
  · rw [if_neg valid]
    exact failsClosed_error rfl (iff_of_false nofun detail) (stores_issuer (by decide))

/-- `{"detail":"\u0000"}`, in bytes. -/
def nulBody : List UInt8 :=
  [123, 34, 100, 101, 116, 97, 105, 108, 34, 58, 34, 92, 117, 48, 48, 48, 48, 34, 125]

/-- `json.loads` on `[]`, `{}`, `{"value":"v"}` and that body, and a database that refuses NUL. -/
def exampleRuntime : Runtime where
  loads body :=
    if body = [91, 93] then .ok (.array [])
    else if body = [123, 125] then .ok (.object [])
    else if body = [123, 34, 118, 97, 108, 117, 101, 34, 58, 34, 118, 34, 125] then
      .ok (.object [("value", .string "v")])
    else if body = nulBody then .ok (.object [("detail", .string "\x00")])
    else .error .syntaxError
  text
    | .string text => text
    | _ => ""
  awareDatetime _ := none
  stores text := !text.toList.contains '\x00'
  stores_printable := by
    intro text printable
    rw [Bool.not_eq_true', List.contains_eq_mem, decide_eq_false_iff_not]
    intro member
    exact absurd (List.all_eq_true.mp printable _ member) (by decide)
  stores_nul := by
    intro text member
    simpa using member

/-- An issuer that asks for a fetch every five minutes. -/
def exampleIssuer : Issuer where
  url := "https://issuer.example/"
  headers := [("Authorization", "Bearer t")]
  refresh := "5m"

end Secret

end Drukbox.SecretsExchange
