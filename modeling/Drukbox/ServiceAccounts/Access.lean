import Drukbox.Await.Machine
import Drukbox.Core
import Mathlib.Data.List.Nodup
import Mathlib.Logic.Function.Basic

/-!
# Service accounts

The requests that create, remove and check service accounts, in any order.  The table keeps
fingerprints only, and a removal that began early may meet an account that was created late.  So
what a token admits is told by the history of the commits: its own creation and what came after it.
-/

namespace Drukbox.ServiceAccounts

open Await

@[ext]
structure ServiceAccount where
  name : String
  fingerprint : Option String
  deriving DecidableEq, Repr

def admin : String := "admin"

/-- The row that the migration inserts. -/
def seed : ServiceAccount where
  name := admin
  fingerprint := none

/-- The response of an exception. -/
structure Refusal where
  status : ℕ
  detail : String
  errorCode : Option String := none
  deriving DecidableEq, Repr

/-- `is_admin_key`, for the keys of `SERVICE_TOKENS`. -/
def isAdminKey (keys : List String) (token : String) : Bool :=
  keys.any (token == ·)

def requireAdminAuth (keys : List String) : Option String → Except Refusal Unit
  | none => .error { status := 401, detail := "admin key required" }
  | some token =>
      if isAdminKey keys token then .ok ()
      else .error { status := 403, detail := "admin key rejected" }

/-- `ServiceAccountTokenRejectedError`. -/
def rejected : Refusal where
  status := 403
  detail := "service account token rejected"
  errorCode := some "SERVICE_ACCOUNT_TOKEN_REJECTED"

def authenticate (sha256 : String → String) (rows : List ServiceAccount) (token : String) :
    Except Refusal String :=
  let found := rows.find? fun account => account.fingerprint == some (sha256 token)
  match given (found.map (·.name)) with
  | some name => .ok name
  | none => .error rejected

/-- `require_auth`, where the database has the rows, or `none` for a `SQLAlchemyError`. -/
def requireAuth (sha256 : String → String) (keys : List String)
    (database : Option (List ServiceAccount)) : Option String → Except Refusal String
  | none =>
      .error { status := 401, detail := "admin key or service account token required" }
  | some token =>
      if isAdminKey keys token then .ok admin
      else
        match database with
        | some rows => authenticate sha256 rows token
        | none => .error { status := 503, detail := "service account tokens unavailable" }

/-- The characters of `SERVICE_ACCOUNT_NAME_PATTERN`. -/
def isNameChar (char : Char) : Bool :=
  char.isLower || char.isDigit

/-- `SERVICE_ACCOUNT_NAME_PATTERN`. -/
def isAccountName (name : String) : Bool :=
  match name.toList with
  | [] => false
  | first :: rest =>
      isNameChar first && rest.all (fun char => isNameChar char || char == '-') && rest.length ≤ 63

/-- A commit that changed the table. -/
inductive Change
  | created (name token : String)
  | removed (name : String)
  deriving DecidableEq, Repr

/-- How a request ends. -/
inductive Response
  /-- Status 201. -/
  | created (name token : String)
  /-- Status 204, for the account that was there after these commits. -/
  | removed (name : String) (seen : List Change)
  | refused (refusal : Refusal)
  /-- Status 422. -/
  | invalid
  /-- Any other exception. -/
  | raised
  deriving DecidableEq, Repr

/-- How far a request has come. -/
inductive Call
  /-- `create_service_account` has added the account. -/
  | creating (name token : String)
  /-- `remove_service_account` has loaded the account, after these commits. -/
  | removing (name : String) (seen : List Change)
  | ended (response : Response)
  deriving DecidableEq, Repr

/-- The table, the commits so far with the last one first, and the requests `ι`. -/
structure Accounts (ι : Type) where
  rows : List ServiceAccount := [seed]
  log : List Change := []
  calls : ι → Option Call := fun _ => none

inductive Event (ι : Type)
  /-- `create_service_account` up to its commit, with what `token_urlsafe` draws. -/
  | create (task : ι) (credentials : Option String) (name drawn : String)
  /-- `remove_service_account` up to its commit. -/
  | remove (task : ι) (credentials : Option String) (name : String)
  /-- A commit.  Its statement has waited for the other transactions on its keys, and its answer
  may get lost. -/
  | commit (task : ι) (answered : Bool)
  /-- A request fails, or is cancelled. -/
  | fail (task : ι)

namespace Accounts

variable {ι : Type} [DecidableEq ι]

def setCall (accounts : Accounts ι) (task : ι) (call : Call) : Accounts ι :=
  { accounts with calls := Function.update accounts.calls task (some call) }

/-- The end of a request, where its answer arrives. -/
def answer (answered : Bool) (response : Response) : Call :=
  .ended (if answered then response else .raised)

/-- `create_service_account` up to its commit. -/
def create (keys : List String) (credentials : Option String) (name drawn : String) : Call :=
  match requireAdminAuth keys credentials with
  | .error refusal => .ended (.refused refusal)
  | .ok () =>
      if isAccountName name then .creating name ("drkb_" ++ drawn)
      else .ended .invalid

/-- `remove_service_account` up to its commit. -/
def remove (keys : List String) (credentials : Option String) (name : String)
    (accounts : Accounts ι) : Call :=
  match requireAdminAuth keys credentials with
  | .error refusal => .ended (.refused refusal)
  | .ok () =>
      if !isAccountName name then .ended .invalid
      else if accounts.rows.any (·.name == name) then
        if name = admin then
          .ended (.refused
            { status := 409, detail := "the admin account has no token to revoke"
              errorCode := some "SERVICE_ACCOUNT_STATE" })
        else .removing name accounts.log
      else
        .ended (.refused
          { status := 404, detail := "service account not found"
            errorCode := some "NOT_FOUND" })

/-- `INSERT`, where neither the name nor the fingerprint is taken. -/
def insert (sha256 : String → String) (accounts : Accounts ι) (name token : String) :
    Option (Accounts ι) :=
  let account : ServiceAccount := { name, fingerprint := some (sha256 token) }
  if accounts.rows.any fun row => row.name == name || row.fingerprint == account.fingerprint then
    none
  else
    some { accounts with
      rows := accounts.rows ++ [account]
      log := .created name token :: accounts.log }

/-- `DELETE`, for the row that has the name by then. -/
def delete (accounts : Accounts ι) (name : String) : Accounts ι :=
  if accounts.rows.any (·.name == name) then
    { accounts with
      rows := accounts.rows.filter (·.name != name)
      log := .removed name :: accounts.log }
  else accounts

/-- One section of one request. -/
def next (sha256 : String → String) (keys : List String) (accounts : Accounts ι) :
    Event ι → Option (Accounts ι)
  | .create task credentials name drawn =>
      match accounts.calls task with
      | none => some (accounts.setCall task (create keys credentials name drawn))
      | some _ => none
  | .remove task credentials name =>
      match accounts.calls task with
      | none => some (accounts.setCall task (accounts.remove keys credentials name))
      | some _ => none
  | .commit task answered =>
      match accounts.calls task with
      | some (.creating name token) =>
          match accounts.insert sha256 name token with
          | some inserted =>
              some (inserted.setCall task (answer answered (.created name token)))
          | none =>
              some (accounts.setCall task (answer answered (.refused
                { status := 409, detail := "service account " ++ name ++ " already exists"
                  errorCode := some "SERVICE_ACCOUNT_EXISTS" })))
      | some (.removing name seen) =>
          some ((accounts.delete name).setCall task (answer answered (.removed name seen)))
      | _ => none
  | .fail task =>
      match accounts.calls task with
      | some (.ended _) => none
      | _ => some (accounts.setCall task (.ended .raised))

/-- The database. -/
def machine (sha256 : String → String) (keys : List String) :
    Machine (Accounts ι) (Event ι) where
  next := next sha256 keys

end Accounts

section History

variable {sha256 : String → String} {log later earlier : List Change}
  {name other token held : String}

/-- The token of the account that has a name after these commits. -/
def latest : List Change → String → Option String
  | [], _ => none
  | .created created token :: log, name => if name = created then some token else latest log name
  | .removed removed :: log, name => if name = removed then none else latest log name

/-- The fingerprint that a commit adds. -/
def Change.fingerprint (sha256 : String → String) : Change → Option String
  | created _ token => some (sha256 token)
  | removed _ => none

/-- Every commit found the table as the commits before it left it. -/
def Valid (sha256 : String → String) : List Change → Prop
  | [] => True
  | .created name token :: log =>
      Valid sha256 log ∧ isAccountName name = true ∧ name ≠ admin ∧ latest log name = none ∧
        ∀ other held, latest log other = some held → sha256 held ≠ sha256 token
  | .removed name :: log => Valid sha256 log ∧ name ≠ admin ∧ latest log name ≠ none

theorem latest_admin (valid : Valid sha256 log) : latest log admin = none := by
  induction log with
  | nil => rfl
  | cons change log ih =>
      cases change with
      | created name token =>
          rw [latest, if_neg (Ne.symm valid.2.2.1)]
          exact ih valid.1
      | removed name =>
          rw [latest, if_neg (Ne.symm valid.2.1)]
          exact ih valid.1

theorem isAccountName_of_latest (valid : Valid sha256 log) (holds : latest log name = some held) :
    isAccountName name = true := by
  induction log with
  | nil => contradiction
  | cons change log ih =>
      cases change with
      | created created token =>
          rw [latest] at holds
          split at holds
          · next same => exact same ▸ valid.2.1
          · exact ih valid.1 holds
      | removed removed =>
          rw [latest] at holds
          split at holds
          · contradiction
          · exact ih valid.1 holds

theorem ne_empty_of_isAccountName (valid : isAccountName name = true) : name ≠ "" := by
  rintro rfl
  contradiction

/-- A token stays the one of its account until a removal. -/
theorem latest_of_created (valid : Valid sha256 (later ++ .created name token :: earlier))
    (stays : .removed name ∉ later) :
    latest (later ++ .created name token :: earlier) name = some token := by
  induction later with
  | nil => rw [List.nil_append, latest, if_pos rfl]
  | cons change later ih =>
      rw [List.mem_cons, not_or] at stays
      cases change with
      | created created drawn =>
          have found := ih valid.1 stays.2
          have different : name ≠ created := by
            rintro rfl
            have free : latest (later ++ .created name token :: earlier) name = none :=
              valid.2.2.2.1
            rw [found] at free
            contradiction
          rw [List.cons_append, latest, if_neg different]
          exact found
      | removed removed =>
          have different : name ≠ removed := by
            rintro rfl
            exact stays.1 rfl
          rw [List.cons_append, latest, if_neg different]
          exact ih valid.1 stays.2

/-- Where no later creation draws the fingerprint of a token again, only its own account may have
it, and not behind a removal. -/
theorem unremoved_of_latest (valid : Valid sha256 (later ++ .created name token :: earlier))
    (fresh : ∀ created drawn, .created created drawn ∈ later → sha256 drawn ≠ sha256 token)
    (holds : latest (later ++ .created name token :: earlier) other = some held)
    (same : sha256 held = sha256 token) : other = name ∧ .removed name ∉ later := by
  induction later with
  | nil =>
      rw [List.nil_append, latest] at holds
      split at holds
      · next here => exact ⟨here, List.not_mem_nil⟩
      · exact absurd same (valid.2.2.2.2 other held holds)
  | cons change later ih =>
      have rest created drawn (member : Change.created created drawn ∈ later) :=
        fresh created drawn (List.mem_cons_of_mem _ member)
      cases change with
      | created created drawn =>
          rw [List.cons_append, latest] at holds
          split at holds
          · obtain rfl := Option.some.inj holds
            exact absurd same (fresh created drawn List.mem_cons_self)
          · obtain ⟨here, stays⟩ := ih valid.1 rest holds
            exact ⟨here, by simpa using stays⟩
      | removed removed =>
          rw [List.cons_append, latest] at holds
          split at holds
          · contradiction
          · next different =>
              obtain ⟨rfl, stays⟩ := ih valid.1 rest holds
              exact ⟨rfl, by simpa using ⟨different, stays⟩⟩

/-- An account that is no longer there has been removed since. -/
theorem removed_of_latest (held : latest earlier name ≠ none)
    (gone : latest (later ++ earlier) name = none) : .removed name ∈ later := by
  induction later with
  | nil => exact absurd gone held
  | cons change later ih =>
      rw [List.cons_append] at gone
      cases change with
      | created created token =>
          rw [latest] at gone
          split at gone
          · contradiction
          · exact List.mem_cons_of_mem _ (ih gone)
      | removed removed =>
          rw [latest] at gone
          split at gone
          · next same =>
              rw [same]
              exact List.mem_cons_self
          · exact List.mem_cons_of_mem _ (ih gone)

/-- Where no two creations have one fingerprint, none after a creation has its own. -/
theorem fresh_of_nodup
    (distinct : ((later ++ .created name token :: earlier).filterMap
      (Change.fingerprint sha256)).Nodup) (created drawn : String)
    (member : .created created drawn ∈ later) : sha256 drawn ≠ sha256 token := by
  intro same
  rw [List.filterMap_append, List.nodup_append] at distinct
  refine distinct.2.2 (sha256 drawn) (List.mem_filterMap.mpr ⟨_, member, rfl⟩)
    (sha256 token) ?_ same
  exact List.mem_filterMap.mpr ⟨_, List.mem_cons_self, rfl⟩

end History

/-- What a request knows of the commits. -/
def Call.Fits (log : List Change) : Call → Prop
  | creating name _ => isAccountName name = true
  | removing name seen => name ≠ admin ∧ latest seen name ≠ none ∧ seen <:+ log
  | ended (.created name token) => .created name token ∈ log
  | ended (.removed name seen) => ∃ newer, newer ++ seen = log ∧ .removed name ∈ newer
  | ended _ => True

theorem Call.Fits.commit {log : List Change} {call : Call} (fits : call.Fits log)
    (change : Change) : call.Fits (change :: log) := by
  cases call with
  | creating name token => exact fits
  | removing name seen => exact ⟨fits.1, fits.2.1, fits.2.2.trans (List.suffix_cons change log)⟩
  | ended response =>
      cases response with
      | created name token => exact List.mem_cons_of_mem _ fits
      | removed name seen =>
          obtain ⟨newer, rfl, member⟩ := fits
          exact ⟨change :: newer, rfl, List.mem_cons_of_mem _ member⟩
      | refused refusal => trivial
      | invalid => trivial
      | raised => trivial

namespace Accounts

variable {ι : Type} [DecidableEq ι] {sha256 : String → String} {keys : List String}
  {accounts after : Accounts ι} {task : ι} {name token : String}

/-- The table shows the history of its commits. -/
structure Sound (sha256 : String → String) (accounts : Accounts ι) : Prop where
  valid : Valid sha256 accounts.log
  shows : ∀ {row}, row ∈ accounts.rows ↔ row = seed ∨
    ∃ token, latest accounts.log row.name = some token ∧ row.fingerprint = some (sha256 token)
  fits : ∀ {task call}, accounts.calls task = some call → call.Fits accounts.log

omit [DecidableEq ι] in
theorem initial : ({} : Accounts ι).Sound sha256 where
  valid := trivial
  shows := by simp [latest]
  fits present := by contradiction

omit [DecidableEq ι] in
/-- The row of a name other than the admin's is the one of its latest token. -/
theorem Sound.any_name (sound : accounts.Sound sha256) (other : name ≠ admin) :
    accounts.rows.any (·.name == name) = true ↔ latest accounts.log name ≠ none := by
  rw [List.any_eq_true]
  constructor
  · rintro ⟨row, member, same⟩
    obtain rfl := beq_iff_eq.mp same
    rcases sound.shows.mp member with rfl | ⟨token, holds, -⟩
    · exact absurd rfl other
    · simp [holds]
  · intro holds
    obtain ⟨token, found⟩ := Option.ne_none_iff_exists'.mp holds
    refine ⟨{ name, fingerprint := some (sha256 token) }, ?_, beq_self_eq_true name⟩
    exact sound.shows.mpr (.inr ⟨token, found, rfl⟩)

theorem Sound.setCall (sound : accounts.Sound sha256) {call : Call}
    (fits : call.Fits accounts.log) : (accounts.setCall task call).Sound sha256 where
  valid := sound.valid
  shows := sound.shows
  fits {other found} present := by
    simp only [Accounts.setCall, Function.update_apply] at present
    split at present
    · obtain rfl := Option.some.inj present
      exact fits
    · exact sound.fits present

omit [DecidableEq ι] in
theorem Sound.insert (sound : accounts.Sound sha256) (named : isAccountName name = true)
    (inserted : accounts.insert sha256 name token = some after) :
    after.Sound sha256 ∧ after.log = .created name token :: accounts.log := by
  rw [Accounts.insert] at inserted
  split at inserted
  · contradiction
  · next taken =>
      have free row (member : row ∈ accounts.rows) :
          row.name ≠ name ∧ row.fingerprint ≠ some (sha256 token) := by
        simp only [List.any_eq_true, Bool.or_eq_true, beq_iff_eq, not_exists, not_and, not_or]
          at taken
        exact taken row member
      have seeded : name ≠ admin := (free seed (sound.shows.mpr (.inl rfl))).1.symm
      have unheld other held (holds : latest accounts.log other = some held) :
          other ≠ name ∧ sha256 held ≠ sha256 token := by
        have row := free { name := other, fingerprint := some (sha256 held) }
          (sound.shows.mpr (.inr ⟨held, holds, rfl⟩))
        exact ⟨row.1, fun same => row.2 (congrArg some same)⟩
      have absent : latest accounts.log name = none := by
        cases holds : latest accounts.log name with
        | none => rfl
        | some held => exact absurd rfl (unheld name held holds).1
      obtain rfl := Option.some.inj inserted
      refine ⟨⟨?_, fun {row} => ?_, fun present => (sound.fits present).commit _⟩, rfl⟩
      · exact ⟨sound.valid, named, seeded, absent, fun other held holds =>
          (unheld other held holds).2⟩
      · rw [List.mem_append, List.mem_singleton, sound.shows, latest]
        constructor
        · rintro ((same | ⟨held, holds, printed⟩) | rfl)
          · exact .inl same
          · rw [if_neg (unheld _ held holds).1]
            exact .inr ⟨held, holds, printed⟩
          · exact .inr ⟨token, if_pos rfl, rfl⟩
        · rintro (same | ⟨held, holds, printed⟩)
          · exact .inl (.inl same)
          · split at holds
            · next same =>
                obtain rfl := Option.some.inj holds
                exact .inr (ServiceAccount.ext same printed)
            · exact .inl (.inr ⟨held, holds, printed⟩)

omit [DecidableEq ι] in
theorem Sound.delete (sound : accounts.Sound sha256) (other : name ≠ admin) :
    (accounts.delete name).Sound sha256 := by
  rw [Accounts.delete]
  split
  · next present =>
      refine ⟨⟨sound.valid, other, (sound.any_name other).mp present⟩, fun {row} => ?_,
        fun present => (sound.fits present).commit _⟩
      rw [List.mem_filter, bne_iff_ne, sound.shows, latest]
      constructor
      · rintro ⟨same | ⟨held, holds, printed⟩, different⟩
        · exact .inl same
        · rw [if_neg different]
          exact .inr ⟨held, holds, printed⟩
      · rintro (rfl | ⟨held, holds, printed⟩)
        · exact ⟨.inl rfl, Ne.symm other⟩
        · split at holds
          · contradiction
          · next different => exact ⟨.inr ⟨held, holds, printed⟩, different⟩
  · exact sound

omit [DecidableEq ι] in
/-- Behind a removal the account has been removed since it was loaded. -/
theorem Sound.removed (sound : accounts.Sound sha256) {seen : List Change}
    (present : accounts.calls task = some (.removing name seen)) :
    (Call.ended (.removed name seen)).Fits (accounts.delete name).log := by
  obtain ⟨other, held, newer, same⟩ := sound.fits present
  rw [Accounts.delete]
  split
  · exact ⟨.removed name :: newer, congrArg _ same, List.mem_cons_self⟩
  · next gone =>
      refine ⟨newer, same, removed_of_latest held ?_⟩
      rw [same]
      cases holds : latest accounts.log name with
      | none => rfl
      | some token => exact absurd ((sound.any_name other).mpr (by simp [holds])) gone

theorem fits_answer {log : List Change} {response : Response} (answered : Bool)
    (fits : (Call.ended response).Fits log) : (answer answered response).Fits log := by
  cases answered with
  | true => exact fits
  | false => trivial

omit [DecidableEq ι] in
theorem fits_create (credentials : Option String) (name drawn : String) (log : List Change) :
    (create keys credentials name drawn).Fits log := by
  rw [create]
  split
  · trivial
  · split
    · assumption
    · trivial

omit [DecidableEq ι] in
theorem Sound.remove (sound : accounts.Sound sha256) (credentials : Option String)
    (name : String) : (accounts.remove keys credentials name).Fits accounts.log := by
  rw [Accounts.remove]
  split
  · trivial
  · split
    · trivial
    · split
      · next present =>
          split
          · trivial
          · next other =>
              exact ⟨other, (sound.any_name other).mp present, List.suffix_refl _⟩
      · trivial

theorem Sound.step (sound : accounts.Sound sha256) {event : Event ι}
    (step : accounts.next sha256 keys event = some after) : after.Sound sha256 := by
  cases event with
  | create task credentials name drawn =>
      simp only [next] at step
      split at step
      · obtain rfl := Option.some.inj step
        exact sound.setCall (fits_create credentials name drawn accounts.log)
      · contradiction
  | remove task credentials name =>
      simp only [next] at step
      split at step
      · obtain rfl := Option.some.inj step
        exact sound.setCall (sound.remove credentials name)
      · contradiction
  | commit task answered =>
      simp only [next] at step
      split at step
      · next name token adding =>
          split at step
          · next inserted found =>
              obtain rfl := Option.some.inj step
              obtain ⟨kept, log⟩ := sound.insert (sound.fits adding) found
              refine kept.setCall (fits_answer answered ?_)
              rw [log]
              exact List.mem_cons_self
          · obtain rfl := Option.some.inj step
            exact sound.setCall (fits_answer answered trivial)
      · next name seen loaded =>
          obtain rfl := Option.some.inj step
          exact (sound.delete (sound.fits loaded).1).setCall
            (fits_answer answered (sound.removed loaded))
      · contradiction
  | fail task =>
      simp only [next] at step
      split at step
      · contradiction
      · obtain rfl := Option.some.inj step
        exact sound.setCall trivial

theorem sound_of_reaches
    (reach : (machine sha256 keys).Reaches (fun _ _ => True) ({} : Accounts ι) accounts) :
    accounts.Sound sha256 :=
  reach.keeps (fun accounts => accounts.Sound sha256) (fun sound _ step => sound.step step) initial

theorem isAdminKey_iff : isAdminKey keys token = true ↔ token ∈ keys := by
  simp [isAdminKey]

omit [DecidableEq ι] in
/-- A token leads to an account whose latest token has its fingerprint, where there is one. -/
theorem Sound.authenticate_cases (sound : accounts.Sound sha256) (token : String) :
    (∃ name held, authenticate sha256 accounts.rows token = .ok name ∧
      latest accounts.log name = some held ∧ sha256 held = sha256 token) ∨
    authenticate sha256 accounts.rows token = .error rejected ∧
      ∀ name held, latest accounts.log name = some held → sha256 held ≠ sha256 token := by
  simp only [authenticate]
  cases found : accounts.rows.find? (·.fingerprint == some (sha256 token)) with
  | none =>
      refine .inr ⟨rfl, fun name held holds same => ?_⟩
      have printed := List.find?_eq_none.mp found { name, fingerprint := some (sha256 held) }
        (sound.shows.mpr (.inr ⟨held, holds, rfl⟩))
      simp [same] at printed
  | some row =>
      have printed : row.fingerprint = some (sha256 token) := by
        simpa using List.find?_some found
      rcases sound.shows.mp (List.mem_of_find?_eq_some found) with rfl | ⟨held, holds, drew⟩
      · contradiction
      · have solid := ne_empty_of_isAccountName (isAccountName_of_latest sound.valid holds)
        have name : given (some row.name) = some row.name := by simp [given, Option.filter, solid]
        refine .inl ⟨row.name, held, ?_, holds, Option.some.inj (drew.symm.trans printed)⟩
        rw [Option.map_some, name]

omit [DecidableEq ι] in
/-- Where no two tokens have one fingerprint, a token admits its account until its removal. -/
theorem Sound.admits (sound : accounts.Sound sha256)
    (distinct : (accounts.log.filterMap (Change.fingerprint sha256)).Nodup)
    {later earlier : List Change}
    (log : accounts.log = later ++ .created name token :: earlier) (outside : token ∉ keys) :
    requireAuth sha256 keys (some accounts.rows) (some token) =
      if .removed name ∈ later then .error rejected else .ok name := by
  simp only [requireAuth, isAdminKey_iff, if_neg outside]
  have valid := sound.valid
  rw [log] at distinct valid
  have own {other held : String} (holds : latest accounts.log other = some held)
      (same : sha256 held = sha256 token) : other = name ∧ .removed name ∉ later := by
    rw [log] at holds
    exact unremoved_of_latest valid (fresh_of_nodup distinct) holds same
  rcases sound.authenticate_cases token with ⟨other, held, found, holds, same⟩ | ⟨found, unheld⟩
  · obtain ⟨rfl, stays⟩ := own holds same
    rw [if_neg stays, found]
  · split
    · exact found
    · next stays =>
        refine absurd rfl (unheld name token ?_)
        rw [log]
        exact latest_of_created valid stays

/-- In every run the admin keys are exactly what acts as the admin.  Where no two tokens have one
fingerprint, a token admits its account from its creation until the removal of that account, and
nothing afterwards: a new account of the name has a token of its own. -/
theorem tokens_admitted
    (reach : (machine sha256 keys).Reaches (fun _ _ => True) ({} : Accounts ι) accounts) :
    (∀ token, requireAuth sha256 keys (some accounts.rows) (some token) = .ok admin ↔
      token ∈ keys) ∧
    ((accounts.log.filterMap (Change.fingerprint sha256)).Nodup →
      ∀ name token later earlier, accounts.log = later ++ .created name token :: earlier →
        token ∉ keys →
          requireAuth sha256 keys (some accounts.rows) (some token) =
            if .removed name ∈ later then .error rejected else .ok name) := by
  have sound := sound_of_reaches reach
  refine ⟨fun token => ?_, fun distinct name token later earlier log outside =>
    sound.admits distinct log outside⟩
  simp only [requireAuth, isAdminKey_iff]
  by_cases listed : token ∈ keys
  · simp [listed]
  · rw [if_neg listed]
    refine iff_of_false ?_ listed
    rcases sound.authenticate_cases token with ⟨name, held, found, holds, -⟩ | ⟨found, -⟩
    · rw [found]
      intro same
      obtain rfl := Except.ok.inj same
      rw [latest_admin sound.valid] at holds
      contradiction
    · simp [found]

/-- The name is used again. -/
theorem tokens_admitted_again :
    ∃ accounts : Accounts ℕ, (machine id ["key"]).Reaches (fun _ _ => True) {} accounts ∧
      requireAuth id ["key"] (some accounts.rows) (some "key") = .ok admin ∧
      requireAuth id ["key"] (some accounts.rows) (some "drkb_a") = .error rejected ∧
      requireAuth id ["key"] (some accounts.rows) (some "drkb_b") = .ok "ci" := by
  have reach : (machine id ["key"]).Reaches (fun _ _ => True) ({} : Accounts ℕ) _ :=
    Machine.reaches_of_run
      [.create 0 (some "key") "ci" "a", .commit 0 true, .remove 1 (some "key") "ci",
        .commit 1 true, .create 2 (some "key") "ci" "b", .commit 2 true]
      (by simp) rfl
  obtain ⟨keys, tokens⟩ := tokens_admitted reach
  refine ⟨_, reach, (keys "key").mpr (by simp), ?_, ?_⟩
  · exact tokens (by decide) "ci" "drkb_a" [.created "ci" "drkb_b", .removed "ci"] [] rfl
      (by decide)
  · exact tokens (by decide) "ci" "drkb_b" [] [.removed "ci", .created "ci" "drkb_a"] rfl
      (by decide)

/-- A removal loaded its account after these commits. -/
def Saw (log : List Change) : Call → Prop
  | .removing _ seen | .ended (.removed _ seen) => log <:+ seen
  | _ => True

/-- What a run adds: commits, and requests that began after those before it. -/
structure Since (before accounts : Accounts ι) : Prop where
  grows : before.log <:+ accounts.log
  saw : ∀ {task call}, before.calls task = none → accounts.calls task = some call →
    Saw before.log call

section Since

variable {before : Accounts ι}

omit [DecidableEq ι] in
theorem Since.refl (accounts : Accounts ι) : Since accounts accounts where
  grows := List.suffix_refl _
  saw idle present := by
    rw [idle] at present
    contradiction

theorem Since.setCall (since : Since before accounts) {call : Call}
    (saw : before.calls task = none → Saw before.log call) :
    Since before (accounts.setCall task call) where
  grows := since.grows
  saw {other found} idle present := by
    simp only [Accounts.setCall, Function.update_apply] at present
    split at present
    · next same =>
        obtain rfl := Option.some.inj present
        exact saw (same ▸ idle)
    · exact since.saw idle present

omit [DecidableEq ι] in
theorem saw_answer {log : List Change} {response : Response} (answered : Bool)
    (saw : Saw log (.ended response)) : Saw log (answer answered response) := by
  cases answered with
  | true => exact saw
  | false => trivial

omit [DecidableEq ι] in
theorem saw_create (log : List Change) (credentials : Option String) (name drawn : String) :
    Saw log (create keys credentials name drawn) := by
  rw [create]
  split
  · trivial
  · split
    · trivial
    · trivial

omit [DecidableEq ι] in
theorem Since.remove (since : Since before accounts) (credentials : Option String)
    (name : String) : Saw before.log (accounts.remove keys credentials name) := by
  rw [Accounts.remove]
  split
  · trivial
  · split
    · trivial
    · split
      · split
        · trivial
        · exact since.grows
      · trivial

omit [DecidableEq ι] in
theorem Since.insert (since : Since before accounts)
    (inserted : accounts.insert sha256 name token = some after) : Since before after := by
  rw [Accounts.insert] at inserted
  split at inserted
  · contradiction
  · obtain rfl := Option.some.inj inserted
    exact ⟨since.grows.trans (List.suffix_cons _ _), since.saw⟩

omit [DecidableEq ι] in
theorem Since.delete (since : Since before accounts) (name : String) :
    Since before (accounts.delete name) := by
  rw [Accounts.delete]
  split
  · exact ⟨since.grows.trans (List.suffix_cons _ _), since.saw⟩
  · exact since

theorem Since.step (since : Since before accounts) {event : Event ι}
    (step : accounts.next sha256 keys event = some after) : Since before after := by
  cases event with
  | create task credentials name drawn =>
      simp only [next] at step
      split at step
      · obtain rfl := Option.some.inj step
        exact since.setCall fun _ => saw_create before.log credentials name drawn
      · contradiction
  | remove task credentials name =>
      simp only [next] at step
      split at step
      · obtain rfl := Option.some.inj step
        exact since.setCall fun _ => since.remove credentials name
      · contradiction
  | commit task answered =>
      simp only [next] at step
      split at step
      · split at step
        · next inserted found =>
            obtain rfl := Option.some.inj step
            exact (since.insert found).setCall fun _ => saw_answer answered trivial
        · obtain rfl := Option.some.inj step
          exact since.setCall fun _ => saw_answer answered trivial
      · next name seen loaded =>
          obtain rfl := Option.some.inj step
          have saw (idle : before.calls task = none) : Saw before.log (.removing name seen) :=
            since.saw idle loaded
          exact (since.delete name).setCall fun idle => saw_answer answered (saw idle)
      · contradiction
  | fail task =>
      simp only [next] at step
      split at step
      · contradiction
      · obtain rfl := Option.some.inj step
        exact since.setCall fun _ => trivial

theorem since_of_reaches
    (reach : (machine sha256 keys).Reaches (fun _ _ => True) before accounts) :
    Since before accounts :=
  reach.keeps (Since before) (fun since _ step => since.step step) (.refl before)

end Since

/-- A removal that is answered revokes the tokens that were answered before it began: from its
answer on they are rejected, whatever other requests run beside it and whatever accounts of the name
come later. -/
theorem removal_revokes {answered idle removed accounts : Accounts ι} {issue : ι}
    {seen : List Change}
    (creation : (machine sha256 keys).Reaches (fun _ _ => True) {} answered)
    (issued : answered.calls issue = some (.ended (.created name token)))
    (wait : (machine sha256 keys).Reaches (fun _ _ => True) answered idle)
    (begins : idle.calls task = none)
    (removal : (machine sha256 keys).Reaches (fun _ _ => True) idle removed)
    (revoked : removed.calls task = some (.ended (.removed name seen)))
    (on : (machine sha256 keys).Reaches (fun _ _ => True) removed accounts)
    (distinct : (accounts.log.filterMap (Change.fingerprint sha256)).Nodup)
    (outside : token ∉ keys) :
    requireAuth sha256 keys (some accounts.rows) (some token) = .error rejected := by
  have created : .created name token ∈ answered.log :=
    (sound_of_reaches creation).fits issued
  -- The commits that the removal saw hold the creation, and its own came after them.
  have saw : idle.log <:+ seen := (since_of_reaches removal).saw begins revoked
  have reach := (creation.trans wait).trans removal
  obtain ⟨newer, same, gone⟩ := (sound_of_reaches reach).fits revoked
  obtain ⟨added, log⟩ := (since_of_reaches on).grows
  have member : .created name token ∈ seen :=
    saw.subset ((since_of_reaches wait).grows.subset created)
  obtain ⟨middle, earlier, split⟩ := List.append_of_mem member
  have whole : accounts.log = (added ++ newer ++ middle) ++ .created name token :: earlier := by
    rw [← log, ← same, split]
    simp only [List.append_assoc]
  have behind : Change.removed name ∈ added ++ newer ++ middle :=
    List.mem_append_left _ (List.mem_append_right _ gone)
  rw [(sound_of_reaches (reach.trans on)).admits distinct whole outside, if_pos behind]

/-- One account, whose creation was answered. -/
def oneAccount : Accounts ℕ where
  rows := [seed, { name := "ci", fingerprint := some "drkb_a" }]
  log := [.created "ci" "drkb_a"]
  calls := Function.update
    (Function.update (fun _ => none) 0 (some (.creating "ci" "drkb_a"))) 0
    (some (.ended (.created "ci" "drkb_a")))

/-- A second removal is overtaken by a new account of the name. -/
theorem removal_revokes_overtaken :
    ∃ accounts : Accounts ℕ, (machine id ["key"]).Reaches (fun _ _ => True) {} accounts ∧
      requireAuth id ["key"] (some accounts.rows) (some "drkb_a") = .error rejected := by
  have creation : (machine id ["key"]).Reaches (fun _ _ => True) {} oneAccount :=
    Machine.reaches_of_run [.create 0 (some "key") "ci" "a", .commit 0 true] (by simp) rfl
  have removal : (machine id ["key"]).Reaches (fun _ _ => True) oneAccount _ :=
    Machine.reaches_of_run
      [.remove 1 (some "key") "ci", .remove 2 (some "key") "ci", .commit 2 true,
        .create 3 (some "key") "ci" "b", .commit 3 true, .commit 1 true]
      (by simp) rfl
  have issued : oneAccount.calls 0 = some (.ended (.created "ci" "drkb_a")) := rfl
  have idle : oneAccount.calls 1 = none := rfl
  exact ⟨_, creation.trans removal, removal_revokes creation issued .refl idle removal rfl .refl
    (by decide) (by decide)⟩

end Accounts

end Drukbox.ServiceAccounts
