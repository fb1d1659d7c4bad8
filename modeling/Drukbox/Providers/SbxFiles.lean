import Drukbox.Await.Contract
import Drukbox.Core
import Drukbox.Database.Table

/-!
# The value files of docker-sbx

`SbxInjection` keeps the values of one sandbox as files of one directory.  The exchange writes them
and the API removes them, in processes of their own, so that each file operation is one step.
`shutil.rmtree` is the one of Python 3.11.
-/

namespace Drukbox

open Await

namespace Sbx

/-- A file of the directory. -/
inductive FileName
  /-- The value of a service. -/
  | value (service : String)
  /-- The temporary file of one `mkstemp`. -/
  | staged (file : ℕ)
  deriving DecidableEq, Repr

/-- What the operating system knows: the directory of the sandbox, if it exists, and how many
temporary files have been made. -/
structure State (ι : Type) where
  directory : Option (Table FileName String)
  made : ℕ := 0
  /-- Who made a temporary file, and so holds its descriptor. -/
  maker : ℕ → Option ι

inductive OsError
  /-- `FileNotFoundError`. -/
  | notFound
  | other
  deriving DecidableEq, Repr

/-- The steps of `SbxInjection`. -/
inductive Op
  /-- `mkdir(mode=0o700, parents=True, exist_ok=True)`. -/
  | mkdir
  | mkstemp
  /-- A write to the descriptor of a temporary file. -/
  | write (file : ℕ) (text : String)
  | replace (file : ℕ) (service : String)
  /-- `unlink(missing_ok=True)`. -/
  | discard (file : ℕ)
  /-- `scandir`, at the start of `rmtree`. -/
  | scan
  | unlink (name : FileName)
  | rmdir
  /-- A command of the `sbx` CLI. -/
  | command
  | customPlaceholders
  deriving DecidableEq, Repr

/-- What a step returns or raises.  The CLI fails with a text. -/
@[reducible] def Op.Answer : Op → Type
  | mkstemp => Except OsError ℕ
  | scan => Except OsError (List FileName)
  | command => Except String Unit
  | customPlaceholders => Except String (List String)
  | mkdir | write _ _ | replace _ _ | discard _ | unlink _ | rmdir => Except OsError Unit

/-- What the outside world chooses for a step. -/
inductive Choice
  | fine
  /-- It fails, for a reason other than a missing file. -/
  | fails (text : String)
  /-- The order in which `scandir` lists the files. -/
  | order (names : List FileName)
  | placeholders (placeholders : List String)

variable {ι : Type}

/-- A step that fails. -/
def Op.failed (text : String) : (op : Op) → op.Answer
  | mkstemp | scan | mkdir | write _ _ | replace _ _ | discard _ | unlink _ | rmdir =>
      .error .other
  | command | customPlaceholders => .error text

namespace State

/-- An operation in the directory: `FileNotFoundError` where there is none. -/
def inside {α : Type} (state : State ι)
    (operate : Table FileName String → Except OsError α × State ι) : Except OsError α × State ι :=
  match state.directory with
  | none => (.error .notFound, state)
  | some files => operate files

/-- A step of a task that does not fail for an outside reason. -/
def serve (task : ι) (state : State ι) :
    (op : Op) → Choice → Option (op.Answer × State ι)
  | .mkdir, .fine => some (.ok (), { state with directory := state.directory.getD .empty })
  | .mkstemp, .fine =>
      some (state.inside fun files =>
        (.ok state.made,
          { directory := files.insert (.staged state.made) ""
            made := state.made + 1
            maker := Function.update state.maker state.made (some task) }))
  -- The descriptor outlives the name of its file.
  | .write file text, .fine =>
      some (.ok (),
        { state with directory := state.directory.map (·.modify (.staged file) (· ++ text)) })
  | .replace file service, .fine =>
      some (state.inside fun files =>
        match files.get (.staged file) with
        | none => (.error .notFound, state)
        | some text =>
            (.ok (),
              { state with
                directory := (files.erase (.staged file)).insert (.value service) text }))
  | .discard file, .fine =>
      some (.ok (), { state with directory := state.directory.map (·.erase (.staged file)) })
  | .scan, .order names =>
      if ∀ files ∈ state.directory, names.Nodup ∧ names.toFinset = files.keys then
        some (state.inside fun _ => (.ok names, state))
      else none
  | .unlink name, .fine =>
      some (state.inside fun files =>
        match files.get name with
        | none => (.error .notFound, state)
        | some _ => (.ok (), { state with directory := files.erase name }))
  | .rmdir, .fine =>
      some (state.inside fun files =>
        if files.keys = ∅ then (.ok (), { state with directory := none })
        else (.error .other, state))
  | .command, .fine => some (.ok (), state)
  | .customPlaceholders, .placeholders placeholders => some (.ok placeholders, state)
  | _, _ => none

end State

/-- One step of a task. -/
def perform (task : ι) (op : Op) (choice : Choice) (state : State ι) :
    Option (op.Answer × State ι) :=
  match choice with
  | .fails text => some (op.failed text, state)
  | _ => state.serve task op choice

/-- The exchange and the API on one directory. -/
def system (ι : Type) : System ι Op.Answer (State ι) Choice Empty where
  perform := perform
  world := nofun
  abandon _ state := state

/-- A coroutine of the two processes. -/
abbrev Task := Program Op.Answer Failure

/-- A part of one that leaves its `OSError` to the caller. -/
abbrev FileTask := Program Op.Answer OsError

/-- `write_value` from the temporary file on: the buffer reaches the file in pieces. -/
def fill (file : ℕ) (service : String) : List String → FileTask Unit
  | [] => do Program.ofExcept (← Program.await (Op.replace file service))
  | piece :: pieces => do
      Program.ofExcept (← Program.await (Op.write file piece))
      fill file service pieces

/-- The body of `write_value`. -/
def stage (service : String) (pieces : List String) : FileTask Unit := do
  let file ← Program.ofExcept (← Program.await Op.mkstemp)
  (fill file service pieces).closing
    (do Program.ofExcept (← Program.await (Op.discard file)))

def writeValue (service : String) (pieces : List String) : Task Unit := do
  match ← (stage service pieces).attempt with
  | .ok _ => pure ()
  | .error _ => .raise { kind := .provider, detail := "cannot write the value file" }

/-- A command of the CLI, with `except DockerSbxProviderError as exc`. -/
def command : Task Unit := do
  match ← Program.await Op.command with
  | .ok _ => pure ()
  | .error text => .raise { kind := .provider, detail := text }

def putSecret (service : String) (pieces : List String) : Task Unit := do
  match ← Program.await Op.mkdir with
  | .error _ => .raise { kind := .provider, detail := "cannot make the secrets directory" }
  | .ok _ => do
      writeValue service pieces
      command

def pushSecret (service : String) (pieces : List String) : Task Unit :=
  writeValue service pieces

/-- The loop of `rmtree`. -/
def unlinkAll : List FileName → FileTask Unit
  | [] => pure ()
  | name :: names => do
      Program.ofExcept (← Program.await (Op.unlink name))
      unlinkAll names

def rmtree : FileTask Unit := do
  let names ← Program.ofExcept (← Program.await Op.scan)
  unlinkAll names
  Program.ofExcept (← Program.await Op.rmdir)

/-- `remove_custom_secret` for each placeholder. -/
def removeAll : List String → Task Unit
  | [] => pure ()
  | _ :: placeholders => do
      command
      removeAll placeholders

/-- `delete_secrets`.  `_NATIVE_SERVICES` has one name. -/
def deleteSecrets : Task Unit := do
  command
  match ← Program.await Op.customPlaceholders with
  | .error text => .raise { kind := .provider, detail := text }
  | .ok placeholders => do
      removeAll placeholders
      match ← rmtree.attempt with
      | .ok _ | .error .notFound => pure ()
      | .error .other => .raise { kind := .provider, detail := "cannot remove the value files" }

/-- A call of one of the two processes. -/
inductive Call
  | put (service : String) (pieces : List String)
  | push (service : String) (pieces : List String)
  | delete
  deriving DecidableEq, Repr

namespace Call

def program : Call → Task Unit
  | put service pieces => putSecret service pieces
  | push service pieces => pushSecret service pieces
  | delete => deleteSecrets

/-- The value that it writes for a service. -/
def Writes (service value : String) : Call → Prop
  | put name pieces | push name pieces => name = service ∧ String.join pieces = value
  | delete => False

end Call

/-- Any family of calls on a sandbox whose directory does not exist yet. -/
def init (calls : ι → Option Call) : Config ι Op.Answer (State ι) Failure Unit where
  world := { state := { directory := none, maker := fun _ => none }, log := [] }
  tasks task := (calls task).map Call.program

/-- A call of `delete_secrets` has begun. -/
def Begun (calls : ι → Option Call) (world : World ι Op.Answer (State ι)) : Prop :=
  ∃ task op answer, .answered task op answer ∈ world.log ∧ calls task = some .delete

/-- Every `put_secret` comes before every `delete_secrets`. -/
def Ordered (calls : ι → Option Call) : Condition ι Op.Answer (State ι) Empty where
  perform task _ world :=
    (∃ service pieces, calls task = some (.put service pieces)) → ¬ Begun calls world

/-- And each file that `delete_secrets` comes to unlink is still there, or the directory is gone. -/
def Undisturbed (calls : ι → Option Call) : Condition ι Op.Answer (State ι) Empty where
  perform task op world := (Ordered calls).perform task op world ∧
    ∀ name, op = .unlink name → ∀ files ∈ world.state.directory, (files.get name).isSome

/-- The directory is gone as soon as a call of `delete_secrets` has returned. -/
def Gone (calls : ι → Option Call) (config : Config ι Op.Answer (State ι) Failure Unit) : Prop :=
  ∀ task, calls task = some .delete → config.tasks task = some (.done ()) →
    config.world.state.directory = none

/-- Each value file has the whole value of one of the calls that write it. -/
def Whole (calls : ι → Option Call) (world : World ι Op.Answer (State ι)) : Prop :=
  ∀ files ∈ world.state.directory, ∀ service value, files.get (.value service) = some value →
    ∃ task call, calls task = some call ∧ call.Writes service value

/-- What a step that changes nothing answers. -/
def State.Idle (state : State ι) : (op : Op) → op.Answer → Prop
  | .mkstemp, .ok _ | .write _ _, .ok _ | .replace _ _, .ok _ | .rmdir, .ok _ => False
  | .scan, .error .notFound | .rmdir, .error .notFound => state.directory = none
  | .unlink name, .error .notFound => ∀ files ∈ state.directory, files.get name = none
  | _, _ => True

/-- What a step can do. -/
inductive Moves (task : ι) (before : State ι) : (op : Op) → op.Answer → State ι → Prop
  | idle {op : Op} {answer : op.Answer} (idle : before.Idle op answer) :
      Moves task before op answer before
  | mkdir : Moves task before .mkdir (.ok ())
      { before with directory := before.directory.getD .empty }
  | mkstemp {files} (present : before.directory = some files) :
      Moves task before .mkstemp (.ok before.made)
        { directory := files.insert (.staged before.made) ""
          made := before.made + 1
          maker := Function.update before.maker before.made (some task) }
  | write (file : ℕ) (text : String) : Moves task before (.write file text) (.ok ())
      { before with directory := before.directory.map (·.modify (.staged file) (· ++ text)) }
  | replace (file : ℕ) (service : String) {files text} (present : before.directory = some files)
      (staged : files.get (.staged file) = some text) :
      Moves task before (.replace file service) (.ok ())
        { before with directory := (files.erase (.staged file)).insert (.value service) text }
  | discard (file : ℕ) : Moves task before (.discard file) (.ok ())
      { before with directory := before.directory.map (·.erase (.staged file)) }
  | unlink (name : FileName) {files} (present : before.directory = some files) :
      Moves task before (.unlink name) (.ok ()) { before with directory := files.erase name }
  | rmdir : Moves task before .rmdir (.ok ()) { before with directory := none }

section Steps

variable {task : ι} {op : Op} {choice : Choice} {before after : State ι} {answer : op.Answer}

theorem inside_eq {α : Type} {operate : Table FileName String → Except OsError α × State ι}
    {answer : Except OsError α} (inside : before.inside operate = (answer, after)) :
    before.directory = none ∧ answer = .error .notFound ∧ after = before ∨
      ∃ files, before.directory = some files ∧ operate files = (answer, after) := by
  rw [State.inside] at inside
  cases present : before.directory with
  | none =>
      rw [present] at inside
      obtain ⟨rfl, rfl⟩ := Prod.mk.inj inside
      exact .inl ⟨rfl, rfl, rfl⟩
  | some files =>
      rw [present] at inside
      exact .inr ⟨files, rfl, inside⟩

theorem moves_of_perform (performed : perform task op choice before = some (answer, after)) :
    Moves task before op answer after := by
  cases choice with
  | fails text =>
      obtain ⟨rfl, rfl⟩ := Prod.mk.inj (Option.some.inj performed)
      exact .idle (by cases op <;> trivial)
  | order names =>
      cases op with
      | scan =>
          simp only [perform, State.serve] at performed
          split at performed
          · rcases inside_eq (Option.some.inj performed) with ⟨gone, rfl, rfl⟩ | ⟨files, -, same⟩
            · exact .idle gone
            · obtain ⟨rfl, rfl⟩ := Prod.mk.inj same
              exact .idle trivial
          · cases performed
      | _ => cases performed
  | placeholders placeholders =>
      cases op with
      | customPlaceholders =>
          obtain ⟨rfl, rfl⟩ := Prod.mk.inj (Option.some.inj performed)
          exact .idle trivial
      | _ => cases performed
  | fine =>
      cases op with
      | mkdir =>
          obtain ⟨rfl, rfl⟩ := Prod.mk.inj (Option.some.inj performed)
          exact .mkdir
      | mkstemp =>
          rcases inside_eq (Option.some.inj performed) with
            ⟨gone, rfl, rfl⟩ | ⟨files, present, same⟩
          · exact .idle trivial
          · obtain ⟨rfl, rfl⟩ := Prod.mk.inj same
            exact .mkstemp present
      | write file text =>
          obtain ⟨rfl, rfl⟩ := Prod.mk.inj (Option.some.inj performed)
          exact .write file text
      | replace file service =>
          rcases inside_eq (Option.some.inj performed) with
            ⟨gone, rfl, rfl⟩ | ⟨files, present, same⟩
          · exact .idle trivial
          · cases staged : files.get (.staged file) with
            | none =>
                rw [staged] at same
                obtain ⟨rfl, rfl⟩ := Prod.mk.inj same
                exact .idle trivial
            | some text =>
                rw [staged] at same
                obtain ⟨rfl, rfl⟩ := Prod.mk.inj same
                exact .replace file service present staged
      | discard file =>
          obtain ⟨rfl, rfl⟩ := Prod.mk.inj (Option.some.inj performed)
          exact .discard file
      | unlink name =>
          rcases inside_eq (Option.some.inj performed) with
            ⟨gone, rfl, rfl⟩ | ⟨files, present, same⟩
          · exact .idle fun files member => by rw [gone] at member; cases member
          · cases found : files.get name with
            | none =>
                rw [found] at same
                obtain ⟨rfl, rfl⟩ := Prod.mk.inj same
                refine .idle fun other member => ?_
                obtain rfl := Option.some.inj (present.symm.trans member)
                exact found
            | some text =>
                rw [found] at same
                obtain ⟨rfl, rfl⟩ := Prod.mk.inj same
                exact .unlink name present
      | rmdir =>
          rcases inside_eq (Option.some.inj performed) with
            ⟨gone, rfl, rfl⟩ | ⟨files, present, same⟩
          · exact .idle gone
          · split at same
            · obtain ⟨rfl, rfl⟩ := Prod.mk.inj same
              exact .rmdir
            · obtain ⟨rfl, rfl⟩ := Prod.mk.inj same
              exact .idle trivial
      | command =>
          obtain ⟨rfl, rfl⟩ := Prod.mk.inj (Option.some.inj performed)
          exact .idle trivial
      | _ => cases performed

/-- Only `mkdir` makes the directory. -/
theorem Moves.directory_none (moves : Moves task before op answer after)
    (gone : before.directory = none) (other : op ≠ .mkdir) : after.directory = none := by
  cases moves with
  | idle => exact gone
  | mkdir => exact absurd rfl other
  | mkstemp present | replace _ _ present | unlink _ present => rw [gone] at present; cases present
  | write | discard => simp [gone]
  | rmdir => rfl

/-- A file with a text. -/
def State.Holds (state : State ι) (name : FileName) (text : String) : Prop :=
  ∃ files ∈ state.directory, files.get name = some text

/-- Where the text of a file comes from. -/
theorem Moves.holds {name : FileName} {text : String} (moves : Moves task before op answer after)
    (holds : after.Holds name text) :
    before.Holds name text ∨
      (op = .mkstemp ∧ name = .staged before.made ∧ text = "") ∨
      (∃ file piece, op = .write file piece ∧ name = .staged file ∧
        ∃ old, before.Holds name old ∧ text = old ++ piece) ∨
      ∃ file service, op = .replace file service ∧ name = .value service ∧
        before.Holds (.staged file) text := by
  cases moves with
  | idle => exact .inl holds
  | mkdir =>
      obtain ⟨files, member, got⟩ := holds
      cases present : before.directory with
      | none =>
          rw [present] at member
          obtain rfl := Option.some.inj member
          cases got
      | some old =>
          rw [present] at member
          obtain rfl := Option.some.inj member
          exact .inl ⟨old, present, got⟩
  | mkstemp present =>
      obtain ⟨files, member, got⟩ := holds
      obtain rfl := Option.some.inj member
      rw [Table.get_insert] at got
      split at got
      · next same => exact .inr (.inl ⟨rfl, same, (Option.some.inj got).symm⟩)
      · exact .inl ⟨_, present, got⟩
  | write file piece =>
      obtain ⟨files, member, got⟩ := holds
      obtain ⟨old, present, rfl⟩ := Option.mem_map.mp member
      rw [Table.get_modify] at got
      split at got
      · next same =>
          obtain ⟨text, found, rfl⟩ := Option.map_eq_some_iff.mp got
          refine .inr (.inr (.inl ⟨file, piece, rfl, same, text, ⟨old, present, ?_⟩, rfl⟩))
          rw [same]
          exact found
      · exact .inl ⟨old, present, got⟩
  | replace file service present staged =>
      obtain ⟨files, member, got⟩ := holds
      obtain rfl := Option.some.inj member
      rw [Table.get_insert] at got
      split at got
      · next same =>
          obtain rfl := Option.some.inj got
          exact .inr (.inr (.inr ⟨file, service, rfl, same, _, present, staged⟩))
      · rw [Table.get_erase] at got
        split at got
        · cases got
        · exact .inl ⟨_, present, got⟩
  | discard file =>
      obtain ⟨files, member, got⟩ := holds
      obtain ⟨old, present, rfl⟩ := Option.mem_map.mp member
      rw [Table.get_erase] at got
      split at got
      · cases got
      · exact .inl ⟨old, present, got⟩
  | unlink target present =>
      obtain ⟨files, member, got⟩ := holds
      obtain rfl := Option.some.inj member
      rw [Table.get_erase] at got
      split at got
      · cases got
      · exact .inl ⟨_, present, got⟩
  | rmdir =>
      obtain ⟨files, member, -⟩ := holds
      cases member

/-- A temporary file is made by one task. -/
theorem Moves.makers (moves : Moves task before op answer after) :
    after.made = before.made ∧ after.maker = before.maker ∨
      after.made = before.made + 1 ∧
        after.maker = Function.update before.maker before.made (some task) := by
  cases moves with
  | mkstemp present => exact .inr ⟨rfl, rfl⟩
  | idle | mkdir | write | replace | discard | unlink | rmdir => exact .inl ⟨rfl, rfl⟩

end Steps

inductive Phase
  /-- It is about to write a value for a service; only `put_secret` makes the directory. -/
  | ready (put : Bool) (service value : String)
  | writing (file : ℕ) (service value written : String)
  /-- It has nothing more to write. -/
  | spent
  | deleting
  | gone

/-- The steps of the calls. -/
def contract : Contract Op.Answer Phase where
  allows phase op :=
    match phase, op with
    | .ready put _ _, .mkdir => put
    | .ready _ _ _, .mkstemp => True
    | .writing file _ _ _, .write target _ => target = file
    | .writing file service value written, .replace target name =>
        target = file ∧ name = service ∧ written = value
    | .writing _ _ _ _, .discard _ | .spent, .discard _ | .spent, .command => True
    | .deleting, .command | .deleting, .customPlaceholders | .deleting, .scan
    | .deleting, .unlink _ | .deleting, .rmdir => True
    | _, _ => False
  next phase op answer :=
    match phase, op, answer with
    | .ready _ service value, .mkstemp, .ok file => .writing file service value ""
    | .ready put service value, _, _ => .ready put service value
    | .writing file service value written, .write _ text, .ok _ =>
        .writing file service value (written ++ text)
    | .writing _ _ _ _, _, _ | .spent, _, _ => .spent
    | .deleting, .scan, .error .notFound | .deleting, .unlink _, .error .notFound
    | .deleting, .rmdir, .error .notFound | .deleting, .rmdir, .ok _ => .gone
    | .deleting, _, _ => .deleting
    | .gone, _, _ => .gone

/-- What a call in a phase knows; the last of it only where files are not removed under a
`delete_secrets`. -/
def Asserts (calls : ι → Option Call) (undisturbed : Prop) (task : ι) (phase : Phase)
    (world : World ι Op.Answer (State ι)) : Prop :=
  match phase with
  | .ready put service value => ∃ call, calls task = some call ∧ call.Writes service value ∧
      (put → ∃ service pieces, call = .put service pieces)
  | .writing file service value written =>
      (∃ call, calls task = some call ∧ call.Writes service value) ∧
        world.state.maker file = some task ∧
          ∀ text, world.state.Holds (.staged file) text → text = written
  | .spent => True
  | .deleting => calls task = some .delete
  | .gone => calls task = some .delete ∧
      (undisturbed → world.state.directory = none ∧ Begun calls world)

/-- The value files are whole, and the next temporary file is a new one. -/
structure Inv (calls : ι → Option Call) (world : World ι Op.Answer (State ι)) : Prop where
  whole : Whole calls world
  fresh : ∀ file, world.state.made ≤ file → world.state.maker file = none

section Upheld

variable {calls : ι → Option Call} {undisturbed : Prop} {task other : ι} {phase standing : Phase}
  {op : Op} {answer : op.Answer} {before after : World ι Op.Answer (State ι)}

theorem whole_iff {world : World ι Op.Answer (State ι)} : Whole calls world ↔
    ∀ service value, world.state.Holds (.value service) value →
      ∃ task call, calls task = some call ∧ call.Writes service value := by
  constructor
  · rintro whole service value ⟨files, present, got⟩
    exact whole files present service value got
  · intro whole files present service value got
    exact whole service value ⟨files, present, got⟩

theorem Inv.step (inv : Inv calls before) (asserts : Asserts calls undisturbed task phase before)
    (allowed : contract.allows phase op) (moves : Moves task before.state op answer after.state) :
    Inv calls after := by
  constructor
  · rw [whole_iff]
    intro service value holds
    rcases moves.holds holds with
      kept | ⟨-, name, -⟩ | ⟨_, _, -, name, -⟩ | ⟨file, target, rfl, name, staged⟩
    · exact whole_iff.mp inv.whole service value kept
    · cases name
    · cases name
    · obtain rfl := FileName.value.inj name
      cases phase with
      | writing own service value written =>
          obtain ⟨rfl, rfl, rfl⟩ := allowed
          obtain ⟨⟨call, same, writes⟩, -, content⟩ := asserts
          exact ⟨task, call, same, content _ staged ▸ writes⟩
      | ready | spent | deleting | gone => exact absurd allowed nofun
  · intro file beyond
    rcases moves.makers with ⟨made, maker⟩ | ⟨made, maker⟩
    · rw [maker]
      exact inv.fresh file (made ▸ beyond)
    · rw [maker, Function.update_of_ne (by omega)]
      exact inv.fresh file (by omega)

theorem Asserts.keep (ordered : (Ordered calls).perform task op before) (inv : Inv calls before)
    (asserts : Asserts calls undisturbed task phase before) (allowed : contract.allows phase op)
    (moves : Moves task before.state op answer after.state)
    (log : after.log = before.log ++ [.answered task op answer]) (different : other ≠ task)
    (stands : Asserts calls undisturbed other standing before) :
    Asserts calls undisturbed other standing after := by
  cases standing with
  | ready | spent | deleting => exact stands
  | gone =>
      refine ⟨stands.1, fun strict => ?_⟩
      obtain ⟨gone, begun⟩ := stands.2 strict
      refine ⟨moves.directory_none gone ?_, ?_⟩
      · rintro rfl
        cases phase with
        | ready put service value =>
            obtain ⟨call, same, -, puts⟩ := asserts
            obtain ⟨name, pieces, rfl⟩ := puts allowed
            exact ordered ⟨name, pieces, same⟩ begun
        | writing | spent | deleting | gone => exact absurd allowed nofun
      · obtain ⟨deleter, op, answer, member, call⟩ := begun
        exact ⟨deleter, op, answer, by rw [log]; exact List.mem_append_left _ member, call⟩
  | writing file service value written =>
      obtain ⟨call, maker, content⟩ := stands
      have old : file ≠ before.state.made := by
        rintro rfl
        rw [inv.fresh _ le_rfl] at maker
        cases maker
      refine ⟨call, ?_, fun text holds => ?_⟩
      · rcases moves.makers with ⟨-, same⟩ | ⟨-, same⟩
        · rw [same]
          exact maker
        · rw [same, Function.update_of_ne old]
          exact maker
      · rcases moves.holds holds with
          kept | ⟨-, name, -⟩ | ⟨target, _, rfl, name, -⟩ | ⟨_, _, -, name, -⟩
        · exact content text kept
        · exact absurd (FileName.staged.inj name) old
        · obtain rfl := FileName.staged.inj name
          cases phase with
          | writing own service value written =>
              obtain rfl : file = own := allowed
              rw [asserts.2.1] at maker
              exact absurd (Option.some.inj maker).symm different
          | ready | spent | deleting | gone => exact absurd allowed nofun
        · cases name

theorem Asserts.next
    (steady : undisturbed → ∀ name, op = .unlink name → ∀ files ∈ before.state.directory,
      (files.get name).isSome)
    (asserts : Asserts calls undisturbed task phase before) (allowed : contract.allows phase op)
    (moves : Moves task before.state op answer after.state)
    (log : after.log = before.log ++ [.answered task op answer]) :
    Asserts calls undisturbed task (contract.next phase op answer) after := by
  obtain ⟨state, _⟩ := after
  obtain rfl := log
  cases phase with
  | spent => cases op <;> trivial
  | gone => exact absurd allowed (by cases op <;> exact nofun)
  | ready put service value =>
      obtain ⟨call, same, writes, puts⟩ := asserts
      cases op with
      | mkdir => exact ⟨call, same, writes, puts⟩
      | mkstemp =>
          cases answer with
          | error => exact ⟨call, same, writes, puts⟩
          | ok file =>
              cases moves with
              | idle idle => exact idle.elim
              | mkstemp present =>
                  refine ⟨⟨call, same, writes⟩, Function.update_self _ _ _, ?_⟩
                  rintro text ⟨files, member, got⟩
                  obtain rfl := Option.some.inj member
                  rw [Table.get_insert_self] at got
                  exact (Option.some.inj got).symm
      | _ => exact absurd allowed nofun
  | writing file service value written =>
      cases op with
      | write target piece =>
          obtain rfl : target = file := allowed
          cases answer with
          | error => trivial
          | ok =>
              cases moves with
              | idle idle => exact idle.elim
              | write =>
                  obtain ⟨call, maker, content⟩ := asserts
                  refine ⟨call, maker, ?_⟩
                  rintro text ⟨files, member, got⟩
                  obtain ⟨old, present, rfl⟩ := Option.mem_map.mp member
                  rw [Table.get_modify_self] at got
                  obtain ⟨before, found, rfl⟩ := Option.map_eq_some_iff.mp got
                  rw [content before ⟨old, present, found⟩]
      | replace | discard => trivial
      | _ => exact absurd allowed nofun
  | deleting =>
      -- A call that has come to an end has begun.
      have begun : Begun calls { state, log := before.log ++ [.answered task op answer] } :=
        ⟨task, op, answer, List.mem_append_right _ List.mem_cons_self, asserts⟩
      cases op with
      | command | customPlaceholders => exact asserts
      | scan =>
          rcases answer with (_ | _) | _
          · cases moves with
            | idle idle => exact ⟨asserts, fun _ => ⟨idle, begun⟩⟩
          · exact asserts
          · exact asserts
      | unlink name =>
          rcases answer with (_ | _) | _
          · cases moves with
            | idle missing =>
                refine ⟨asserts, fun strict => ⟨?_, begun⟩⟩
                refine Option.eq_none_iff_forall_not_mem.mpr fun files member => ?_
                have there := steady strict name rfl files member
                rw [missing files member] at there
                cases there
          · exact asserts
          · exact asserts
      | rmdir =>
          rcases answer with (_ | _) | _
          · cases moves with
            | idle idle => exact ⟨asserts, fun _ => ⟨idle, begun⟩⟩
          · exact asserts
          · cases moves with
            | idle idle => exact idle.elim
            | rmdir => exact ⟨asserts, fun _ => ⟨rfl, begun⟩⟩
      | _ => exact absurd allowed nofun

end Upheld

theorem upheld {calls : ι → Option Call} {condition : Condition ι Op.Answer (State ι) Empty}
    {undisturbed : Prop}
    (ordered : ∀ {task op world}, condition.perform task op world →
      (Ordered calls).perform task op world)
    (steady : undisturbed → ∀ {task op world}, condition.perform task op world →
      ∀ name, op = .unlink name → ∀ files ∈ world.state.directory, (files.get name).isSome) :
    Upheld (system ι) condition contract (Inv calls) (Asserts calls undisturbed) where
  perform allowed inv asserts holds answered := by
    obtain ⟨performed, log⟩ := System.answer_eq_some.mp answered
    have moves := moves_of_perform performed
    exact ⟨trivial, inv.step asserts allowed moves,
      asserts.next (fun strict => steady strict holds) allowed moves log⟩
  others allowed inv asserts holds answered different stands := by
    obtain ⟨performed, log⟩ := System.answer_eq_some.mp answered
    exact asserts.keep (ordered holds) inv allowed (moves_of_perform performed) log different stands
  abandon _ inv := by
    refine ⟨⟨inv.whole, inv.fresh⟩, fun {other standing} _ stands => ?_⟩
    cases standing with
    | ready | writing | spent | deleting => exact stands
    | gone =>
        refine ⟨stands.1, fun strict => ⟨(stands.2 strict).1, ?_⟩⟩
        obtain ⟨deleter, op, answer, member, call⟩ := (stands.2 strict).2
        exact ⟨deleter, op, answer, List.mem_append_left _ member, call⟩
  world {move} := nomatch move

section Programs

/-- A writer has a temporary file to unlink. -/
def Phase.Closing : Phase → Prop
  | writing _ _ _ _ | spent => True
  | ready _ _ _ | deleting | gone => False

theorem fill_follows {file : ℕ} {service value written : String} (pieces : List String)
    (whole : written ++ String.join pieces = value) :
    Follows contract (fun phase _ => phase.Closing) (.writing file service value written)
      (fill file service pieces) := by
  induction pieces generalizing written with
  | nil =>
      refine .step ⟨rfl, rfl, by simpa using whole⟩ fun answer _ => ?_
      cases answer <;> trivial
  | cons piece pieces ih =>
      refine .step rfl fun answer _ => ?_
      cases answer with
      | error => trivial
      | ok => exact ih (by simpa [String.append_assoc] using whole)

theorem stage_follows (put : Bool) (service : String) (pieces : List String) :
    Follows contract (Ends (fun _ => True) fun phase _ => phase = .spent)
      (.ready put service (String.join pieces)) (stage service pieces) := by
  refine .step trivial fun answer _ => ?_
  cases answer with
  | error => trivial
  | ok file =>
      refine .closing ((fill_follows pieces (by simp)).weaken fun phase outcome closing => ?_)
      cases phase with
      | writing | spent =>
          refine .step trivial fun answer _ => ?_
          cases answer <;> cases outcome <;> trivial
      | ready | deleting | gone => exact closing.elim

theorem writeValue_follows (put : Bool) (service : String) (pieces : List String) :
    Follows contract (Ends (fun _ => True) fun phase _ => phase = .spent)
      (.ready put service (String.join pieces)) (writeValue service pieces) := by
  refine .bind (.attempt ((stage_follows put service pieces).weaken fun phase outcome ended => ?_))
  cases outcome with
  | ok => exact ended
  | error => trivial

theorem command_follows {phase : Phase} (allowed : contract.allows phase .command)
    (kept : ∀ answer, contract.next phase .command answer = phase) :
    Follows contract (Ends (fun _ => True) fun later _ => later = phase) phase command := by
  refine .step allowed fun answer _ => ?_
  rw [kept]
  cases answer <;> trivial

theorem unlinkAll_follows (names : List FileName) :
    Follows contract
      (fun phase outcome => phase = .deleting ∧ outcome ≠ .error .notFound ∨
        phase = .gone ∧ outcome = .error .notFound) .deleting (unlinkAll names) := by
  induction names with
  | nil => exact .inl ⟨rfl, nofun⟩
  | cons name names ih =>
      refine .step trivial fun answer _ => ?_
      rcases answer with (_ | _) | _
      · exact .inr ⟨rfl, rfl⟩
      · exact .inl ⟨rfl, nofun⟩
      · exact ih

theorem rmtree_follows :
    Follows contract
      (fun phase outcome => outcome ≠ .error .other → phase = .gone) .deleting rmtree := by
  refine .step trivial fun answer _ => ?_
  rcases answer with (_ | _) | names
  · exact fun _ => rfl
  · exact fun different => absurd rfl different
  · refine .bind (Follows.done_iff.mpr ?_)
    refine .bind ((unlinkAll_follows names).weaken fun phase outcome ended => ?_)
    rcases ended with ⟨rfl, other⟩ | ⟨rfl, rfl⟩
    · rcases outcome with (_ | _) | _
      · exact absurd rfl other
      · exact fun different => absurd rfl different
      · refine .step trivial fun answer _ => ?_
        rcases answer with (_ | _) | _
        · exact fun _ => rfl
        · exact fun different => absurd rfl different
        · exact fun _ => rfl
    · exact fun _ => rfl

theorem removeAll_follows (placeholders : List String) :
    Follows contract (Ends (fun _ => True) fun later _ => later = .deleting) .deleting
      (removeAll placeholders) := by
  induction placeholders with
  | nil => rfl
  | cons _ placeholders ih =>
      refine .seq (command_follows trivial fun _ => rfl) fun later _ same => ?_
      subst same
      exact ih

theorem deleteSecrets_follows :
    Follows contract (Ends (fun _ => True) fun phase _ => phase = .gone) .deleting
      deleteSecrets := by
  refine .seq (command_follows trivial fun _ => rfl) fun later _ same => ?_
  subst same
  refine .step trivial fun answer _ => ?_
  cases answer with
  | error => trivial
  | ok placeholders =>
      refine .seq (removeAll_follows placeholders) fun later _ same => ?_
      subst same
      refine .bind (.attempt (rmtree_follows.weaken fun phase outcome ended => ?_))
      rcases outcome with (_ | _) | _
      · exact ended nofun
      · trivial
      · exact ended nofun

end Programs

/-- What a call promises at its end. -/
def Post (calls : ι → Option Call) (task : ι) (phase : Phase) (outcome : Except Failure Unit) :
    Prop :=
  calls task = some .delete → outcome = .ok () → phase = .gone

theorem init_upholds (calls : ι → Option Call) (undisturbed : Prop) :
    Upholds contract (Inv calls) (Asserts calls undisturbed) (Post calls) (init calls) where
  inv := ⟨fun _ member => (nomatch member), fun _ _ => rfl⟩
  follows {task program} started := by
    obtain ⟨call, called, rfl⟩ := Option.map_eq_some_iff.mp started
    cases call with
    | put service pieces =>
        refine ⟨.ready true service (String.join pieces),
          ⟨_, called, ⟨rfl, rfl⟩, fun _ => ⟨service, pieces, rfl⟩⟩, ?_⟩
        have silent : ∀ phase outcome, Post calls task phase outcome := by
          intro _ _ deletes
          rw [called] at deletes
          cases deletes
        refine .step rfl fun answer _ => ?_
        cases answer with
        | error => exact silent _ _
        | ok =>
            refine .bind ((writeValue_follows true service pieces).weaken
              fun phase outcome ended => ?_)
            cases outcome with
            | error => exact silent _ _
            | ok =>
                obtain rfl : phase = .spent := ended
                have last : Follows contract _ .spent command :=
                  command_follows trivial fun _ => rfl
                exact last.weaken fun _ _ _ => silent _ _
    | push service pieces =>
        refine ⟨.ready false service (String.join pieces), ⟨_, called, ⟨rfl, rfl⟩, nofun⟩, ?_⟩
        refine (writeValue_follows false service pieces).weaken fun _ _ _ deletes => ?_
        rw [called] at deletes
        cases deletes
    | delete =>
        refine ⟨.deleting, called, deleteSecrets_follows.weaken fun _ outcome ended _ => ?_⟩
        rintro rfl
        exact ended

variable [DecidableEq ι] {calls : ι → Option Call}
  {config : Config ι Op.Answer (State ι) Failure Unit}

/-- Readers see whole values in every run, and the secrets never come back in a run in which nobody
else removes a file that `delete_secrets` has listed. -/
theorem deleteSecrets_keeps_gone :
    ((system ι).Reaches (Ordered calls) (init calls) config → Whole calls config.world) ∧
      ((system ι).Reaches (Undisturbed calls) (init calls) config → Gone calls config) := by
  constructor
  · intro reach
    have upholds := (init_upholds calls False).reaches (upheld id nofun) reach
    exact upholds.inv.whole
  · intro reach task called returned
    have ordered {task op world} (holds : (Undisturbed calls).perform task op world) :
        (Ordered calls).perform task op world := holds.1
    have upholds := (init_upholds calls True).reaches
      (upheld ordered fun _ _ _ _ (holds : (Undisturbed calls).perform _ _ _) => holds.2) reach
    obtain ⟨phase, asserts, post⟩ := upholds.follows returned
    obtain rfl := post called rfl
    exact (asserts.2 trivial).1

/-- Three callers. -/
inductive Caller
  | putter
  | deleter
  | pusher
  deriving DecidableEq

/-- A `put_secret`, a `delete_secrets` and a `push_secret` on one sandbox. -/
def exampleCalls : Caller → Option Call
  | .putter => some (.put "github" ["old"])
  | .deleter => some .delete
  | .pusher => some (.push "github" ["new"])

/-- No entry of a call of `delete_secrets`. -/
def quiet (log : List (Entry (Caller) Op.Answer)) : Bool :=
  log.all fun entry =>
    match entry with
    | .answered task _ _ => task != .deleter
    | .abandoned _ => true

/-- The file that a call comes to unlink is there. -/
def present (directory : Option (Table FileName String)) :
    Option (Program Op.Answer Failure Unit) → Bool
  | some (.call (.unlink name) _) => directory.all fun files => (files.get name).isSome
  | _ => true

/-- An event keeps to the order. -/
def inOrder (config : Config (Caller) Op.Answer (State (Caller)) Failure Unit) :
    Event (Caller) Choice Empty → Bool
  | .perform task _ => task != .putter || quiet config.world.log
  | .abandon _ => true
  | .world _ => true

/-- And does not meet a file that has been removed. -/
def inPeace (config : Config (Caller) Op.Answer (State (Caller)) Failure Unit)
    (event : Event (Caller) Choice Empty) : Bool :=
  inOrder config event &&
    match event with
    | .perform task _ => present config.world.state.directory (config.tasks task)
    | .abandon _ => true
    | .world _ => true

theorem inOrder_sound (config : Config (Caller) Op.Answer (State (Caller)) Failure Unit)
    (event : Event (Caller) Choice Empty) (passed : inOrder config event) :
    (Ordered exampleCalls).Allows config event := by
  cases event with
  | perform task choice =>
      rintro op resume - ⟨service, pieces, puts⟩ ⟨other, op, answer, member, deletes⟩
      cases task with
      | putter =>
          have clear := List.all_eq_true.mp passed _ member
          cases other with
          | deleter => simp at clear
          | putter | pusher => cases deletes
      | deleter | pusher => cases puts
  | abandon task => trivial
  | world move => trivial

theorem inPeace_sound (config : Config (Caller) Op.Answer (State (Caller)) Failure Unit)
    (event : Event (Caller) Choice Empty) (passed : inPeace config event) :
    (Undisturbed exampleCalls).Allows config event := by
  obtain ⟨ordered, there⟩ := Bool.and_eq_true_iff.mp passed
  cases event with
  | perform task choice =>
      intro op resume waits
      refine ⟨inOrder_sound config _ ordered op resume waits, ?_⟩
      rintro name rfl files member
      have found : present config.world.state.directory (config.tasks task) := there
      rw [waits] at found
      exact (Option.all_eq_true _ _).mp found files member
  | abandon task => trivial
  | world move => trivial

/-- The run in which the push comes after the teardown. -/
def teardownRun : List (Event (Caller) Choice Empty) :=
  List.replicate 6 (.perform .putter .fine) ++
    [.perform .deleter .fine, .perform .deleter (.placeholders []),
      .perform .deleter (.order [.value "github"]),
      .perform .deleter .fine, .perform .deleter .fine, .perform .pusher .fine]

/-- The run in which the push renames its temporary file between the listing and the unlink. -/
def overlappingRun : List (Event (Caller) Choice Empty) :=
  List.replicate 6 (.perform .putter .fine) ++
    [.perform .pusher .fine, .perform .deleter .fine, .perform .deleter (.placeholders []),
      .perform .deleter (.order [.staged 1, .value "github"]), .perform .pusher .fine,
        .perform .pusher .fine,
      .perform .deleter .fine]

theorem deleteSecrets_keeps_gone_teardown :
    ∃ config, (system (Caller)).Reaches (Undisturbed exampleCalls) (init exampleCalls) config ∧
      config.tasks .deleter = some (.done ()) ∧ Gone exampleCalls config := by
  have executed :
    ((system (Caller)).runChecked inPeace (init exampleCalls) teardownRun).isSome := by
    decide +kernel
  have reach := System.reaches_runChecked inPeace inPeace_sound teardownRun executed
  exact ⟨_, reach, by rfl, deleteSecrets_keeps_gone.2 reach⟩

/-- The attempt returns, and the directory is still there. -/
theorem deleteSecrets_leaves_directory :
    ∃ config, (system (Caller)).Reaches (Ordered exampleCalls) (init exampleCalls) config ∧
      ¬ Gone exampleCalls config := by
  have executed :
    ((system (Caller)).runChecked inOrder (init exampleCalls) overlappingRun).isSome := by
    decide +kernel
  refine ⟨_, System.reaches_runChecked inOrder inOrder_sound overlappingRun executed, ?_⟩
  intro gone
  have left : (((system Caller).runChecked inOrder (init exampleCalls) overlappingRun).get
      executed).world.state.directory.isSome := by rfl
  rw [gone .deleter rfl (by rfl)] at left
  cases left

end Sbx

end Drukbox
