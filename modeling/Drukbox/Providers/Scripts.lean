import Drukbox.Codec.Shell
import Drukbox.HostSecrets.Catalog
import Drukbox.Providers.Capabilities
import Drukbox.Providers.PersistedEnvironment

/-!
# The scripts of a sandbox

`get_cloud_init` gives an environment to its own commands and to every later session, and
`get_bashrc` gives it to every bash session.  A shell reads both as they were meant, whatever the
values are.
-/

namespace Drukbox.Environment

open Shell

/-- The line that exports one variable. -/
def exportLine (key value : String) : String :=
  "export " ++ key ++ "=" ++ String.ofList (quote value.toList)

def getExport : Dict String → Except Failure (List String)
  | [] => .ok []
  | (key, value) :: rest => do
      if !isName key.toList then
        throw { kind := .value, detail := "invalid VM environment variable name: " ++ key }
      let exports ← getExport rest
      return exportLine key value :: exports

/-- The line that ends the here-document of `get_bashrc`. -/
def bashrcEnd : String := "DRUKBOX_ENV"

def getBashrc (env : Dict String) : Except Failure String := do
  let exports ← getExport env
  return "\n".intercalate
    (["cat > ~/.bashrc.new <<'" ++ bashrcEnd ++ "'"] ++ exports ++
      [bashrcEnd, "cat ~/.bashrc >> ~/.bashrc.new && mv ~/.bashrc.new ~/.bashrc"])

def proxyCa : String := "SECRETS_PROXY_CA"

/-- `get_install_ca`, with `sudo=False` for a script that root runs. -/
def getInstallCa (env : Dict String) (asRoot : Bool) : List String :=
  let privileged := if asRoot then "" else "sudo -n "
  if (env.lookup proxyCa).isSome then
    ["printf '%s' \"$" ++ proxyCa ++ "\" | base64 -d | " ++ privileged ++ "tee " ++
        ProxyInjection.proxyCaPath ++ " >/dev/null || exit 1",
      privileged ++ "update-ca-certificates >/dev/null || exit 1"]
  else
    []

def getGithub (env : Dict String) (asRoot : Bool) : List String :=
  let git := (if asRoot then "" else "sudo -n ") ++ "git config --system"
  if (env.lookup Catalog.github.authVariable).isSome then
    [git ++ " --replace-all credential.https://github.com.helper '' || exit 1",
      git ++ " --add credential.https://github.com.helper '!gh auth git-credential' || exit 1",
      git ++ " --replace-all url.https://github.com/.insteadOf git@github.com: || exit 1",
      git ++ " --add url.https://github.com/.insteadOf ssh://git@github.com/ || exit 1"]
  else
    []

/-- The script of `get_cloud_init` with its shebang. -/
def withShebang (setupScript : String) : String :=
  if "#!".toList.isPrefixOf setupScript.toList then setupScript else "#!/bin/sh\n" ++ setupScript

/-- A text up to its first newline. -/
def firstLine (text : List Char) : List Char :=
  text.takeWhile (· != '\n')

/-- A text behind its first newline. -/
def behindFirstLine (text : List Char) : List Char :=
  (text.dropWhile (· != '\n')).drop 1

/-- The lines behind the environment: the proxy's CA, git's setup, then the script. -/
def bootLines (script : String) (env : Dict String) (asRoot : Bool) : List String :=
  getInstallCa env asRoot ++ getGithub env asRoot ++
    [String.ofList (behindFirstLine script.toList)]

def getCloudInit (setupScript : String) (env : Option (Dict String)) : Except Failure String := do
  let env := env.getD []
  let exports ← getExport env
  let persisted ← getPersist env
  let script := withShebang setupScript
  let lines :=
    [String.ofList (firstLine script.toList)] ++ exports ++ persisted ++ bootLines script env true
  return "\n".intercalate (lines.filter (· ≠ ""))

/-- What a script has made of its session so far. -/
structure Session where
  exported : Dict String := []
  /-- `/etc/environment`. -/
  environment : List UInt8 := []

namespace Session

/-- The session after an export, or after a line for `/etc/environment`.  `none` for another
command. -/
def perform (session : Session) : List Token → Option Session
  | [command, argument] =>
      let name := argument.text.takeWhile (· != '=')
      let value := (argument.text.dropWhile (· != '=')).drop 1
      if command = .word "export".toList ∧ argument.kind = .word ∧ isName name ∧
          name ≠ argument.text then
        some { session with
          exported := session.exported.set (String.ofList name) (String.ofList value) }
      else none
  | [command, format, argument, append, file] =>
      if command = .word "printf".toList ∧ format = .word "%s\\n".toList ∧ argument.kind = .word ∧
          append = .operator ">>".toList ∧ file = .word "/etc/environment".toList then
        some { session with environment := session.environment ++ bytes argument.text ++ [10] }
      else none
  | _ => none

/-- Some commands of a script: what is left of it, and the session behind them. -/
def run : ℕ → List Char × Session → Option (List Char × Session)
  | 0, state => some state
  | count + 1, (script, session) => do
      let (tokens, rest) ← line .bare none script
      let session ← session.perform tokens
      run count (rest, session)

theorem run_add (first second : ℕ) (state : List Char × Session) :
    run (first + second) state = (run first state).bind (run second) := by
  induction first generalizing state with
  | zero => simp [run]
  | succ first ih =>
      obtain ⟨script, session⟩ := state
      rw [Nat.succ_add, run, run]
      cases line .bare none script with
      | none => rfl
      | some found =>
          cases performed : session.perform found.1 with
          | none => simp [performed]
          | some next => simp [performed, ih]

end Session

section Spelling

variable {text : List Char}

theorem plain_of_safe {char : Char} (safe : isSafe char = true) : isPlain char = true := by
  have marked : (("&|;<>".toList ++ " \t\n\r()$`\\\"'*?[]#~!{}^".toList).all fun special =>
      !isSafe special) = true := by decide +kernel
  by_contra special
  have member : char ∈ "&|;<>".toList ++ " \t\n\r()$`\\\"'*?[]#~!{}^".toList := by
    rw [List.mem_append, ← List.contains_iff_mem, ← List.contains_iff_mem]
    simpa [isPlain, isOperator, or_iff_not_imp_left] using special
  have unsafe_ := List.all_eq_true.mp marked char member
  rw [safe] at unsafe_
  contradiction

theorem plain_of_name (named : isName text = true) : text.all isPlain = true := by
  refine List.all_eq_true.mpr fun char member => plain_of_safe ?_
  rcases code_of_isName named member with code | code | code | code
  · have digit : inRange '0' '9' char = true := inRange_iff.mpr code
    simp [isSafe, digit]
  · have upper : inRange 'A' 'Z' char = true := inRange_iff.mpr code
    simp [isSafe, upper]
  · obtain rfl : char = '_' := Char.toNat_inj.mp code
    decide
  · have lower : inRange 'a' 'z' char = true := inRange_iff.mpr code
    simp [isSafe, lower]

theorem spells_quote (text : List Char) : Spells (quote text) (.word text) := by
  unfold quote
  split
  · next empty =>
      subst empty
      exact spells_quoted []
  · next nonempty =>
      split
      · next safe =>
          refine spells_plain nonempty (List.all_eq_true.mpr fun char member => ?_)
          exact plain_of_safe (List.all_eq_true.mp safe char member)
      · exact spells_quoted text

end Spelling

section Commands

variable {key value : String} {env : Dict String} {exports persisted : List String}
  {behind rest : List Char} {session : Session}

theorem getExport_cons (accepted : getExport ((key, value) :: env) = .ok exports) :
    isName key.toList = true ∧ ∃ later, getExport env = .ok later ∧
      exports = exportLine key value :: later := by
  rw [getExport] at accepted
  by_cases named : isName key.toList = true
  · simp only [named, Bool.not_true, Bool.false_eq_true, if_false] at accepted
    cases exported : getExport env with
    | error failure =>
        rw [exported] at accepted
        cases accepted
    | ok later =>
        rw [exported] at accepted
        exact ⟨named, later, rfl, (Except.ok.inj accepted).symm⟩
  · simp only [named, Bool.not_false, if_true] at accepted
    cases accepted

theorem spells_assignment (named : isName key.toList = true) (value : String) :
    Spells (key.toList ++ '=' :: quote value.toList)
      (.word (key.toList ++ '=' :: value.toList)) := by
  have nonempty : key.toList ≠ [] := by
    intro empty
    rw [empty] at named
    cases named
  exact (spells_plain nonempty (plain_of_name named)).append
    ((spells_char (by decide)).append (spells_quote value.toList))

/-- A reader of the assignment finds the name and the value. -/
theorem split_assignment (named : isName key.toList = true) (value : String) :
    (key.toList ++ '=' :: value.toList).takeWhile (· != '=') = key.toList ∧
      (key.toList ++ '=' :: value.toList).dropWhile (· != '=') = '=' :: value.toList := by
  have other : ∀ char ∈ key.toList, (char != '=') = true := by
    intro char member
    have code := code_of_isName named member
    rw [bne_iff_ne]
    rintro rfl
    have equals : '='.toNat = 61 := rfl
    omega
  constructor
  · rw [List.takeWhile_append_of_pos other]
    simp
  · rw [List.dropWhile_append_of_pos other]
    simp

theorem perform_export (named : isName key.toList = true) (value : String) (session : Session) :
    session.perform [.word "export".toList, .word (key.toList ++ '=' :: value.toList)] =
      some { session with exported := session.exported.set key value } := by
  obtain ⟨name, equals⟩ := split_assignment named value
  have part : key.toList ≠ key.toList ++ '=' :: value.toList := by simp
  simp only [Session.perform, name, equals, named, List.drop_one, List.tail_cons,
    String.ofList_toList]
  rw [if_pos ⟨trivial, trivial, trivial, part⟩]

/-- A line of a script that does this to its session. -/
def Performs (text : List Char) (effect : Session → Session) : Prop :=
  ∀ behind rest session, Closes behind rest →
    Session.run 1 (text ++ behind, session) = some (rest, effect session)

theorem performs_tokens {text : List Char} {items : List (List Char × Token)}
    {effect : Session → Session} (nonempty : items ≠ [])
    (spells : ∀ item ∈ items, Spells item.1 item.2)
    (spelled : text = [' '].intercalate (items.map Prod.fst))
    (performed : ∀ session : Session,
      session.perform (items.map Prod.snd) = some (effect session)) :
    Performs text effect := by
  intro behind rest session closes
  rw [Session.run, spelled, line_tokens nonempty spells closes]
  simp only [Option.bind_eq_bind, Option.bind_some, performed]
  rfl

/-- A shell that reads an export has the variable behind it, whatever its value. -/
theorem performs_export (named : isName key.toList = true) (value : String) :
    Performs (exportLine key value).toList fun session =>
      { session with exported := session.exported.set key value } := by
  have command : Spells "export".toList (.word "export".toList) :=
    spells_plain (by decide) (by decide)
  have spells : ∀ item ∈ [("export".toList, Token.word "export".toList),
      (key.toList ++ '=' :: quote value.toList, .word (key.toList ++ '=' :: value.toList))],
      Spells item.1 item.2 := by
    intro item member
    rcases List.mem_pair.mp member with rfl | rfl
    · exact command
    · exact spells_assignment named value
  refine performs_tokens (List.cons_ne_nil _ _) spells ?_ (perform_export named value)
  simp [exportLine, List.intercalate_cons_cons]

/-- The bytes of one entry of `/etc/environment`. -/
def entryBytes (key value : String) : List UInt8 :=
  bytes (key ++ "=" ++ value).toList ++ [10]

theorem performs_persist (key value : String) :
    Performs (persistLine key value).toList fun session =>
      { session with environment := session.environment ++ entryBytes key value } := by
  let entry := (key ++ "=" ++ value).toList
  have spells : ∀ item ∈ [("printf".toList, Token.word "printf".toList),
      ("'%s\\n'".toList, .word "%s\\n".toList), (quote entry, .word entry),
      (">>".toList, .operator ">>".toList),
      ("/etc/environment".toList, .word "/etc/environment".toList)],
      Spells item.1 item.2 := by
    have command : Spells "printf".toList (.word "printf".toList) :=
      spells_plain (by decide) (by decide)
    have format : Spells "'%s\\n'".toList (.word "%s\\n".toList) := spells_quoted "%s\\n".toList
    have append : Spells ">>".toList (.operator ">>".toList) :=
      spells_operator (by decide) (by decide)
    have file : Spells "/etc/environment".toList (.word "/etc/environment".toList) :=
      spells_plain (by decide) (by decide)
    simp only [List.forall_mem_cons, List.not_mem_nil, false_implies, implies_true, and_true]
    exact ⟨command, format, spells_quote entry, append, file⟩
  refine performs_tokens (List.cons_ne_nil _ _) spells ?_ ?_
  · simp [persistLine, List.intercalate_cons_cons, entry]
  · intro session
    simp only [List.map_cons, List.map_nil, Session.perform]
    rw [if_pos ⟨trivial, trivial, trivial, trivial, trivial⟩]
    rw [entryBytes, List.append_assoc]

theorem run_each {α : Type} {items : List α} {text : α → List Char}
    {effect : α → Session → Session} (performs : ∀ item ∈ items, Performs (text item) (effect item))
    (later : List (List Char)) (session : Session) :
    Session.run items.length (['\n'].intercalate (items.map text ++ later), session) =
      some (['\n'].intercalate later,
        items.foldl (fun session item => effect item session) session) := by
  induction items generalizing session with
  | nil => rfl
  | cons item items ih =>
      obtain ⟨behind, split, closes⟩ := closes_line (text item) (items.map text ++ later)
      have first := performs item List.mem_cons_self behind _ session closes
      have rest := ih (fun other member => performs other (List.mem_cons_of_mem _ member))
        (effect item session)
      rw [List.length_cons, Nat.add_comm, Session.run_add, List.map_cons, List.cons_append, split,
        first, Option.bind_some, rest, List.foldl_cons]

/-- `get_export` accepts names only, and writes one line for each. -/
theorem getExport_ok (accepted : getExport env = .ok exports) :
    (∀ item ∈ env, isName item.1.toList = true) ∧
      exports = env.map fun item => exportLine item.1 item.2 := by
  induction env generalizing exports with
  | nil =>
      obtain rfl := Except.ok.inj accepted
      exact ⟨fun item member => absurd member List.not_mem_nil, rfl⟩
  | cons item env ih =>
      obtain ⟨key, value⟩ := item
      obtain ⟨named, later, exported, rfl⟩ := getExport_cons accepted
      obtain ⟨names, rfl⟩ := ih exported
      exact ⟨List.forall_mem_cons.mpr ⟨named, names⟩, rfl⟩

theorem getPersist_ok (accepted : getPersist env = .ok persisted) :
    persisted = env.map fun item => persistLine item.1 item.2 := by
  induction env generalizing persisted with
  | nil => exact (Except.ok.inj accepted).symm
  | cons item env ih =>
      obtain ⟨key, value⟩ := item
      obtain ⟨-, -, -, later, kept, rfl⟩ := getPersist_cons accepted
      rw [ih kept]
      rfl

theorem run_exports (named : ∀ item ∈ env, isName item.1.toList = true)
    (later : List (List Char)) (session : Session) :
    Session.run env.length
        (['\n'].intercalate (env.map (fun item => (exportLine item.1 item.2).toList) ++ later),
          session) =
      some (['\n'].intercalate later,
        { session with exported := session.exported.update env }) := by
  rw [run_each (fun item member => performs_export (named item member) item.2)]
  congr 2
  clear named
  induction env generalizing session with
  | nil => rfl
  | cons item env ih => rw [List.foldl_cons, ih, Dict.update_cons]

theorem run_entries (env : Dict String) (later : List (List Char)) (session : Session) :
    Session.run env.length
        (['\n'].intercalate (env.map (fun item => (persistLine item.1 item.2).toList) ++ later),
          session) =
      some (['\n'].intercalate later,
        { session with
          environment := session.environment ++ env.flatMap fun item =>
            entryBytes item.1 item.2 }) := by
  have appended (session : Session) :
      env.foldl (fun session item =>
        { session with environment := session.environment ++ entryBytes item.1 item.2 }) session =
      { session with
        environment := session.environment ++ env.flatMap fun item =>
          entryBytes item.1 item.2 } := by
    induction env generalizing session with
    | nil => simp
    | cons item env ih =>
        rw [List.foldl_cons, ih]
        simp only [List.flatMap_cons, List.append_assoc]
  have ran := run_each (fun item (_ : item ∈ env) => performs_persist item.1 item.2) later session
  exact ran.trans (by rw [appended])

/-- What the lines of `get_persist` append, as `pam_env` reads it. -/
theorem read_entries (kept : getPersist env = .ok persisted) {file : List UInt8}
    (ends : PamEnv.EndsLine file) (passed : PamEnv.holds [] (PamEnv.lines file) = some []) :
    PamEnv.read (file ++ env.flatMap fun item => entryBytes item.1 item.2) =
      PamEnv.read file ++ encoded env := by
  have written : persisted.mapM appends = some (env.map fun item => entryBytes item.1 item.2) := by
    rw [getPersist_ok kept]
    clear kept
    induction env with
    | nil => rfl
    | cons item env ih =>
        rw [List.map_cons, List.mapM_cons, appends_persistLine, ih]
        simp only [entryBytes, bytes, String.toList_append, List.flatMap_append, List.append_assoc]
        rfl
  obtain ⟨texts, found, -, back⟩ := read_persisted env persisted kept
  obtain rfl := Option.some.inj (written.symm.trans found)
  obtain ⟨added, -, -, read⟩ := back file ends
  rw [← read passed, List.flatMap_def]

end Commands

section Lines

variable {first : List Char} {later : List (List Char)}

theorem newline_notMem_firstLine (text : List Char) : '\n' ∉ firstLine text := by
  intro member
  have other := List.mem_takeWhile_imp member
  simp at other

/-- A text is its first line, and what is behind the end of it. -/
theorem lines_intercalate (single : '\n' ∉ first) :
    firstLine (['\n'].intercalate (first :: later)) = first ∧
      behindFirstLine (['\n'].intercalate (first :: later)) = ['\n'].intercalate later := by
  have other : ∀ char ∈ first, (char != '\n') = true := by
    rintro char member
    rw [bne_iff_ne]
    rintro rfl
    exact single member
  obtain ⟨behind, text, closes⟩ := closes_line first later
  rw [text, firstLine, behindFirstLine, List.takeWhile_append_of_pos other,
    List.dropWhile_append_of_pos other]
  generalize ['\n'].intercalate later = rest at closes ⊢
  cases closes with
  | newline => simp
  | text => simp

end Lines

section CloudInit

variable {setupScript : String} {env : Dict String} {exports persisted : List String}

theorem exportLine_ne_empty (key value : String) : exportLine key value ≠ "" := by
  intro empty
  simp [exportLine, String.ext_iff] at empty

theorem persistLine_ne_empty (key value : String) : persistLine key value ≠ "" := by
  intro empty
  simp [persistLine, String.ext_iff] at empty

/-- Every script has a shebang. -/
theorem shebang_ne_nil (setupScript : String) :
    firstLine (withShebang setupScript).toList ≠ [] := by
  have starts : "#!".toList <+: (withShebang setupScript).toList := by
    rw [withShebang]
    split
    · next own => exact List.isPrefixOf_iff_prefix.mp own
    · simp [String.toList_append]
  obtain ⟨rest, text⟩ := starts
  rw [← text]
  simp [firstLine]

/-- No line of an environment is left out. -/
theorem filter_lines {line : String → String → String} (solid : ∀ key value, line key value ≠ "")
    (env : Dict String) :
    (env.map fun item => line item.1 item.2).filter (· ≠ "") =
      env.map fun item => line item.1 item.2 := by
  rw [List.filter_eq_self]
  intro text member
  obtain ⟨item, -, rfl⟩ := List.mem_map.mp member
  exact decide_eq_true (solid item.1 item.2)

theorem toList_cloudInit (setupScript : String) (env : Dict String) :
    ("\n".intercalate
        (([String.ofList (firstLine (withShebang setupScript).toList)] ++
          env.map (fun item => exportLine item.1 item.2) ++
          env.map (fun item => persistLine item.1 item.2) ++
          bootLines (withShebang setupScript) env true).filter (· ≠ ""))).toList =
      ['\n'].intercalate
        (firstLine (withShebang setupScript).toList ::
          (env.map (fun item => (exportLine item.1 item.2).toList) ++
            (env.map (fun item => (persistLine item.1 item.2).toList) ++
              ((bootLines (withShebang setupScript) env true).filter (· ≠ "")).map
                String.toList))) := by
  have shebang : [String.ofList (firstLine (withShebang setupScript).toList)].filter (· ≠ "") =
      [String.ofList (firstLine (withShebang setupScript).toList)] := by
    rw [List.filter_eq_self]
    intro line member
    obtain rfl := List.mem_singleton.mp member
    refine decide_eq_true fun empty => shebang_ne_nil setupScript ?_
    simpa using congrArg String.toList empty
  rw [String.toList_intercalate, List.filter_append, List.filter_append, List.filter_append,
    filter_lines exportLine_ne_empty, filter_lines persistLine_ne_empty, shebang]
  simp [Function.comp_def]

/-- A script of `get_cloud_init` runs with its own first line.  Behind it, and before anything else,
its environment is exported and in `/etc/environment`: for the commands of the script, and for
each session that `pam_env` opens later. -/
theorem cloud_init_environment (setupScript : String) (env : Option (Dict String)) (text : String)
    (file : List UInt8) (accepted : getCloudInit setupScript env = .ok text)
    (distinct : ((env.getD []).map Prod.fst).Nodup) (ends : PamEnv.EndsLine file)
    (passed : PamEnv.holds [] (PamEnv.lines file) = some []) :
    firstLine text.toList = firstLine (withShebang setupScript).toList ∧
      ∃ session : Session,
        Session.run (2 * (env.getD []).length)
            (behindFirstLine text.toList, { environment := file }) =
          some (['\n'].intercalate
            (((bootLines (withShebang setupScript) (env.getD []) true).filter (· ≠ "")).map
              String.toList),
              session) ∧
        (∀ key, session.exported.lookup key = (env.getD []).lookup key) ∧
        PamEnv.read session.environment = PamEnv.read file ++ encoded (env.getD []) := by
  rw [getCloudInit] at accepted
  generalize env.getD [] = env at *
  cases exported : getExport env with
  | error failure =>
      rw [exported] at accepted
      cases accepted
  | ok exports =>
      cases kept : getPersist env with
      | error failure =>
          rw [exported, kept] at accepted
          cases accepted
      | ok persisted =>
          rw [exported, kept] at accepted
          obtain rfl := Except.ok.inj accepted
          obtain ⟨named, rfl⟩ := getExport_ok exported
          have entries := read_entries kept ends passed
          obtain rfl := getPersist_ok kept
          have text := toList_cloudInit setupScript env
          rw [text, (lines_intercalate (newline_notMem_firstLine _)).1,
            (lines_intercalate (newline_notMem_firstLine _)).2]
          refine ⟨rfl, { exported := Dict.update [] env, environment := _ }, ?_, ?_, entries⟩
          · rw [Nat.two_mul, Session.run_add, run_exports named, Option.bind_some, run_entries]
          · exact Dict.lookup_update_nil distinct

theorem cloud_init_environment_quote :
    ∃ session : Session,
      Session.run 2
          ("export SPACES='a b'\nprintf '%s\\n' 'SPACES=a b' >> /etc/environment\necho hi".toList,
            {}) =
        some ("echo hi".toList, session) ∧
      session.exported.lookup "SPACES" = some "a b" ∧
      PamEnv.read session.environment = encoded [("SPACES", "a b")] := by
  have written : getCloudInit "echo hi" (some [("SPACES", "a b")]) =
      .ok ("#!/bin/sh\n" ++ "export SPACES='a b'\n" ++
        "printf '%s\\n' 'SPACES=a b' >> /etc/environment\n" ++ "echo hi") := by
    rfl
  obtain ⟨-, session, ran, exported, kept⟩ := cloud_init_environment "echo hi"
    (some [("SPACES", "a b")]) _ [] written (by decide) (.inl rfl) rfl
  exact ⟨session, ran, exported "SPACES", kept⟩

end CloudInit

/-- The setup script of a VM before the environment is written into it. -/
def exeScript (setupScript : Option String) : String :=
  (setupScript.filter (· ≠ "")).getD "#!/bin/bash"

/-- The setup script that `create_vm` of exe sends, if it sends one. -/
def getSetupScript (setupScript : Option String) (env : Dict String) :
    Except Failure (Option String) := do
  if env = [] then return given setupScript
  let script := exeScript setupScript
  let exports ← getExport env
  let bashrc ← getBashrc env
  let parts :=
    [String.ofList (firstLine script.toList)] ++ exports ++ [bashrc] ++ bootLines script env false
  return given (some ("\n".intercalate (parts.filter (· ≠ ""))))

/-- The text of a here-document, and what is behind the line that ends it. -/
def hereDocument (ending : List Char) : List Char → List Char → Option (List Char × List Char)
  | held, [] => if held = ending then some ([], []) else none
  | held, char :: rest =>
      if char = '\n' then
        if held = ending then some ([], rest)
        else (hereDocument ending [] rest).map fun found => (held ++ '\n' :: found.1, found.2)
      else hereDocument ending (held ++ [char]) rest

/-- What the commands of `get_bashrc` do to `~/.bashrc`, and the script behind them. -/
def installBashrc (script bashrc : List Char) : Option (List Char × List Char) := do
  let inside ← script.dropPrefix? ("cat > ~/.bashrc.new <<'" ++ bashrcEnd ++ "'\n").toList
  let (text, behind) ← hereDocument bashrcEnd.toList [] inside
  let behind ← behind.dropPrefix?
    "cat ~/.bashrc >> ~/.bashrc.new && mv ~/.bashrc.new ~/.bashrc".toList
  match behind with
  | [] => return ([], text ++ bashrc)
  | char :: rest => if char = '\n' then return (rest, text ++ bashrc) else none

section Bashrc

variable {env : Dict String} {exports : List String} {rest : List Char}

theorem hereDocument_line {line : List Char} (single : '\n' ∉ line) (ending held rest : List Char) :
    hereDocument ending held (line ++ '\n' :: rest) =
      if held ++ line = ending then some ([], rest)
      else (hereDocument ending [] rest).map fun found =>
        (held ++ line ++ '\n' :: found.1, found.2) := by
  induction line generalizing held with
  | nil => simp [hereDocument]
  | cons char line ih =>
      have inside : char ≠ '\n' := fun same => single (same ▸ List.mem_cons_self)
      have later : '\n' ∉ line := fun member => single (List.mem_cons_of_mem _ member)
      rw [List.cons_append, hereDocument, if_neg inside, ih later]
      simp

/-- Lines of which none ends a here-document are its text. -/
theorem hereDocument_lines {ending : List Char} {lines : List (List Char)}
    (single : '\n' ∉ ending) (each : ∀ line ∈ lines, '\n' ∉ line ∧ line ≠ ending)
    (rest : List Char) :
    hereDocument ending []
        (lines.flatMap (fun line => line ++ ['\n']) ++ (ending ++ '\n' :: rest)) =
      some (lines.flatMap (fun line => line ++ ['\n']), rest) := by
  induction lines with
  | nil => simp [hereDocument_line single]
  | cons line lines ih =>
      obtain ⟨inside, other⟩ := each line List.mem_cons_self
      have later := ih fun line member => each line (List.mem_cons_of_mem _ member)
      rw [List.flatMap_cons, List.append_assoc, List.append_assoc, List.singleton_append,
        hereDocument_line inside, List.nil_append, if_neg other, later]
      simp

theorem newline_notMem_quote {text : List Char} (single : '\n' ∉ text) : '\n' ∉ quote text := by
  unfold quote
  split
  · decide
  · split
    · exact single
    · intro member
      simp only [List.mem_append, List.mem_singleton, List.mem_flatMap, Char.reduceEq, or_false,
        false_or] at member
      obtain ⟨char, inside, written⟩ := member
      split at written
      · revert written
        decide
      · exact single (List.mem_singleton.mp written ▸ inside)

theorem newline_notMem_exportLine {key value : String} (named : isName key.toList = true)
    (single : '\n' ∉ value.toList) : '\n' ∉ (exportLine key value).toList := by
  have name : '\n' ∉ key.toList := by
    intro member
    have code := code_of_isName named member
    have newline : '\n'.toNat = 10 := rfl
    omega
  simp [exportLine, name, newline_notMem_quote single]

theorem intercalate_last (lines : List (List Char)) (last : List Char) :
    ['\n'].intercalate (lines ++ [last]) =
      lines.flatMap (fun line => line ++ ['\n']) ++ last := by
  induction lines with
  | nil => simp
  | cons line lines ih =>
      obtain ⟨next, others, split⟩ : ∃ next others, lines ++ [last] = next :: others :=
        List.exists_cons_of_ne_nil (List.append_ne_nil_of_right_ne_nil _ (List.cons_ne_nil _ _))
      rw [List.cons_append, split, List.intercalate_cons_cons, ← split, ih, List.flatMap_cons,
        List.append_assoc, List.append_assoc, List.append_assoc]

theorem getBashrc_ok {text : String} (accepted : getBashrc env = .ok text) :
    (∀ item ∈ env, isName item.1.toList = true) ∧
      text = "\n".intercalate (["cat > ~/.bashrc.new <<'" ++ bashrcEnd ++ "'"] ++
        env.map (fun item => exportLine item.1 item.2) ++
        [bashrcEnd, "cat ~/.bashrc >> ~/.bashrc.new && mv ~/.bashrc.new ~/.bashrc"]) := by
  rw [getBashrc] at accepted
  cases exported : getExport env with
  | error failure =>
      rw [exported] at accepted
      cases accepted
  | ok exports =>
      rw [exported] at accepted
      obtain ⟨named, rfl⟩ := getExport_ok exported
      exact ⟨named, (Except.ok.inj accepted).symm⟩

/-- A bash that reads the new `~/.bashrc` exports the environment before anything else. -/
theorem installBashrc_getBashrc {text : String} {behind : List Char}
    (accepted : getBashrc env = .ok text) (single : ∀ item ∈ env, '\n' ∉ item.2.toList)
    (closes : Closes behind rest) (bashrc : List Char) :
    installBashrc (text.toList ++ behind) bashrc =
      some (rest, ['\n'].intercalate
        (env.map (fun item => (exportLine item.1 item.2).toList) ++ [bashrc])) := by
  obtain ⟨named, rfl⟩ := getBashrc_ok accepted
  let lines := env.map fun item => (exportLine item.1 item.2).toList
  have each : ∀ line ∈ lines, '\n' ∉ line ∧ line ≠ bashrcEnd.toList := by
    intro line member
    obtain ⟨item, inside, rfl⟩ := List.mem_map.mp member
    refine ⟨newline_notMem_exportLine (named item inside) (single item inside), ?_⟩
    simp [exportLine, bashrcEnd]
  let last := "cat ~/.bashrc >> ~/.bashrc.new && mv ~/.bashrc.new ~/.bashrc".toList
  have text : ("\n".intercalate (["cat > ~/.bashrc.new <<'" ++ bashrcEnd ++ "'"] ++
        env.map (fun item => exportLine item.1 item.2) ++
        [bashrcEnd, "cat ~/.bashrc >> ~/.bashrc.new && mv ~/.bashrc.new ~/.bashrc"])).toList =
      ("cat > ~/.bashrc.new <<'" ++ bashrcEnd ++ "'\n").toList ++
        (lines.flatMap (fun line => line ++ ['\n']) ++ (bashrcEnd.toList ++ '\n' :: last)) := by
    have split := intercalate_last
      (("cat > ~/.bashrc.new <<'" ++ bashrcEnd ++ "'").toList :: (lines ++ [bashrcEnd.toList]))
      last
    rw [String.toList_intercalate]
    simpa [lines, last, Function.comp_def] using split
  rw [text, List.append_assoc, List.append_assoc, List.append_assoc, List.cons_append,
    installBashrc, List.dropPrefix?_append_of_beq _ (BEq.refl _)]
  simp only [Option.bind_eq_bind, Option.bind_some]
  rw [hereDocument_lines (by decide) each, Option.bind_some,
    List.dropPrefix?_append_of_beq _ (BEq.refl _), Option.bind_some, intercalate_last]
  cases closes with
  | newline => rfl
  | text => rfl

theorem getBashrc_ne_empty {text : String} (accepted : getBashrc env = .ok text) : text ≠ "" := by
  obtain ⟨-, rfl⟩ := getBashrc_ok accepted
  intro empty
  have characters := congrArg String.toList empty
  simp [String.toList_intercalate] at characters

theorem intercalate_lead (first : List Char) {later : List (List Char)} (nonempty : later ≠ []) :
    ['\n'].intercalate ((([String.ofList first].filter (· ≠ "")).map String.toList) ++ later) =
      (if first = [] then [] else first ++ ['\n']) ++ ['\n'].intercalate later := by
  obtain ⟨next, later, rfl⟩ := List.exists_cons_of_ne_nil nonempty
  by_cases empty : first = []
  · subst empty
    simp
  · have solid : String.ofList first ≠ "" := fun none => empty (by
      simpa using congrArg String.toList none)
    simp [empty, solid, List.intercalate_cons_cons]

/-- The setup script with an environment, in the lists of its lines. -/
theorem getSetupScript_ok {setupScript sent : Option String} (filled : env ≠ [])
    (accepted : getSetupScript setupScript env = .ok sent) :
    ∃ install text, sent = some text ∧ getBashrc env = .ok install ∧
      (∀ item ∈ env, isName item.1.toList = true) ∧
      text.toList =
        (if firstLine (exeScript setupScript).toList = [] then []
          else firstLine (exeScript setupScript).toList ++ ['\n']) ++
        ['\n'].intercalate (env.map (fun item => (exportLine item.1 item.2).toList) ++
          (install.toList ::
            ((bootLines (exeScript setupScript) env false).filter (· ≠ "")).map
              String.toList)) := by
  rw [getSetupScript, if_neg filled] at accepted
  cases exported : getExport env with
  | error failure =>
      rw [exported] at accepted
      cases accepted
  | ok exports =>
      cases installed : getBashrc env with
      | error failure =>
          rw [exported, installed] at accepted
          cases accepted
      | ok install =>
          obtain ⟨named, rfl⟩ := getExport_ok exported
          let later :=
            ((bootLines (exeScript setupScript) env false).filter (· ≠ "")).map String.toList
          have solid : [install].filter (· ≠ "") = [install] := by
            simp [getBashrc_ne_empty installed]
          generalize same : "\n".intercalate
              (([String.ofList (firstLine (exeScript setupScript).toList)] ++
                env.map (fun item => exportLine item.1 item.2) ++ [install] ++
                  bootLines (exeScript setupScript) env false).filter (· ≠ "")) = script
          have written : script.toList =
              (if firstLine (exeScript setupScript).toList = [] then []
                else firstLine (exeScript setupScript).toList ++ ['\n']) ++
              ['\n'].intercalate (env.map (fun item => (exportLine item.1 item.2).toList) ++
                (install.toList :: later)) := by
            rw [← same, String.toList_intercalate, List.filter_append, List.filter_append,
              List.filter_append, filter_lines exportLine_ne_empty, solid]
            simpa [Function.comp_def, later] using
              intercalate_lead (firstLine (exeScript setupScript).toList)
                (List.append_ne_nil_of_right_ne_nil
                  (env.map fun item => (exportLine item.1 item.2).toList)
                  (List.cons_ne_nil install.toList later))
          have full : script ≠ "" := by
            rintro rfl
            obtain ⟨first, rest, rfl⟩ := List.exists_cons_of_ne_nil filled
            have short := congrArg List.length written
            cases rest <;> simp [List.intercalate_cons_cons] at short
          refine ⟨install, script, ?_, rfl, named, written⟩
          rw [exported, installed] at accepted
          have sent_eq : given (some script) = sent := same ▸ Except.ok.inj accepted
          rw [← sent_eq, given, Option.filter_some, if_pos (bne_iff_ne.mpr full)]

/-- The setup script of an exe VM. Without an environment it is sent as it is.  Otherwise, behind
its own first line, it exports the environment, then puts the exports in front of what is in
`~/.bashrc`, and goes on as it was.  So its own commands have the environment, and so has every bash
session, before the rest of `~/.bashrc`. -/
theorem setup_script_environment (setupScript sent : Option String) (env : Dict String)
    (accepted : getSetupScript setupScript env = .ok sent)
    (distinct : (env.map Prod.fst).Nodup) (single : ∀ item ∈ env, '\n' ∉ item.2.toList)
    (bashrc : List Char) :
    (env = [] → sent = given setupScript) ∧
    (env ≠ [] → ∃ text body behind replaced exported, sent = some text ∧
      text.toList =
        (if firstLine (exeScript setupScript).toList = [] then []
          else firstLine (exeScript setupScript).toList ++ ['\n']) ++ body ∧
      Session.run env.length (body, {}) = some (behind, { exported }) ∧
      installBashrc behind bashrc =
        some (['\n'].intercalate (((bootLines (exeScript setupScript) env false).filter
          (· ≠ "")).map String.toList), replaced) ∧
      Session.run env.length (replaced, {}) = some (bashrc, { exported }) ∧
      ∀ key, exported.lookup key = env.lookup key) := by
  refine ⟨fun empty => ?_, fun filled => ?_⟩
  · rw [getSetupScript, if_pos empty] at accepted
    exact (Except.ok.inj accepted).symm
  · obtain ⟨install, text, rfl, installed, named, written⟩ := getSetupScript_ok filled accepted
    let later :=
      ((bootLines (exeScript setupScript) env false).filter (· ≠ "")).map String.toList
    obtain ⟨behind, split, closes⟩ := closes_line install.toList later
    have ran := run_exports named (install.toList :: later) {}
    have replaced := installBashrc_getBashrc installed single closes bashrc
    rw [← split] at replaced
    have again := run_exports named [bashrc] {}
    rw [List.intercalate_singleton] at again
    exact ⟨text, _, _, _, _, rfl, written, ran, replaced, again, Dict.lookup_update_nil distinct⟩

theorem setup_script_environment_quote :
    ∃ body behind replaced exported,
      ("#!/bin/bash\nexport SPACES='a b'\ncat > ~/.bashrc.new <<'DRUKBOX_ENV'\n" ++
          "export SPACES='a b'\nDRUKBOX_ENV\n" ++
          "cat ~/.bashrc >> ~/.bashrc.new && mv ~/.bashrc.new ~/.bashrc\necho hi").toList =
        "#!/bin/bash\n".toList ++ body ∧
      Session.run 1 (body, {}) = some (behind, { exported }) ∧
      installBashrc behind "alias ll=ls\n".toList = some ("echo hi".toList, replaced) ∧
      Session.run 1 (replaced, {}) = some ("alias ll=ls\n".toList, { exported }) ∧
      exported.lookup "SPACES" = some "a b" := by
  have single : ∀ item ∈ [("SPACES", "a b")], '\n' ∉ item.2.toList := by decide
  obtain ⟨text, body, behind, replaced, exported, sent, written, ran, installed, again, found⟩ :=
    (setup_script_environment (some "#!/bin/bash\necho hi") _ [("SPACES", "a b")] rfl (by decide)
      single "alias ll=ls\n".toList).2 (by decide)
  obtain rfl := Option.some.inj sent
  exact ⟨body, behind, replaced, exported, written, ran, installed, again, found "SPACES"⟩

end Bashrc

end Drukbox.Environment
