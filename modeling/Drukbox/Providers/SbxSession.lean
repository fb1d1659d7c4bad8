import Drukbox.HostSecrets.RoundTrip
import Drukbox.Hosts.Models
import Drukbox.Providers.Scripts

/-!
# The session of a sandbox

`_session_script` enters as root, prepares the home of its host, and opens the session with `su`.
What the caller asked for reaches `su` as one argument, and root runs nothing of it.
-/

namespace Drukbox.SbxExecProcess

open Environment Shell

def sessionScript (name : String) (command : Option String) (user : String) : String :=
  let home := "/home/" ++ name
  let payload := command.getD "exec bash -l"
  let owner := String.ofList (quote user.toList)
  let prepare := "mkdir -p " ++ home ++ " && cd " ++ home ++ " && export HOME=" ++ home
  let prepare :=
    if user ≠ "root" then prepare ++ " && chown " ++ owner ++ " " ++ home else prepare
  prepare ++ "\nexec su -m " ++ owner ++ " -s /bin/bash -c " ++
    String.ofList (quote payload.toList)

/-- A word that is written as it is. -/
def bare (text : String) : List Char × Token :=
  (text.toList, .word text.toList)

/-- A word that `shlex.quote` writes. -/
def given (text : String) : List Char × Token :=
  (quote text.toList, .word text.toList)

/-- The `&&` of two commands. -/
def both : List Char × Token :=
  ("&&".toList, .operator "&&".toList)

/-- The commands that prepare a home, for a session of this user. -/
def prepares (home user : String) : List (List Char × Token) :=
  [bare "mkdir", bare "-p", bare home, both, bare "cd", bare home, both, bare "export",
      bare ("HOME=" ++ home)] ++
    if user ≠ "root" then [both, bare "chown", given user, bare home] else []

/-- The command that opens the session. -/
def opens (user payload : String) : List (List Char × Token) :=
  [bare "exec", bare "su", bare "-m", given user, bare "-s", bare "/bin/bash", bare "-c",
    given payload]

theorem spells_bare {text : String} (nonempty : text.toList ≠ [])
    (plain : text.toList.all isPlain = true) : Spells (bare text).1 (bare text).2 :=
  spells_plain nonempty plain

theorem spells_given (text : String) : Spells (given text).1 (given text).2 :=
  spells_quote text.toList

theorem spells_both : Spells both.1 both.2 :=
  spells_operator (by decide) (by decide)

theorem plain_home (id : HostId) : ("/home/" ++ Host.buildName id).toList.all isPlain = true := by
  have digits : (Uuid.hexDigits 12 id).all isPlain = true := by
    refine List.all_eq_true.mpr fun char member => ?_
    obtain ⟨digit, small, rfl⟩ := Uuid.hexDigits_eq 12 id char member
    clear member
    decide +revert
  have front : "/home/sb-".toList.all isPlain = true := by decide
  have text : ("/home/" ++ Host.buildName id).toList =
      "/home/sb-".toList ++ Uuid.hexDigits 12 id := by
    simp [Host.buildName]
  rw [text, List.all_append, front, digits]
  rfl

section Lines

variable {home : String}

theorem spells_prepares (plain : home.toList.all isPlain = true) (nonempty : home.toList ≠ [])
    (user : String) : ∀ item ∈ prepares home user, Spells item.1 item.2 := by
  have name : ("HOME=" ++ home).toList.all isPlain = true := by
    have front : "HOME=".toList.all isPlain = true := by decide
    rw [String.toList_append, List.all_append, front, plain]
    rfl
  have path := spells_bare nonempty plain
  have owner := spells_given user
  have exported : Spells (bare ("HOME=" ++ home)).1 (bare ("HOME=" ++ home)).2 :=
    spells_bare (by simp) name
  refine List.forall_mem_append.mpr ⟨?_, ?_⟩
  · simp only [List.forall_mem_cons, List.not_mem_nil, false_implies, implies_true, and_true]
    exact ⟨spells_bare (by decide) (by decide), spells_bare (by decide) (by decide), path,
      spells_both, spells_bare (by decide) (by decide), path, spells_both,
      spells_bare (by decide) (by decide), exported⟩
  · split
    · simp only [List.forall_mem_cons, List.not_mem_nil, false_implies, implies_true, and_true]
      exact ⟨spells_both, spells_bare (by decide) (by decide), owner, path⟩
    · simp

theorem spells_opens (user payload : String) :
    ∀ item ∈ opens user payload, Spells item.1 item.2 := by
  have owner := spells_given user
  have command := spells_given payload
  simp only [opens, List.forall_mem_cons, List.not_mem_nil, false_implies, implies_true, and_true]
  exact ⟨spells_bare (by decide) (by decide), spells_bare (by decide) (by decide),
    spells_bare (by decide) (by decide), owner, spells_bare (by decide) (by decide),
    spells_bare (by decide) (by decide), spells_bare (by decide) (by decide), command⟩

theorem toList_sessionScript (name : String) (command : Option String) (user : String) :
    (sessionScript name command user).toList =
      [' '].intercalate ((prepares ("/home/" ++ name) user).map Prod.fst) ++
        '\n' :: [' '].intercalate
          ((opens user (command.getD "exec bash -l")).map Prod.fst) := by
  by_cases root : user = "root"
  · simp [sessionScript, prepares, opens, bare, given, both, root]
  · simp [sessionScript, prepares, opens, bare, given, both, root]

end Lines

/-- A shell reads the script as two lines: the commands that prepare the home, and the one that
opens the session.  The user and the whole command of the caller are one word each, whatever is in
them. -/
theorem session_script_words (id : HostId) (command : Option String) (user : String) :
    ∃ behind,
      line .bare none (sessionScript (Host.buildName id) command user).toList =
        some ((prepares ("/home/" ++ Host.buildName id) user).map Prod.snd, behind) ∧
      line .bare none behind =
        some ((opens user (command.getD "exec bash -l")).map Prod.snd, []) := by
  have prepared := spells_prepares (plain_home id) (by simp) user
  have opened := spells_opens user (command.getD "exec bash -l")
  have second := line_tokens (List.cons_ne_nil _ _) opened .text
  rw [List.append_nil] at second
  refine ⟨_, ?_, second⟩
  rw [toList_sessionScript]
  exact line_tokens (List.append_ne_nil_of_left_ne_nil (List.cons_ne_nil _ _) _) prepared
    (.newline _)

example :
    (prepares "/home/sb-0" "root").map Prod.snd =
      [.word "mkdir".toList, .word "-p".toList, .word "/home/sb-0".toList, .operator "&&".toList,
        .word "cd".toList, .word "/home/sb-0".toList, .operator "&&".toList,
        .word "export".toList, .word "HOME=/home/sb-0".toList] :=
  rfl

end Drukbox.SbxExecProcess
