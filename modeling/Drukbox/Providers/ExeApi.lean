import Drukbox.Codec.Escape

/-!
# The setup script of an exe.dev VM

`create_vm` sends the setup script as one double-quoted argument of the `new` command, and the
command parser of exe.dev reads it back.
-/

namespace Drukbox.Exe

def setupScriptLimit : ℕ := 10 * 1024

/-- `str.replace` for one character. -/
def replace (old : Char) (new text : List Char) : List Char :=
  text.flatMap fun char => if char = old then new else [char]

def encodeSetupScript (script : String) : String :=
  let escaped :=
    replace '\n' "\\n".toList (replace '"' "\\\"".toList (replace '\\' "\\\\".toList script.toList))
  "\"" ++ String.ofList escaped ++ "\""

/-- The part of the command that carries the setup script, or the message of an `ExeCommandError`.
-/
def setupScriptPart (script : String) : Except String String :=
  let encoded := encodeSetupScript script
  if setupScriptLimit < encoded.length then
    .error
      ("the setup script is " ++ toString encoded.length ++ " bytes, over the exe.dev limit of " ++
        toString setupScriptLimit)
  else
    .ok ("--setup-script=" ++ encoded)

/-- The letter behind a backslash that exe.dev reads as the character. -/
def letter (char : Char) : Option Char :=
  if char = '\\' then some '\\'
  else if char = '"' then some '"'
  else if char = '\n' then some 'n'
  else none

/-- The character of a letter behind a backslash. -/
def meaning (code : Char) : Option Char :=
  if code = '\\' then some '\\'
  else if code = '"' then some '"'
  else if code = 'n' then some '\n'
  else none

theorem letter_eq_some {char code : Char} (escaped : letter char = some code) :
    (char = '\\' ∧ code = '\\') ∨ (char = '"' ∧ code = '"') ∨ (char = '\n' ∧ code = 'n') := by
  unfold letter at escaped
  split at escaped
  · next same => exact .inl ⟨same, (Option.some.inj escaped).symm⟩
  · split at escaped
    · next same => exact .inr (.inl ⟨same, (Option.some.inj escaped).symm⟩)
    · split at escaped
      · next same => exact .inr (.inr ⟨same, (Option.some.inj escaped).symm⟩)
      · cases escaped

/-- The rule of exe.dev for a double-quoted argument. -/
def rule : Escaping Char where
  mark := '\\'
  quote := '"'
  letter
  meaning
  meaning_letter escaped := by
    rcases letter_eq_some escaped with ⟨rfl, rfl⟩ | ⟨rfl, rfl⟩ | ⟨rfl, rfl⟩ <;> rfl
  letter_mark := rfl
  letter_quote := rfl
  mark_ne_quote := by decide

section Rounds

variable (old : Char) (new : List Char)

theorem replace_cons (char : Char) (rest : List Char) :
    replace old new (char :: rest) = (if char = old then new else [char]) ++ replace old new rest :=
  rfl

theorem replace_append (front back : List Char) :
    replace old new (front ++ back) = replace old new front ++ replace old new back :=
  List.flatMap_append

end Rounds

/-- The backslashes go first, so the later rounds leave those that they write alone. -/
theorem replace_eq_encode (text : List Char) :
    replace '\n' "\\n".toList (replace '"' "\\\"".toList (replace '\\' "\\\\".toList text)) =
      rule.encode text := by
  induction text with
  | nil => rfl
  | cons char rest ih =>
      rw [Escaping.encode_cons, ← ih, replace_cons, replace_append, replace_append]
      congr 1
      by_cases backslash : char = '\\'
      · subst backslash
        rfl
      · by_cases quote : char = '"'
        · subst quote
          rfl
        · by_cases newline : char = '\n'
          · subst newline
            rfl
          · have bare : rule.letter char = none := by simp [rule, letter, backslash, quote, newline]
            simp [Escaping.encodeOne, bare, replace, backslash, quote, newline]

theorem toList_encodeSetupScript (script : String) :
    (encodeSetupScript script).toList = '"' :: (rule.encode script.toList ++ ['"']) := by
  simp only [encodeSetupScript, replace_eq_encode, String.toList_append, String.toList_ofList]
  rfl

theorem encodeSetupScript_injective : Function.Injective encodeSetupScript := by
  intro first second same
  have quoted := congrArg String.toList same
  rw [toList_encodeSetupScript, toList_encodeSetupScript] at quoted
  have bodies := List.append_cancel_right (List.cons.inj quoted).2
  exact String.toList_inj.mp (Escaping.encode_injective bodies)

/-- The encoded script is one double-quoted token, and exe.dev reads the script from it. -/
theorem encodeSetupScript_token :
    (∀ script : String, ∃ body,
      (encodeSetupScript script).toList = '"' :: (body ++ ['"']) ∧
        '\n' ∉ body ∧
        (∀ front back, body = front ++ '"' :: back → Odd (rule.marks front)) ∧
        (∀ rest, rule.readQuoted (body ++ '"' :: rest) = some (script.toList, rest)) ∧
        rule.decode body = script.toList) ∧
      Function.Injective encodeSetupScript := by
  refine ⟨fun script => ⟨rule.encode script.toList, toList_encodeSetupScript script,
    ?_, ?_, ?_, ?_⟩,
    encodeSetupScript_injective⟩
  · apply Escaping.notMem_encode rfl (by decide)
    intro other escaped
    rcases letter_eq_some escaped with ⟨-, same⟩ | ⟨-, same⟩ | ⟨-, same⟩
    · exact absurd same (by decide)
    · exact absurd same (by decide)
    · exact absurd same (by decide)
  · intro front back found
    exact Escaping.odd_marks script.toList found
  · intro rest
    exact Escaping.readQuoted_encode script.toList rest
  · exact Escaping.decode_encode script.toList

/-- The part of an accepted script, whatever the command has behind it. -/
theorem read_setupScriptPart {script part : String} (accepted : setupScriptPart script = .ok part)
    (rest : List Char) :
    ∃ quoted, part.toList ++ rest = "--setup-script=\"".toList ++ quoted ∧
      rule.readQuoted quoted = some (script.toList, rest) := by
  simp only [setupScriptPart] at accepted
  split at accepted
  · cases accepted
  · obtain rfl := Except.ok.inj accepted
    refine ⟨rule.encode script.toList ++ '"' :: rest, ?_, Escaping.readQuoted_encode _ rest⟩
    rw [String.toList_append, toList_encodeSetupScript]
    simp

end Drukbox.Exe
