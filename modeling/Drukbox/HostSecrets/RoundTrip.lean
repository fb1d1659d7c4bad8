import Drukbox.HostSecrets.Placeholder
import Mathlib.Data.Bool.AllAny
import Mathlib.Tactic.Ring

/-!
# Reading a placeholder back

The text of a minted placeholder has four parts without dots, and its UUID reads back from its
thirty-two digits.
-/

namespace Drukbox

namespace Uuid

theorem digitValue_hexDigit {digit : ℕ} (small : digit < 16) :
    digitValue (hexDigit digit) = some digit := by
  decide +revert

theorem hexDigits_eq (width number : ℕ) :
    ∀ char ∈ hexDigits width number, ∃ digit < 16, char = hexDigit digit := by
  induction width generalizing number with
  | zero => simp [hexDigits]
  | succ width ih =>
      intro char member
      rcases List.mem_append.mp member with earlier | last
      · exact ih (number / 16) char earlier
      · exact ⟨number % 16, by omega, by simpa using last⟩

theorem length_hexDigits (width number : ℕ) : (hexDigits width number).length = width := by
  induction width generalizing number with
  | zero => rfl
  | succ width ih => simp [hexDigits, ih]

theorem parseDigits_hexDigit {digit : ℕ} (small : digit < 16) (value : ℕ) (rest : List Char) :
    parseDigits value (hexDigit digit :: rest) = parseDigits (value * 16 + digit) rest := by
  have ordinary : hexDigit digit ≠ '_' := by decide +revert
  rw [parseDigits, digitValue_hexDigit small]
  · rfl
  · rintro char rest equal
    exact absurd equal ordinary

theorem parseDigits_hexDigits (width number value : ℕ) (rest : List Char) :
    parseDigits value (hexDigits width number ++ rest) =
      parseDigits (value * 16 ^ width + number % 16 ^ width) rest := by
  induction width generalizing number rest with
  | zero => simp [hexDigits, Nat.mod_one]
  | succ width ih =>
      rw [hexDigits, List.append_assoc, ih, List.singleton_append,
        parseDigits_hexDigit (by omega)]
      congr 1
      have split := Nat.mod_mul (a := 16) (b := 16 ^ width) (x := number)
      rw [Nat.pow_succ, Nat.mul_comm (16 ^ width) 16, split]
      ring

theorem erase_of_notMem {head : Char} {tail text : List Char} (absent : head ∉ text) (fuel : ℕ) :
    erase head tail fuel text = text := by
  induction fuel generalizing text with
  | zero => rfl
  | succ fuel ih =>
      cases text with
      | nil => rfl
      | cons char rest =>
          simp only [List.mem_cons, not_or] at absent
          rw [erase, if_neg (by simp [absent.1]), ih absent.2]

theorem strip_of_ends {drop : Char → Bool} {text : List Char}
    (first : ∀ char, text.head? = some char → drop char = false)
    (last : ∀ char, text.getLast? = some char → drop char = false) : strip drop text = text := by
  have stays {text : List Char} (kept : ∀ char, text.head? = some char → drop char = false) :
      text.dropWhile drop = text := by
    cases text with
    | nil => rfl
    | cons char rest => simp [kept char rfl]
  rw [strip, stays first, stays fun char ends => last char (by simpa using ends),
    List.reverse_reverse]

theorem strip_of_forall {drop : Char → Bool} {text : List Char}
    (kept : ∀ char ∈ text, drop char = false) : strip drop text = text :=
  strip_of_ends (fun char first => kept char (List.mem_of_head? first))
    fun char last => kept char (List.mem_of_getLast? last)

theorem parseUnsigned_hexDigit {first second : ℕ} (small : first < 16) (next_small : second < 16)
    (rest : List Char) :
    parseUnsigned (hexDigit first :: hexDigit second :: rest) =
      parseDigits first (hexDigit second :: rest) := by
  have lower : hexDigit second ≠ 'x' := by decide +revert
  have upper : hexDigit second ≠ 'X' := by decide +revert
  unfold parseUnsigned
  split <;> simp_all [digitValue_hexDigit small]

theorem parseInt16_hexDigits (width number : ℕ) :
    parseInt16 (hexDigits (width + 2) number) = some (number % 16 ^ (width + 2)) := by
  have value := parseDigits_hexDigits (width + 2) number 0 []
  have digits := hexDigits_eq (width + 2) number
  have count := length_hexDigits (width + 2) number
  rw [List.append_nil, Nat.zero_mul, Nat.zero_add, show ∀ value, parseDigits value [] = some value
    from fun _ => rfl] at value
  have kept : strip isSpace (hexDigits (width + 2) number) = hexDigits (width + 2) number := by
    refine strip_of_forall fun char member => ?_
    obtain ⟨digit, small, rfl⟩ := digits char member
    have ordinary : ∀ digit < 16, isSpace (hexDigit digit) = false := by decide
    exact ordinary digit small
  rw [parseInt16, kept]
  match text : hexDigits (width + 2) number with
  | [] => simp [text] at count
  | [_] => simp [text] at count
  | head :: next :: rest =>
      rw [text] at value digits
      obtain ⟨first, small, rfl⟩ := digits head (by simp)
      obtain ⟨second, next_small, rfl⟩ := digits next (by simp)
      have unsigned : ∀ digit < 16, hexDigit digit ≠ '+' := by decide
      rw [parseDigits_hexDigit small, Nat.zero_mul, Nat.zero_add] at value
      rw [← value, ← parseUnsigned_hexDigit small next_small]
      split
      · next equal => exact absurd (List.cons.inj equal).1 (unsigned first small)
      · rfl

/-- A text of thirty-two hexadecimal digits is a UUID. -/
theorem parse_of_digits {text : List Char} {id : HostId}
    (digits : ∀ char ∈ text, ∃ digit < 16, char = hexDigit digit) (count : text.length = 32)
    (value : parseInt16 text = some id) : parse text = some id := by
  have free {bad : Char} (other : ∀ digit < 16, hexDigit digit ≠ bad) : bad ∉ text := by
    intro member
    obtain ⟨digit, small, same⟩ := digits bad member
    exact other digit small same.symm
  have braces : ∀ char ∈ text, (char == '{' || char == '}') = false := by
    intro char member
    obtain ⟨digit, small, rfl⟩ := digits char member
    have ordinary : ∀ digit < 16, (hexDigit digit == '{' || hexDigit digit == '}') = false := by
      decide
    exact ordinary digit small
  have plain : text.filter (· != '-') = text := by
    have dash : '-' ∉ text := free (by decide)
    refine List.filter_eq_self.mpr fun char member => ?_
    have dashed : char ≠ '-' := fun same => dash (same ▸ member)
    simpa using dashed
  have urn : 'u' ∉ text := free (by decide)
  unfold parse
  dsimp only
  rw [erase_of_notMem urn, erase_of_notMem urn, strip_of_forall braces, plain, if_pos count, value]

theorem parse_hex {id : HostId} (bounded : id < 2 ^ 128) : parse (hex id) = some id := by
  refine parse_of_digits (hexDigits_eq 32 id) (length_hexDigits 32 id) ?_
  have value := parseInt16_hexDigits 30 id
  rwa [Nat.mod_eq_of_lt (by omega)] at value

end Uuid

/-- A character of URL-safe base64. -/
def isUrlSafe (char : Char) : Bool :=
  char.isAlphanum || char == '-' || char == '_'

/-- `SECRET_NAME_PATTERN`. -/
def isSecretName (name : List Char) : Bool :=
  match name with
  | [] => false
  | head :: rest =>
      head.isLower && rest.length ≤ 63 &&
        rest.all fun char => char.isLower || char.isDigit || char == '_' || char == '-'

namespace Placeholder

/-- A placeholder as `mint` makes it for a service of `HostCreate`. -/
structure Minted (placeholder : Placeholder) : Prop where
  hostId : placeholder.hostId < 2 ^ 128
  service : isSecretName placeholder.service.toList
  secret : ∀ char ∈ placeholder.secret.toList, isUrlSafe char

/-- The four parts of the text. -/
def parts (placeholder : Placeholder) : List (List Char) :=
  [marker.toList, Uuid.hex placeholder.hostId, placeholder.service.toList,
    placeholder.secret.toList]

theorem toList_toText (placeholder : Placeholder) :
    placeholder.toText.toList = ['.'].intercalate placeholder.parts := by
  simp [toText, parts, List.intercalate]

theorem toList_eq_cons (placeholder : Placeholder) :
    ∃ rest, placeholder.toText.toList = 'd' :: rest := by
  rw [toList_toText, parts, List.intercalate_cons_cons]
  exact ⟨_, rfl⟩

theorem isUrlSafe_eq (char : Char) : isUrlSafe char =
    (((char.isUpper || char.isLower) || char.isDigit) || char == '-' || char == '_') :=
  rfl

theorem isUrlSafe_of_isSecretName {name : List Char} (valid : isSecretName name) :
    ∀ char ∈ name, isUrlSafe char := by
  cases name with
  | nil => simp
  | cons head rest =>
      simp only [isSecretName, Bool.and_eq_true, List.all_eq_true] at valid
      obtain ⟨⟨lower, -⟩, others⟩ := valid
      intro char member
      rcases List.mem_cons.mp member with rfl | later
      · simp [isUrlSafe_eq, lower]
      · have kind := others char later
        simp only [Bool.or_eq_true] at kind
        rcases kind with ((lower | digit) | score) | dash
        · simp [isUrlSafe_eq, lower]
        · simp [isUrlSafe_eq, digit]
        · simp [isUrlSafe, score]
        · simp [isUrlSafe, dash]

namespace Minted

variable {placeholder : Placeholder} (minted : placeholder.Minted)
include minted

theorem parts_safe : ∀ part ∈ placeholder.parts, ∀ char ∈ part, isUrlSafe char := by
  have front : ∀ char ∈ marker.toList, isUrlSafe char :=
    List.all_iff_forall_prop.mp (by decide)
  have digits : ∀ char ∈ Uuid.hexDigits 32 placeholder.hostId, isUrlSafe char := by
    intro char member
    obtain ⟨digit, small, rfl⟩ := Uuid.hexDigits_eq 32 placeholder.hostId char member
    have safe : ∀ digit < 16, isUrlSafe (Uuid.hexDigit digit) := by decide
    exact safe digit small
  simp only [parts, List.forall_mem_cons]
  exact ⟨front, digits, isUrlSafe_of_isSecretName minted.service, minted.secret, by simp⟩

theorem splitOn : placeholder.toText.toList.splitOn '.' = placeholder.parts := by
  rw [toList_toText]
  refine List.splitOn_intercalate _ (fun part member dot => ?_) (by simp [parts])
  exact absurd (minted.parts_safe part member '.' dot) (by decide)

/-- What `read` finds behind the scheme is the placeholder. -/
theorem read_of_removePrefix {authorization : String}
    (behind : removePrefix "Bearer ".toList authorization.toList = placeholder.toText.toList) :
    read authorization = some placeholder := by
  rw [read, behind, minted.splitOn]
  simp only [parts, if_true, Uuid.parse_hex minted.hostId, Option.map_some, String.ofList_toList]

/-- `read` takes back `str`. -/
theorem read_toText : read placeholder.toText = some placeholder := by
  obtain ⟨rest, starts⟩ := placeholder.toList_eq_cons
  refine minted.read_of_removePrefix ?_
  rw [removePrefix, starts, if_neg]
  exact Bool.false_ne_true

/-- `read` skips the scheme of a bearer token. -/
theorem read_bearer : read ("Bearer " ++ placeholder.toText) = some placeholder := by
  refine minted.read_of_removePrefix ?_
  rw [removePrefix, String.toList_append, if_pos (by simp), List.drop_left]

end Minted

end Placeholder

end Drukbox
