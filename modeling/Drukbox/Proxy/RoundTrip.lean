import Drukbox.HostSecrets.RoundTrip
import Drukbox.Proxy.Placeholders
import Mathlib.Data.List.TakeWhile

/-!
# One format in three places

What the service mints, the proxy finds in each header shape, and the exchange reads.  The proxy
finds nothing inside a longer value.
-/

namespace Drukbox

namespace Placeholder

variable {placeholder : Placeholder}

theorem Minted.mem_toText (minted : placeholder.Minted) {char : Char}
    (member : char ∈ placeholder.toText.toList) : isUrlSafe char ∨ char = '.' := by
  have safe := minted.parts_safe
  rw [toList_toText] at member
  simp only [parts, List.intercalate_cons_cons, List.intercalate_singleton, List.mem_append,
    List.mem_singleton] at member
  simp only [parts, List.forall_mem_cons] at safe
  obtain ⟨front, digits, service, secret, -⟩ := safe
  rcases member with (member | rfl) | (member | rfl) | (member | rfl) | member
  · exact .inl (front char member)
  · exact .inr rfl
  · exact .inl (digits char member)
  · exact .inr rfl
  · exact .inl (service char member)
  · exact .inr rfl
  · exact .inl (secret char member)

end Placeholder

namespace Proxy

variable {placeholder : Placeholder} {text : List Char}

/-- A list has one part more than separators. -/
theorem length_splitOn (separator : Char) (text : List Char) :
    (text.splitOn separator).length = text.count separator + 1 := by
  induction text with
  | nil => simp
  | cons char rest ih =>
      rw [List.splitOn_cons_eq_if_modifyHead]
      by_cases same : char = separator
      · simp [same, ih]
      · simp [same, ih]

theorem partition_append {separator : Char} {front : List Char} (absent : separator ∉ front)
    (rest : List Char) : partition separator (front ++ separator :: rest) = (front, rest) := by
  have kept : ∀ char ∈ front, (char != separator) = true := by
    intro char member
    have different : char ≠ separator := fun same => absent (same ▸ member)
    simpa using different
  simp [partition, List.takeWhile_append_of_pos kept, List.dropWhile_append_of_pos kept]

theorem partition_of_notMem {separator : Char} (absent : separator ∉ text) :
    partition separator text = (text, []) := by
  have kept : ∀ char ∈ text, (char != separator) = true := by
    intro char member
    have different : char ≠ separator := fun same => absent (same ▸ member)
    simpa using different
  simp [partition, List.takeWhile_eq_self_iff.mpr kept, List.dropWhile_eq_nil_iff.mpr kept]

theorem strip_spaces (spaces : ℕ) (solid : ∀ char ∈ text, isSpace char = false) :
    strip (List.replicate spaces ' ' ++ text) = text := by
  have blank : ∀ char ∈ List.replicate spaces ' ', isSpace char = true := by
    intro char member
    rw [List.eq_of_mem_replicate member]
    decide
  have rest := Uuid.strip_of_forall solid
  rw [Uuid.strip] at rest
  rw [strip, Uuid.strip, List.dropWhile_append_of_pos blank, rest]

/-- Only ASCII letters are letters of an ASCII scheme in another case. -/
theorem lowerScheme_eq {scheme : List Char} {lower : String}
    (letters : scheme.map Char.toLower = lower.toList) (ascii : isAscii lower.toList) :
    lowerScheme scheme = lower := by
  have plain : scheme.map lowerChar = scheme.map Char.toLower := by
    refine List.map_congr_left fun char member => if_neg ?_
    rintro rfl
    have listed : '\u212a' ∈ lower.toList := letters ▸ List.mem_map.mpr ⟨_, member, by decide⟩
    have small := List.all_eq_true.mp ascii _ listed
    exact absurd small (by decide)
  rw [lowerScheme, plain, letters, String.ofList_toList]

/-- The characters of a placeholder are visible ASCII. -/
theorem toNat_of_safe {char : Char} (safe : isUrlSafe char ∨ char = '.') :
    45 ≤ char.toNat ∧ char.toNat ≤ 122 := by
  rcases safe with safe | rfl
  · simp only [Placeholder.isUrlSafe_eq, Bool.or_eq_true, beq_iff_eq] at safe
    rcases safe with (((upper | lower) | digit) | rfl) | rfl
    · have bounds : 65 ≤ char.toNat ∧ char.toNat ≤ 90 := of_decide_eq_true upper
      omega
    · obtain ⟨low, high⟩ := (Bool.and_eq_true _ _).mp lower
      have bounds : 97 ≤ char.toNat ∧ char.toNat ≤ 122 :=
        ⟨of_decide_eq_true low, of_decide_eq_true high⟩
      omega
    · obtain ⟨low, high⟩ := (Bool.and_eq_true _ _).mp digit
      have bounds : 48 ≤ char.toNat ∧ char.toNat ≤ 57 :=
        ⟨of_decide_eq_true low, of_decide_eq_true high⟩
      omega
    · decide
    · decide
  · decide

theorem isSpace_of_visible {char : Char} (visible : 45 ≤ char.toNat ∧ char.toNat ≤ 122) :
    isSpace char = false := by
  obtain ⟨low, high⟩ := visible
  simp only [isSpace, List.mem_cons, List.not_mem_nil, or_false, Bool.or_eq_false_iff,
    decide_eq_false_iff_not, Bool.and_eq_false_iff]
  omega

/-- A header value of a scheme, with a number of spaces behind it. -/
def schemeValue (scheme : List Char) (spaces : ℕ) (text : List Char) : String :=
  String.ofList (scheme ++ ' ' :: (List.replicate spaces ' ' ++ text))

theorem partition_schemeValue {scheme : List Char} {lower : String}
    (letters : scheme.map Char.toLower = lower.toList) (blank : ' ' ∉ lower.toList)
    (spaces : ℕ) (text : List Char) :
    partition ' ' (schemeValue scheme spaces text).toList =
      (scheme, List.replicate spaces ' ' ++ text) := by
  have absent : ' ' ∉ scheme := by
    intro member
    have listed : (' ' : Char).toLower ∈ lower.toList := letters ▸ List.mem_map_of_mem member
    exact blank listed
  rw [schemeValue, String.toList_ofList, partition_append absent]

/-- What is found behind the scheme of a token, in any letter case. -/
theorem candidate_token {scheme : List Char} {lower : String}
    (letters : scheme.map Char.toLower = lower.toList) (known : lower = "bearer" ∨ lower = "token")
    (solid : ∀ char ∈ text, isSpace char = false) (spaces : ℕ) :
    candidate (schemeValue scheme spaces text) = .ok text := by
  have plain : ' ' ∉ lower.toList ∧ isAscii lower.toList := by
    rcases known with rfl | rfl <;> decide
  rw [candidate, partition_schemeValue letters plain.1]
  simp only [lowerScheme_eq letters plain.2, strip_spaces spaces solid]
  rw [if_pos known]

theorem candidate_basic {scheme : List Char} (letters : scheme.map Char.toLower = "basic".toList)
    (solid : ∀ char ∈ text, isSpace char = false) (spaces : ℕ) :
    candidate (schemeValue scheme spaces text) = basicPassword text := by
  rw [candidate, partition_schemeValue letters (by decide)]
  simp only [lowerScheme_eq letters (by decide), strip_spaces spaces solid]
  rfl

theorem fromUTF8_toByteArray (text : String) :
    String.fromUTF8? ⟨text.toByteArray.data.toList.toArray⟩ = some text := by
  simp [String.fromUTF8?, text.isValidUTF8, String.fromUTF8]

/-- The credentials of Basic: a user name and a password, encoded. -/
def basicCredentials (user password : String) : List Char :=
  Base64.encode (user ++ ":" ++ password).toByteArray.data.toList

theorem visible_of_basicCredentials {user password : String} {char : Char}
    (member : char ∈ basicCredentials user password) :
    isSpace char = false ∧ char.toNat < 128 := by
  have digits : ∀ char ∈ Base64.alphabet, isSpace char = false ∧ char.toNat < 128 :=
    List.all_iff_forall_prop.mp (by decide)
  rcases Base64.mem_encode member with digit | rfl
  · exact digits char digit
  · decide

theorem basicPassword_basicCredentials {user : String} (plain : ':' ∉ user.toList)
    (password : String) :
    basicPassword (basicCredentials user password) = .ok password.toList := by
  have ascii : isAscii (basicCredentials user password) := by
    refine List.all_eq_true.mpr fun char member => ?_
    simpa using (visible_of_basicCredentials member).2
  have decoded : (Base64.decode (basicCredentials user password)).bind
      (fun bytes => String.fromUTF8? ⟨bytes.toArray⟩) = some (user ++ ":" ++ password) := by
    rw [basicCredentials, Base64.decode_encode, Option.bind_some, fromUTF8_toByteArray]
  have split : (user ++ ":" ++ password).toList = user.toList ++ ':' :: password.toList := by
    simp
  rw [basicPassword, if_pos ascii, decoded]
  simp only [split, partition_append plain]

section Minted

variable (minted : placeholder.Minted)
include minted

theorem solid_of_minted : ∀ char ∈ placeholder.toText.toList, isSpace char = false :=
  fun _ member => isSpace_of_visible (toNat_of_safe (minted.mem_toText member))

/-- A minted placeholder looks like one to the proxy. -/
theorem shape_of_minted :
    placeholderPrefix.isPrefixOf placeholder.toText.toList ∧
      placeholder.toText.toList.count '.' = 3 := by
  constructor
  · rw [Placeholder.toList_toText, Placeholder.parts, List.intercalate_cons_cons]
    rfl
  · have count := length_splitOn '.' placeholder.toText.toList
    rw [minted.splitOn] at count
    exact (Nat.succ.inj count).symm

/-- A candidate that is a placeholder is what the proxy finds. -/
theorem placeholderIn_of_candidate {value : String}
    (found : candidate value = .ok placeholder.toText.toList) :
    placeholderIn value = .ok placeholder.toText := by
  rw [placeholderIn, found]
  simp only [bind, Except.bind, pure, Except.pure]
  rw [if_pos (shape_of_minted minted), String.ofList_toList]

theorem placeholderIn_bare : placeholderIn placeholder.toText = .ok placeholder.toText := by
  have absent : ' ' ∉ placeholder.toText.toList := by
    intro member
    exact absurd (solid_of_minted minted ' ' member) (by decide)
  obtain ⟨rest, starts⟩ := placeholder.toList_eq_cons
  have unknown {lower : String} (other : lower.toList.head? ≠ some 'd') :
      lowerScheme placeholder.toText.toList ≠ lower := by
    rintro rfl
    rw [lowerScheme, String.toList_ofList, starts] at other
    exact other rfl
  refine placeholderIn_of_candidate minted ?_
  rw [candidate, partition_of_notMem absent]
  simp only
  rw [if_neg (not_or.mpr ⟨unknown (by decide), unknown (by decide)⟩),
    if_neg (unknown (by decide))]

theorem placeholderIn_token {scheme : List Char} {lower : String}
    (letters : scheme.map Char.toLower = lower.toList) (known : lower = "bearer" ∨ lower = "token")
    (spaces : ℕ) :
    placeholderIn (schemeValue scheme spaces placeholder.toText.toList) =
      .ok placeholder.toText :=
  placeholderIn_of_candidate minted (candidate_token letters known (solid_of_minted minted) spaces)

theorem placeholderIn_basic {scheme : List Char}
    (letters : scheme.map Char.toLower = "basic".toList) {user : String}
    (plain : ':' ∉ user.toList) (spaces : ℕ) :
    placeholderIn (schemeValue scheme spaces (basicCredentials user placeholder.toText)) =
      .ok placeholder.toText := by
  refine placeholderIn_of_candidate minted ?_
  rw [candidate_basic letters (fun _ member => (visible_of_basicCredentials member).1),
    basicPassword_basicCredentials plain]

end Minted

/-- Where the text of a value that counts as a placeholder stands in it. -/
inductive Stands (text : List Char) (value : String) : Prop
  | whole (same : text = value.toList)
  | token (scheme : lowerScheme (partition ' ' value.toList).1 = "bearer" ∨
      lowerScheme (partition ' ' value.toList).1 = "token")
      (behind : text = strip (partition ' ' value.toList).2)
  | password (scheme : lowerScheme (partition ' ' value.toList).1 = "basic") (bytes : List UInt8)
      (decoded : String)
      (decodes : Base64.decode (strip (partition ' ' value.toList).2) = some bytes)
      (reads : String.fromUTF8? ⟨bytes.toArray⟩ = some decoded)
      (behind : text = (partition ':' decoded.toList).2)

/-- A nonempty candidate stands in its value. -/
theorem stands_of_candidate {value : String} (found : candidate value = .ok text)
    (filled : text ≠ []) : Stands text value := by
  rw [candidate] at found
  simp only at found
  split at found
  · next scheme => exact .token scheme (Except.ok.inj found).symm
  · split at found
    · next scheme =>
        rw [basicPassword] at found
        split at found
        · split at found
          · next decoded read =>
              obtain ⟨bytes, decodes, reads⟩ := Option.bind_eq_some_iff.mp read
              exact .password scheme bytes decoded decodes reads (Except.ok.inj found).symm
          · exact absurd (Except.ok.inj found).symm filled
        · cases found
    · exact .whole (Except.ok.inj found).symm

/-- What the proxy finds in a value has the shape of a placeholder and stands in it. -/
theorem stands_of_placeholderIn {value found : String} (finds : placeholderIn value = .ok found)
    (filled : found ≠ "") :
    placeholderPrefix <+: found.toList ∧ (found.toList.splitOn '.').length = 4 ∧
      Stands found.toList value := by
  rw [placeholderIn] at finds
  cases text_eq : candidate value with
  | error failure =>
      rw [text_eq] at finds
      cases finds
  | ok text =>
      rw [text_eq] at finds
      replace finds := Except.ok.inj finds
      split at finds
      · next shape =>
          obtain ⟨front, count⟩ := shape
          have front := List.isPrefixOf_iff_prefix.mp front
          subst finds
          rw [String.toList_ofList, length_splitOn, count]
          refine ⟨front, rfl, stands_of_candidate text_eq ?_⟩
          rintro rfl
          exact absurd (List.prefix_nil.mp front) (by decide)
      · exact absurd finds.symm filled

/-- A placeholder reads back from its text, bare and behind `Bearer`; the proxy finds it in every
shape that a client may give it, and finds nothing that does not stand so in the value. -/
theorem placeholder_roundTrip {placeholder : Placeholder} (minted : placeholder.Minted) :
    (Placeholder.read placeholder.toText = some placeholder ∧
      Placeholder.read ("Bearer " ++ placeholder.toText) = some placeholder) ∧
    placeholderIn placeholder.toText = .ok placeholder.toText ∧
    (∀ scheme (spaces : ℕ), scheme.map Char.toLower = "bearer".toList ∨
        scheme.map Char.toLower = "token".toList →
      placeholderIn (schemeValue scheme spaces placeholder.toText.toList) =
        .ok placeholder.toText) ∧
    (∀ scheme (spaces : ℕ) (user : String), scheme.map Char.toLower = "basic".toList →
        ':' ∉ user.toList →
      placeholderIn (schemeValue scheme spaces (basicCredentials user placeholder.toText)) =
        .ok placeholder.toText) ∧
    ∀ value found, placeholderIn value = .ok found → found ≠ "" →
      placeholderPrefix <+: found.toList ∧ (found.toList.splitOn '.').length = 4 ∧
        Stands found.toList value := by
  refine ⟨⟨minted.read_toText, minted.read_bearer⟩, placeholderIn_bare minted, ?_, ?_, ?_⟩
  · rintro scheme spaces (letters | letters)
    · exact placeholderIn_token minted letters (.inl rfl) spaces
    · exact placeholderIn_token minted letters (.inr rfl) spaces
  · intro scheme spaces user letters plain
    exact placeholderIn_basic minted letters plain spaces
  · intro value found finds filled
    exact stands_of_placeholderIn finds filled

theorem placeholder_roundTrip_github :
    let placeholder : Placeholder := { hostId := 7, service := "github", secret := "s3-cr_T" }
    placeholder.Minted ∧ Placeholder.read placeholder.toText = some placeholder ∧
      placeholderIn (schemeValue "TOKEN".toList 2 placeholder.toText.toList) =
        .ok placeholder.toText := by
  have minted : Placeholder.Minted { hostId := 7, service := "github", secret := "s3-cr_T" } :=
    ⟨by decide, by decide, List.all_iff_forall_prop.mp (by decide)⟩
  obtain ⟨⟨read, -⟩, -, token, -⟩ := placeholder_roundTrip minted
  exact ⟨minted, read, token _ 2 (.inr (by decide))⟩

end Proxy

end Drukbox
