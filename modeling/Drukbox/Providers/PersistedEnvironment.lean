import Mathlib.Data.List.Basic
import Drukbox.Providers.Environment
import Drukbox.Providers.PamEnv

/-!
# The environment of a session

The shell lines of `get_persist` append entries to `/etc/environment`, and `pam_env` gives them to
every session.
-/

namespace Drukbox.Environment

/-- Where a word of a shell line stands. -/
inductive Quoting where
  | bare
  | single
  | double

/-- One word of a shell line, up to the space behind it.  `none` for a word with a character that
the shell does more with. -/
def word : Quoting → List Char → Option (List Char × List Char)
  | .bare, [] => some ([], [])
  | .single, [] => none
  | .double, [] => none
  | .bare, char :: rest =>
      if char = ' ' then some ([], char :: rest)
      else if char = '\'' then word .single rest
      else if char = '"' then word .double rest
      else if isSafe char then (word .bare rest).map fun found => (char :: found.1, found.2)
      else none
  | .single, char :: rest =>
      if char = '\'' then word .bare rest
      else (word .single rest).map fun found => (char :: found.1, found.2)
  | .double, char :: rest =>
      if char = '"' then word .bare rest
      else if "$`\\".toList.contains char then none
      else (word .double rest).map fun found => (char :: found.1, found.2)

/-- The bytes of a text in UTF-8. -/
def bytes (text : List Char) : List UInt8 :=
  text.flatMap String.utf8EncodeChar

/-- What a shell line `printf '%s\n' WORD >> /etc/environment` appends to the file.  `none` for
another line. -/
def appends (line : String) : Option (List UInt8) := do
  let rest ← line.toList.dropPrefix? "printf '%s\\n' ".toList
  let (argument, behind) ← word .bare rest
  if behind = " >> /etc/environment".toList then return bytes argument ++ [10]
  none

/-- The environment as the reader of a file gives it. -/
def encoded (env : Dict String) : List (List UInt8 × List UInt8) :=
  env.map fun item => (bytes item.1.toList, bytes item.2.toList)

section Word

variable {text behind : List Char}

theorem word_safe (safe : text.all isSafe = true) (behind : List Char) :
    word .bare (text ++ behind) =
      (word .bare behind).map fun found => (text ++ found.1, found.2) := by
  induction text with
  | nil => simp
  | cons char rest ih =>
      rw [List.all_cons, Bool.and_eq_true] at safe
      have ordinary {other : Char} (special : isSafe other = false) : char ≠ other := by
        rintro rfl
        rw [special] at safe
        exact absurd safe.1 Bool.false_ne_true
      rw [List.cons_append, word, if_neg (ordinary (by decide)), if_neg (ordinary (by decide)),
        if_neg (ordinary (by decide)), if_pos safe.1, ih safe.2, Option.map_map]
      rfl

theorem word_single (text behind : List Char) :
    word .single (text.flatMap (fun char => if char = '\'' then "'\"'\"'".toList else [char]) ++
        '\'' :: behind) =
      (word .bare behind).map fun found => (text ++ found.1, found.2) := by
  induction text with
  | nil => simp [word]
  | cons char rest ih =>
      rw [List.flatMap_cons, List.append_assoc]
      by_cases quoted : char = '\''
      · subst quoted
        have step (tail : List Char) : word .single ("'\"'\"'".toList ++ tail) =
            (word .single tail).map fun found => ('\'' :: found.1, found.2) := by
          simp [word]
        rw [if_pos rfl, step, ih, Option.map_map]
        rfl
      · rw [if_neg quoted, List.singleton_append, word, if_neg quoted, ih, Option.map_map]
        rfl

/-- The shell reads back what `shlex.quote` writes. -/
theorem word_quote (text behind : List Char) :
    word .bare (quote text ++ ' ' :: behind) = some (text, ' ' :: behind) := by
  have ends : word .bare (' ' :: behind) = some ([], ' ' :: behind) := by simp [word]
  unfold quote
  split
  · next empty =>
      subst empty
      simp [word]
  · split
    · next safe => simp [word_safe safe, ends]
    · rw [List.append_assoc, List.append_assoc, List.singleton_append, word, if_neg (by decide),
        if_pos rfl, List.singleton_append, word_single, ends]
      simp

end Word

section Bytes

variable {text : List Char} {char : Char}

theorem inRange_iff {low high : Char} :
    inRange low high char = true ↔ low.toNat ≤ char.toNat ∧ char.toNat ≤ high.toNat := by
  rw [inRange, Bool.and_eq_true, decide_eq_true_iff, decide_eq_true_iff]
  rfl

theorem bytes_of_ascii (ascii : ∀ char ∈ text, char.toNat < 128) :
    bytes text = text.map Char.toUInt8 := by
  induction text with
  | nil => rfl
  | cons char rest ih =>
      have small : char.val ≤ 127 := Nat.le_of_lt_succ (ascii char List.mem_cons_self)
      have single := String.utf8EncodeChar_eq_singleton (Char.utf8Size_eq_one_iff.mpr small)
      have tail := ih fun other member => ascii other (List.mem_cons_of_mem _ member)
      rw [bytes, List.flatMap_cons, single, ← bytes, tail]
      rfl

theorem toNat_toUInt8 (ascii : char.toNat < 128) : char.toUInt8.toNat = char.toNat := by
  have small : char.val.toNat < 256 := by
    change char.val.toNat < 128 at ascii
    omega
  exact (UInt32.toNat_toUInt8 char.val).trans (Nat.mod_eq_of_lt small)

theorem code_of_isValueChar (valued : isValueChar char = true) :
    char.toNat = 33 ∨ (36 ≤ char.toNat ∧ char.toNat ≤ 38) ∨ (40 ≤ char.toNat ∧ char.toNat ≤ 91) ∨
      (93 ≤ char.toNat ∧ char.toNat ≤ 126) := by
  simp only [isValueChar, Bool.or_eq_true, beq_iff_eq, inRange_iff] at valued
  rcases valued with ((rfl | low) | middle) | high
  · exact .inl rfl
  · exact .inr (.inl low)
  · exact .inr (.inr (.inl middle))
  · exact .inr (.inr (.inr high))

theorem code_of_isValue (valued : isValue text = true) (member : char ∈ text) :
    char = ' ' ∨ isValueChar char = true := by
  cases text with
  | nil => cases member
  | cons head rest =>
      simp only [isValue, Bool.and_eq_true, List.all_eq_true, Bool.or_eq_true, beq_iff_eq]
        at valued
      rcases List.mem_cons.mp member with rfl | later
      · exact .inr valued.1.1
      · exact (valued.1.2 char later).symm

/-- A value has no space at either end. -/
theorem ends_of_isValue (valued : isValue text = true)
    (edge : text.head? = some char ∨ text.getLast? = some char) : isValueChar char = true := by
  cases text with
  | nil => simp at edge
  | cons head rest =>
      simp only [isValue, Bool.and_eq_true] at valued
      rcases edge with first | last
      · obtain rfl : head = char := by simpa using first
        exact valued.1.1
      · have final : (head :: rest).getLastD head = char := by
          rw [List.getLastD_eq_getLast?, last, Option.getD_some]
        exact final ▸ valued.2

theorem code_of_isName (named : isName text = true) (member : char ∈ text) :
    (48 ≤ char.toNat ∧ char.toNat ≤ 57) ∨ (65 ≤ char.toNat ∧ char.toNat ≤ 90) ∨
      char.toNat = 95 ∨ (97 ≤ char.toNat ∧ char.toNat ≤ 122) := by
  have starts (start : inRange 'A' 'Z' char = true ∨ inRange 'a' 'z' char = true ∨ char = '_') :
      (65 ≤ char.toNat ∧ char.toNat ≤ 90) ∨ char.toNat = 95 ∨
        (97 ≤ char.toNat ∧ char.toNat ≤ 122) := by
    rcases start with upper | lower | rfl
    · exact .inl (inRange_iff.mp upper)
    · exact .inr (.inr (inRange_iff.mp lower))
    · exact .inr (.inl rfl)
  cases text with
  | nil => cases member
  | cons head rest =>
      simp only [isName, Bool.and_eq_true, List.all_eq_true, Bool.or_eq_true, beq_iff_eq, or_assoc]
        at named
      rcases List.mem_cons.mp member with rfl | later
      · exact .inr (starts named.1)
      · rcases named.2 char later with upper | lower | low | digit
        · exact .inr (starts (.inl upper))
        · exact .inr (starts (.inr (.inl lower)))
        · exact .inr (starts (.inr (.inr low)))
        · exact .inl (inRange_iff.mp digit)

theorem mem_bytes (ascii : ∀ char ∈ text, char.toNat < 128) {byte : UInt8} :
    byte ∈ bytes text ↔ ∃ char ∈ text, char.toNat = byte.toNat := by
  rw [bytes_of_ascii ascii, List.mem_map]
  constructor
  · rintro ⟨char, member, rfl⟩
    exact ⟨char, member, (toNat_toUInt8 (ascii char member)).symm⟩
  · rintro ⟨char, member, same⟩
    refine ⟨char, member, UInt8.toNat_inj.mp ?_⟩
    rw [toNat_toUInt8 (ascii char member), same]

theorem ascii_of_isName (named : isName text = true) : ∀ char ∈ text, char.toNat < 128 := by
  intro char member
  have code := code_of_isName named member
  omega

theorem ascii_of_isValue (valued : isValue text = true) : ∀ char ∈ text, char.toNat < 128 := by
  intro char member
  rcases code_of_isValue valued member with rfl | inner
  · decide
  · have code := code_of_isValueChar inner
    omega

/-- A name has nothing in it that the reader acts on. -/
theorem byte_of_isName (named : isName text = true) {byte : UInt8} (member : byte ∈ bytes text) :
    PamEnv.isBlank byte = false ∧ byte ≠ 35 ∧ byte ≠ 61 := by
  obtain ⟨char, inside, same⟩ := (mem_bytes (ascii_of_isName named)).mp member
  have code := code_of_isName named inside
  refine ⟨PamEnv.isBlank_eq_false.mpr ?_, ?_, ?_⟩
  · omega
  · rintro rfl
    simp only [UInt8.reduceToNat] at same
    omega
  · rintro rfl
    simp only [UInt8.reduceToNat] at same
    omega

theorem byte_of_isValue (valued : isValue text = true) {byte : UInt8}
    (member : byte ∈ bytes text) : byte ≠ 10 ∧ byte ≠ 35 := by
  obtain ⟨char, inside, same⟩ := (mem_bytes (ascii_of_isValue valued)).mp member
  have code : char.toNat = 32 ∨ char.toNat = 33 ∨ 36 ≤ char.toNat := by
    rcases code_of_isValue valued inside with rfl | inner
    · exact .inl rfl
    · have code := code_of_isValueChar inner
      omega
  constructor
  · rintro rfl
    simp only [UInt8.reduceToNat] at same
    omega
  · rintro rfl
    simp only [UInt8.reduceToNat] at same
    omega

/-- The first and the last byte of a value. -/
theorem edge_of_isValue (valued : isValue text = true) {byte : UInt8}
    (edge : (bytes text).head? = some byte ∨ (bytes text).getLast? = some byte) :
    byte.toNat = 33 ∨ (36 ≤ byte.toNat ∧ byte.toNat ≤ 38) ∨
      (40 ≤ byte.toNat ∧ byte.toNat ≤ 91) ∨ (93 ≤ byte.toNat ∧ byte.toNat ≤ 126) := by
  have ascii := ascii_of_isValue valued
  rw [bytes_of_ascii ascii, List.head?_map, List.getLast?_map, Option.map_eq_some_iff,
    Option.map_eq_some_iff] at edge
  obtain ⟨char, first, rfl⟩ | ⟨char, last, rfl⟩ := edge
  · rw [toNat_toUInt8 (ascii char (List.mem_of_head? first))]
    exact code_of_isValueChar (ends_of_isValue valued (.inl first))
  · rw [toNat_toUInt8 (ascii char (List.mem_of_getLast? last))]
    exact code_of_isValueChar (ends_of_isValue valued (.inr last))

end Bytes

section Accepted

variable {key value : String} {env rest : Dict String} {lines : List String}

/-- `get_persist` accepts each entry, and writes one line for it. -/
theorem getPersist_cons (accepted : getPersist ((key, value) :: rest) = .ok lines) :
    isName key.toList = true ∧ isValue value.toList = true ∧
      (key ++ "=" ++ value ++ "\n").length ≤ lineLimit ∧
      ∃ later, getPersist rest = .ok later ∧ lines = persistLine key value :: later := by
  rw [getPersist] at accepted
  by_cases named : isName key.toList = true
  · by_cases valued : isValue value.toList = true
    · by_cases short : (key ++ "=" ++ value ++ "\n").length ≤ lineLimit
      · simp only [named, valued, Nat.not_lt.mpr short, Bool.not_true, Bool.false_eq_true,
          if_false] at accepted
        cases persisted : getPersist rest with
        | error failure =>
            rw [persisted] at accepted
            cases accepted
        | ok later =>
            rw [persisted] at accepted
            exact ⟨named, valued, short, later, rfl, (Except.ok.inj accepted).symm⟩
      · simp only [named, valued, Nat.not_le.mp short, Bool.not_true, Bool.false_eq_true,
          if_false, if_true] at accepted
        cases accepted
    · simp only [named, valued, Bool.not_true, Bool.false_eq_true, if_false, Bool.not_false,
        if_true] at accepted
      cases accepted
  · simp only [named, Bool.not_false, if_true] at accepted
    cases accepted

/-- An accepted entry is one that the reader takes as it stands. -/
theorem exists_entry {key value : List Char} (named : isName key = true)
    (valued : isValue value = true) (short : key.length + value.length + 2 ≤ lineLimit) :
    ∃ item : PamEnv.Entry, item.pair = (bytes key, bytes value) := by
  refine ⟨{ key := bytes key, value := bytes value, solid := ?_, plain := ?_, opens := ?_,
            closes := ?_, fits := ?_ }, rfl⟩
  · intro byte member
    exact byte_of_isName named member
  · intro byte member
    exact byte_of_isValue valued member
  · intro byte first
    have code := edge_of_isValue valued (.inl first)
    rw [PamEnv.isBlank_eq_false, PamEnv.isQuote_eq_false]
    omega
  · intro byte last
    have code := edge_of_isValue valued (.inr last)
    have final : byte.toNat ≠ (92 : UInt8).toNat := by
      simp only [UInt8.reduceToNat]
      omega
    refine ⟨PamEnv.isBlank_eq_false.mpr ?_, fun same => final (congrArg UInt8.toNat same)⟩
    omega
  · simp only [lineLimit] at short
    simp only [bytes_of_ascii (ascii_of_isName named), bytes_of_ascii (ascii_of_isValue valued),
      List.length_map, PamEnv.bufferSize]
    omega

/-- What one line appends to the file. -/
theorem appends_persistLine (key value : String) :
    appends (persistLine key value) =
      some (bytes key.toList ++ 61 :: (bytes value.toList ++ [10])) := by
  have parsed : (persistLine key value).toList =
      "printf '%s\\n' ".toList ++ (quote (key ++ "=" ++ value).toList ++
        ' ' :: ">> /etc/environment".toList) := by
    simp [persistLine]
  have text : bytes (key ++ "=" ++ value).toList =
      bytes key.toList ++ 61 :: bytes value.toList := by
    simp only [bytes, String.toList_append, List.flatMap_append, List.append_assoc]
    rfl
  rw [appends, parsed, List.dropPrefix?_append_of_beq _ (BEq.refl _)]
  simp only [Option.bind_eq_bind, Option.bind_some, word_quote]
  rw [if_pos (by decide), text, List.append_assoc, List.cons_append]
  rfl

theorem exists_entries (accepted : getPersist env = .ok lines) :
    ∃ items : List PamEnv.Entry, items.map PamEnv.Entry.pair = encoded env ∧
      lines.mapM appends = some (items.map fun item => item.line ++ [10]) := by
  induction env generalizing lines with
  | nil =>
      obtain rfl := Except.ok.inj accepted
      exact ⟨[], rfl, rfl⟩
  | cons entry rest ih =>
      obtain ⟨key, value⟩ := entry
      obtain ⟨named, valued, short, later, persisted, rfl⟩ := getPersist_cons accepted
      obtain ⟨items, pairs, texts⟩ := ih persisted
      have length : key.toList.length + value.toList.length + 2 ≤ lineLimit := by
        simp only [String.length_append, String.length_toList] at short ⊢
        have ends : "=".length = 1 ∧ "\n".length = 1 := ⟨rfl, rfl⟩
        omega
      obtain ⟨item, pair⟩ := exists_entry named valued length
      obtain ⟨item_key, item_value⟩ := Prod.mk.inj pair
      have line : bytes key.toList ++ 61 :: (bytes value.toList ++ [10]) = item.line ++ [10] := by
        rw [PamEnv.Entry.line, item_key, item_value, List.append_assoc, List.cons_append]
      refine ⟨item :: items, ?_, ?_⟩
      · rw [List.map_cons, pair, pairs]
        rfl
      · rw [List.mapM_cons, appends_persistLine, texts, line]
        rfl

/-- `pam_env` gives back the environment that `get_persist` accepts, from the lines alone and from
lines appended to a file that ends its last one. -/
theorem read_persisted (env : Dict String) (lines : List String)
    (accepted : getPersist env = .ok lines) :
    ∃ texts, lines.mapM appends = some texts ∧ PamEnv.read texts.flatten = encoded env ∧
      ∀ file, PamEnv.EndsLine file →
        ∃ added, PamEnv.lines (file ++ texts.flatten) = PamEnv.lines file ++ added ∧
          PamEnv.readLines added = encoded env ∧
          (PamEnv.holds [] (PamEnv.lines file) = some [] →
            PamEnv.read (file ++ texts.flatten) = PamEnv.read file ++ encoded env) := by
  obtain ⟨items, pairs, texts⟩ := exists_entries accepted
  have text : (items.map fun item => item.line ++ [10]).flatten = PamEnv.text items := rfl
  refine ⟨_, texts, ?_, ?_⟩
  · rw [text, PamEnv.read_text, pairs]
  · intro file ends
    refine ⟨items.map PamEnv.Entry.line, ?_, ?_, ?_⟩
    · rw [text, ends.lines_append, PamEnv.lines_text]
    · rw [PamEnv.readLines_map, pairs]
    · intro passed
      rw [text, PamEnv.read_append_text ends passed, pairs]

theorem read_persisted_spaces :
    ∃ texts, ["printf '%s\\n' 'SPACES=a b  c' >> /etc/environment",
        "printf '%s\\n' EQUALS=x=y=z >> /etc/environment",
        "printf '%s\\n' EMPTY= >> /etc/environment"].mapM appends = some texts ∧
      PamEnv.read texts.flatten =
        encoded [("SPACES", "a b  c"), ("EQUALS", "x=y=z"), ("EMPTY", "")] := by
  obtain ⟨texts, written, back, -⟩ := read_persisted
    [("SPACES", "a b  c"), ("EQUALS", "x=y=z"), ("EMPTY", "")]
    ["printf '%s\\n' 'SPACES=a b  c' >> /etc/environment",
      "printf '%s\\n' EQUALS=x=y=z >> /etc/environment",
      "printf '%s\\n' EMPTY= >> /etc/environment"] rfl
  exact ⟨texts, written, back⟩

end Accepted

end Drukbox.Environment
