import Mathlib.Data.List.DropRight
import Mathlib.Data.Nat.Notation

/-!
# The reader of an environment file

`pam_env` takes the lines of a file into a buffer, joins the continued ones, and reads an entry from
each line that it puts together.
-/

namespace Drukbox.PamEnv

/-- The bytes of the buffer.  A line in it has a zero byte behind it. -/
def bufferSize : ℕ := 8192

/-- White space in ASCII. -/
def isBlank (byte : UInt8) : Bool :=
  byte == 32 || (9 ≤ byte && byte ≤ 13)

/-- `"` and `'`. -/
def isQuote (byte : UInt8) : Bool :=
  byte == 34 || byte == 39

/-- Remove white space from both ends. -/
def trim (text : List UInt8) : List UInt8 :=
  (text.dropWhile isBlank).rdropWhile isBlank

/-- The lines of a file without their line feeds.  The last one may have none. -/
def lines (file : List UInt8) : List (List UInt8) :=
  let pieces := file.splitOn 10
  if pieces.getLast? = some [] then pieces.dropLast else pieces

/-- What the buffer holds once one more line of the file is taken. -/
inductive Taken where
  /-- The line fills it. -/
  | full
  /-- The next line of the file continues the text. -/
  | joined (text : List UInt8)
  | whole (text : List UInt8)

/-- Take one more line of the file behind the text that the buffer holds. -/
def take (held line : List UInt8) : Taken :=
  if bufferSize < held.length + line.length + 2 then .full
  else
    let text := trim (line.takeWhile (· != 35))
    -- A comment ends the line, also behind a backslash.
    if 35 ∉ line ∧ text.getLast? = some 92 then .joined (held ++ text.dropLast)
    else .whole (held ++ text)

/-- The lines that are put together from the lines of the file.  A line that fills the buffer ends
the read. -/
def assemble : List UInt8 → List (List UInt8) → List (List UInt8)
  | _, [] => []
  | held, line :: rest =>
      match take held line with
      | .full => []
      | .joined text => assemble text rest
      | .whole text => text :: assemble [] rest

/-- What the buffer holds behind the lines: `none` when one of them has ended the read. -/
def holds : List UInt8 → List (List UInt8) → Option (List UInt8)
  | held, [] => some held
  | held, line :: rest =>
      match take held line with
      | .full => none
      | .joined text => holds text rest
      | .whole _ => holds [] rest

/-- A value without its quotes.  The opening one needs no close. -/
def unquote : List UInt8 → List UInt8
  | [] => []
  | first :: rest =>
      if isQuote first then
        if rest.getLast?.any isQuote then rest.dropLast else rest
      else first :: rest

/-- The entry of a line that has been put together. -/
def entry (line : List UInt8) : Option (List UInt8 × List UInt8) :=
  if 61 ∈ line then
    some (trim (line.takeWhile (· != 61)), unquote (trim (line.dropWhile (· != 61)).tail))
  else none

/-- The entries of lines that start with nothing in the buffer. -/
def readLines (lines : List (List UInt8)) : List (List UInt8 × List UInt8) :=
  (assemble [] lines).filterMap entry

/-- The entries of a file. -/
def read (file : List UInt8) : List (List UInt8 × List UInt8) :=
  readLines (lines file)

/-- A file that a new line can be appended to. -/
def EndsLine (file : List UInt8) : Prop :=
  file = [] ∨ ∃ front, file = front ++ [10]

/-- An entry that the reader takes as it stands. -/
structure Entry where
  key : List UInt8
  value : List UInt8
  solid : ∀ byte ∈ key, isBlank byte = false ∧ byte ≠ 35 ∧ byte ≠ 61
  plain : ∀ byte ∈ value, byte ≠ 10 ∧ byte ≠ 35
  opens : ∀ byte, value.head? = some byte → isBlank byte = false ∧ isQuote byte = false
  closes : ∀ byte, value.getLast? = some byte → isBlank byte = false ∧ byte ≠ 92
  /-- The line fits in the buffer with its line feed and the zero byte. -/
  fits : key.length + value.length + 3 ≤ bufferSize

namespace Entry

variable (item : Entry)

/-- The line without its line feed. -/
def line : List UInt8 := item.key ++ 61 :: item.value

/-- What is read from it. -/
def pair : List UInt8 × List UInt8 := (item.key, item.value)

end Entry

/-- The entries as a file has them. -/
def text (items : List Entry) : List UInt8 :=
  items.flatMap fun item => item.line ++ [10]

section Classes

variable {byte : UInt8}

theorem isBlank_eq_false :
    isBlank byte = false ↔ byte.toNat ≠ 32 ∧ ¬ (9 ≤ byte.toNat ∧ byte.toNat ≤ 13) := by
  rw [isBlank, Bool.or_eq_false_iff, beq_eq_false_iff_ne, ← Bool.not_eq_true, Bool.and_eq_true,
    decide_eq_true_iff, decide_eq_true_iff, UInt8.le_iff_toNat_le, UInt8.le_iff_toNat_le, ne_eq,
    ← UInt8.toNat_inj]
  rfl

theorem isQuote_eq_false : isQuote byte = false ↔ byte.toNat ≠ 34 ∧ byte.toNat ≠ 39 := by
  rw [isQuote, Bool.or_eq_false_iff, beq_eq_false_iff_ne, beq_eq_false_iff_ne, ne_eq, ne_eq,
    ← UInt8.toNat_inj, ← UInt8.toNat_inj]
  rfl

end Classes

theorem trim_of_ends {text : List UInt8}
    (first : ∀ byte, text.head? = some byte → isBlank byte = false)
    (last : ∀ byte, text.getLast? = some byte → isBlank byte = false) : trim text = text := by
  have kept : text.dropWhile isBlank = text := by
    cases text with
    | nil => rfl
    | cons byte rest => exact List.dropWhile_cons_of_neg (by simp [first byte rfl])
  rw [trim, kept, List.rdropWhile_eq_self_iff]
  intro filled
  simp [last _ (List.getLast?_eq_some_getLast filled)]

section Lines

variable {file front : List UInt8} {items : List Entry}

theorem lines_append (front back : List UInt8) :
    lines (front ++ 10 :: back) = front.splitOn 10 ++ lines back := by
  have filled : back.splitOn 10 ≠ [] := List.splitOn_ne_nil 10 back
  simp only [lines, List.splitOn_append_cons_self, List.getLast?_append_of_ne_nil _ filled]
  split
  · rw [List.dropLast_append_of_ne_nil filled]
  · rfl

/-- Lines behind a file that ends its last one are lines of their own. -/
theorem EndsLine.lines_append (ends : EndsLine file) (back : List UInt8) :
    lines (file ++ back) = lines file ++ lines back := by
  rcases ends with rfl | ⟨front, rfl⟩
  · rfl
  · have alone : lines (front ++ [10]) = front.splitOn 10 := by
      rw [PamEnv.lines_append, show lines [] = [] from rfl, List.append_nil]
    rw [alone, List.append_assoc, List.singleton_append, PamEnv.lines_append]

theorem Entry.unbroken (item : Entry) : 10 ∉ item.line := by
  intro member
  rcases List.mem_append.mp member with named | listed
  · exact absurd (item.solid 10 named).1 (by decide)
  · rcases List.mem_cons.mp listed with same | valued
    · exact absurd same (by decide)
    · exact (item.plain 10 valued).1 rfl

theorem lines_text (items : List Entry) : lines (text items) = items.map Entry.line := by
  induction items with
  | nil => rfl
  | cons item rest ih =>
      have alone : item.line.splitOn 10 = [item.line] := List.splitOn_eq_singleton item.unbroken
      rw [text, List.flatMap_cons, List.append_assoc, List.singleton_append, lines_append, alone,
        List.singleton_append, List.map_cons]
      exact congrArg (item.line :: ·) ih

end Lines

namespace Entry

variable (item : Entry)

theorem uncommented : 35 ∉ item.line := by
  intro member
  rcases List.mem_append.mp member with named | listed
  · exact (item.solid 35 named).2.1 rfl
  · rcases List.mem_cons.mp listed with same | valued
    · exact absurd same (by decide)
    · exact (item.plain 35 valued).2 rfl

/-- The last byte of a line is the last of its value, or `=`. -/
theorem line_closes {byte : UInt8} (last : item.line.getLast? = some byte) :
    isBlank byte = false ∧ byte ≠ 92 := by
  rw [line, List.getLast?_append_of_ne_nil _ (List.cons_ne_nil _ _), List.getLast?_cons] at last
  cases valued : item.value.getLast? with
  | none =>
      obtain rfl : 61 = byte := by simpa [valued] using last
      exact ⟨by decide, by decide⟩
  | some final =>
      obtain rfl : final = byte := by simpa [valued] using last
      exact item.closes final valued

theorem line_opens {byte : UInt8} (first : item.line.head? = some byte) :
    isBlank byte = false := by
  cases keyed : item.key with
  | nil =>
      obtain rfl : 61 = byte := by simpa [line, keyed] using first
      decide
  | cons head rest =>
      obtain rfl : head = byte := by simpa [line, keyed] using first
      exact (item.solid head (by simp [keyed])).1

theorem take_line : take [] item.line = .whole item.line := by
  have fits : ¬ bufferSize < ([] : List UInt8).length + item.line.length + 2 := by
    have bound := item.fits
    simp only [line, List.length_nil, List.length_append, List.length_cons]
    omega
  have kept : item.line.takeWhile (· != 35) = item.line := by
    rw [List.takeWhile_eq_self_iff]
    intro byte member
    exact bne_iff_ne.mpr fun same => item.uncommented (same ▸ member)
  have trimmed : trim item.line = item.line :=
    trim_of_ends (fun byte first => item.line_opens first)
      fun byte last => (item.line_closes last).1
  rw [take, if_neg fits, kept, trimmed]
  exact if_neg fun ⟨_, last⟩ => (item.line_closes last).2 rfl

theorem unquote_value : unquote item.value = item.value := by
  cases valued : item.value with
  | nil => rfl
  | cons first rest =>
      have plain := (item.opens first (by rw [valued, List.head?_cons])).2
      rw [unquote, plain, if_neg Bool.false_ne_true]

theorem entry_line : entry item.line = some item.pair := by
  have keyed : ∀ byte ∈ item.key, (byte != 61) = true := fun byte member =>
    bne_iff_ne.mpr (item.solid byte member).2.2
  have key : item.line.takeWhile (· != 61) = item.key := by
    rw [line, List.takeWhile_append_of_pos keyed, List.takeWhile_cons_of_neg (by decide),
      List.append_nil]
  have value : (item.line.dropWhile (· != 61)).tail = item.value := by
    rw [line, List.dropWhile_append_of_pos keyed, List.dropWhile_cons_of_neg (by decide),
      List.tail_cons]
  have key_trimmed : trim item.key = item.key :=
    trim_of_ends (fun byte first => (item.solid byte (List.mem_of_head? first)).1)
      fun byte last => (item.solid byte (List.mem_of_getLast? last)).1
  have value_trimmed : trim item.value = item.value :=
    trim_of_ends (fun byte first => (item.opens byte first).1)
      fun byte last => (item.closes byte last).1
  rw [entry, if_pos (by simp [line]), key, value, key_trimmed, value_trimmed, item.unquote_value]
  rfl

end Entry

section Read

variable {file : List UInt8}

theorem readLines_cons (item : Entry) (rest : List (List UInt8)) :
    readLines (item.line :: rest) = item.pair :: readLines rest := by
  rw [readLines, assemble, item.take_line]
  exact List.filterMap_cons_some item.entry_line

/-- The lines of entries are read back. -/
theorem readLines_map (items : List Entry) :
    readLines (items.map Entry.line) = items.map Entry.pair := by
  induction items with
  | nil => rfl
  | cons item rest ih => rw [List.map_cons, readLines_cons, ih, List.map_cons]

/-- A line that fills the buffer ends the read, and every entry behind it is lost. -/
theorem readLines_of_full {line : List UInt8} (long : bufferSize < line.length + 2)
    (rest : List (List UInt8)) : readLines (line :: rest) = [] := by
  have full : take [] line = .full := if_pos (by simpa using long)
  rw [readLines, assemble, full]
  rfl

/-- A file of entries is read back. -/
theorem read_text (items : List Entry) : read (text items) = items.map Entry.pair := by
  rw [read, lines_text, readLines_map]

/-- Where the buffer holds `next` behind some lines, the read goes on from there. -/
theorem assemble_append {first : List (List UInt8)} {held next : List UInt8}
    (passed : holds held first = some next) (second : List (List UInt8)) :
    assemble held (first ++ second) = assemble held first ++ assemble next second := by
  induction first generalizing held with
  | nil =>
      obtain rfl : held = next := Option.some.inj passed
      rfl
  | cons line rest ih =>
      rw [List.cons_append, assemble, assemble]
      rw [holds] at passed
      cases taken : take held line with
      | full =>
          rw [taken] at passed
          cases passed
      | joined text =>
          rw [taken] at passed
          exact ih passed
      | whole text =>
          rw [taken] at passed
          exact congrArg (text :: ·) (ih passed)

/-- Entries behind a file that ends its last line, and that the reader gets through with an empty
buffer, are read behind those of the file. -/
theorem read_append_text (ends : EndsLine file) (passed : holds [] (lines file) = some [])
    (items : List Entry) : read (file ++ text items) = read file ++ items.map Entry.pair := by
  rw [read, ends.lines_append, readLines, assemble_append passed, List.filterMap_append,
    ← readLines, ← readLines, ← read, lines_text, readLines_map]

-- Behind a backslash the buffer is not empty: the first entry continues the line `A=1`.
example : read ("A=1\\\nB=2\n".toList.map Char.toUInt8) =
    [("A".toList.map Char.toUInt8, "1B=2".toList.map Char.toUInt8)] := by decide

end Read

end Drukbox.PamEnv
