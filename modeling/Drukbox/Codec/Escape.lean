import Mathlib.Algebra.Ring.Parity
import Mathlib.Data.List.Basic
import Mathlib.Data.Nat.Notation

/-!
# Escaped text between quotes

Some characters are written as a mark and a letter.  A reader goes through the text from left to
right: a mark with a letter that it knows is the character behind it, every other character stands
for itself, and the closing quote ends the text.
-/

/-- An escape mark, a closing quote and the letters behind the mark. -/
structure Escaping (α : Type) where
  mark : α
  quote : α
  /-- The letter that a character is written with, behind the mark. -/
  letter : α → Option α
  /-- The character of a letter behind the mark. -/
  meaning : α → Option α
  meaning_letter : ∀ {char code}, letter char = some code → meaning code = some char
  /-- The mark and the quote are never written bare. -/
  letter_mark : (letter mark).isSome
  letter_quote : (letter quote).isSome
  mark_ne_quote : mark ≠ quote

namespace Escaping

variable {α : Type} (escaping : Escaping α)

/-- A character as it is written. -/
def encodeOne (char : α) : List α :=
  match escaping.letter char with
  | some code => [escaping.mark, code]
  | none => [char]

/-- A text as it is written. -/
def encode (text : List α) : List α :=
  text.flatMap escaping.encodeOne

theorem encode_cons (char : α) (rest : List α) :
    escaping.encode (char :: rest) = escaping.encodeOne char ++ escaping.encode rest := rfl

variable [DecidableEq α]

/-- Read a text without its quotes. -/
def decode : List α → List α
  | [] => []
  | [char] => [char]
  | char :: next :: rest =>
      if char = escaping.mark then
        match escaping.meaning next with
        | some meant => meant :: decode rest
        | none => char :: decode (next :: rest)
      else
        char :: decode (next :: rest)

/-- Read a text up to its closing quote: the text, and what is behind the quote.  `none` when no
quote closes it. -/
def readQuoted : List α → Option (List α × List α)
  | [] => none
  | [char] => if char = escaping.quote then some ([], []) else none
  | char :: next :: rest =>
      if char = escaping.quote then some ([], next :: rest)
      else if char = escaping.mark then
        match escaping.meaning next with
        | some meant => (readQuoted rest).map fun found => (meant :: found.1, found.2)
        | none => (readQuoted (next :: rest)).map fun found => (char :: found.1, found.2)
      else
        (readQuoted (next :: rest)).map fun found => (char :: found.1, found.2)

/-- The length of the run of marks that ends a text. -/
def marks (text : List α) : ℕ :=
  (text.reverse.takeWhile (· = escaping.mark)).length

section Read

variable {escaping} {char code : α} {text rest : List α}

omit [DecidableEq α] in
theorem ne_mark (bare : escaping.letter char = none) : char ≠ escaping.mark := by
  rintro rfl
  have escaped := escaping.letter_mark
  rw [bare] at escaped
  cases escaped

omit [DecidableEq α] in
theorem ne_quote (bare : escaping.letter char = none) : char ≠ escaping.quote := by
  rintro rfl
  have escaped := escaping.letter_quote
  rw [bare] at escaped
  cases escaped

theorem decode_cons (bare : char ≠ escaping.mark) (rest : List α) :
    escaping.decode (char :: rest) = char :: escaping.decode rest := by
  cases rest with
  | nil => rfl
  | cons next rest => rw [decode, if_neg bare]

theorem decode_mark (meant : escaping.meaning code = some char) (rest : List α) :
    escaping.decode (escaping.mark :: code :: rest) = char :: escaping.decode rest := by
  rw [decode, if_pos rfl, meant]

theorem readQuoted_quote (rest : List α) :
    escaping.readQuoted (escaping.quote :: rest) = some ([], rest) := by
  cases rest with
  | nil => exact if_pos rfl
  | cons next rest => exact if_pos rfl

theorem readQuoted_cons (open_text : char ≠ escaping.quote) (bare : char ≠ escaping.mark)
    (rest : List α) :
    escaping.readQuoted (char :: rest) =
      (escaping.readQuoted rest).map fun found => (char :: found.1, found.2) := by
  cases rest with
  | nil => exact if_neg open_text
  | cons next rest => rw [readQuoted, if_neg open_text, if_neg bare]

theorem readQuoted_mark (meant : escaping.meaning code = some char) (rest : List α) :
    escaping.readQuoted (escaping.mark :: code :: rest) =
      (escaping.readQuoted rest).map fun found => (char :: found.1, found.2) := by
  rw [readQuoted, if_neg escaping.mark_ne_quote, if_pos rfl, meant]

theorem decode_encode (text : List α) : escaping.decode (escaping.encode text) = text := by
  induction text with
  | nil => rfl
  | cons char rest ih =>
      rw [encode_cons, encodeOne]
      cases escaped : escaping.letter char with
      | some code =>
          exact (decode_mark (escaping.meaning_letter escaped) _).trans (congrArg (char :: ·) ih)
      | none => exact (decode_cons (ne_mark escaped) _).trans (congrArg (char :: ·) ih)

/-- The reader ends at the quote behind what is written. -/
theorem readQuoted_encode (text rest : List α) :
    escaping.readQuoted (escaping.encode text ++ escaping.quote :: rest) = some (text, rest) := by
  induction text with
  | nil => exact readQuoted_quote rest
  | cons char later ih =>
      rw [encode_cons, List.append_assoc, encodeOne]
      cases escaped : escaping.letter char with
      | some code =>
          dsimp only [List.cons_append, List.nil_append]
          rw [readQuoted_mark (escaping.meaning_letter escaped), ih, Option.map_some]
      | none =>
          dsimp only [List.cons_append, List.nil_append]
          rw [readQuoted_cons (ne_quote escaped) (ne_mark escaped), ih, Option.map_some]

theorem encode_injective : Function.Injective escaping.encode := by
  intro first second same
  calc
    first = escaping.decode (escaping.encode first) := (decode_encode first).symm
    _ = escaping.decode (escaping.encode second) := by rw [same]
    _ = second := decode_encode second

omit [DecidableEq α] in
/-- A character that is escaped, and is neither the mark nor a letter, is not written. -/
theorem notMem_encode (escaped : (escaping.letter char).isSome) (unmarked : char ≠ escaping.mark)
    (no_letter : ∀ other, escaping.letter other ≠ some char) (text : List α) :
    char ∉ escaping.encode text := by
  intro member
  obtain ⟨other, -, inside⟩ := List.mem_flatMap.mp member
  rw [encodeOne] at inside
  cases written : escaping.letter other with
  | some code =>
      rw [written, List.mem_pair] at inside
      rcases inside with same | same
      · exact unmarked same
      · exact no_letter other (same ▸ written)
  | none =>
      rw [written, List.mem_singleton] at inside
      rw [inside, written] at escaped
      cases escaped

end Read

section Marks

variable {escaping} {char code : α} {front back text : List α}

theorem marks_append (first second : List α) :
    escaping.marks (first ++ second) =
      if escaping.marks second = second.length then second.length + escaping.marks first
      else escaping.marks second := by
  by_cases all : escaping.marks second = second.length
  · have whole : (second.reverse.takeWhile (· = escaping.mark)).length = second.reverse.length := by
      rw [List.length_reverse]
      exact all
    rw [if_pos all, marks, List.reverse_append, List.takeWhile_append, if_pos whole,
      List.length_append, List.length_reverse, marks]
  · have part : (second.reverse.takeWhile (· = escaping.mark)).length ≠ second.reverse.length := by
      rw [List.length_reverse]
      exact all
    rw [if_neg all, marks, List.reverse_append, List.takeWhile_append, if_neg part, marks]

/-- In what is written, an odd run of marks stands before each quote. -/
theorem odd_marks (text : List α) {front back : List α}
    (found : escaping.encode text = front ++ escaping.quote :: back) :
    Odd (escaping.marks front) := by
  induction text generalizing front with
  | nil => simp [encode] at found
  | cons char rest ih =>
      rw [encode_cons, encodeOne] at found
      cases escaped : escaping.letter char with
      | none =>
          rw [escaped, List.singleton_append] at found
          cases front with
          | nil => exact absurd (List.cons.inj found).1 (ne_quote escaped)
          | cons head front =>
              obtain ⟨rfl, later⟩ := List.cons.inj found
              have odd := ih later
              have bare : escaping.marks [char] = 0 := by simp [marks, ne_mark escaped]
              rw [← List.singleton_append, marks_append, bare, Nat.add_zero]
              split
              · next all => rwa [← all]
              · exact odd
      | some code =>
          rw [escaped] at found
          cases front with
          | nil => exact absurd (List.cons.inj found).1 escaping.mark_ne_quote
          | cons head front =>
              obtain ⟨rfl, later⟩ := List.cons.inj found
              cases front with
              | nil => simp [marks]
              | cons next front =>
                  obtain ⟨rfl, last⟩ := List.cons.inj later
                  have odd := ih last
                  have pair : escaping.marks [escaping.mark, code] =
                      if code = escaping.mark then 2 else 0 := by
                    by_cases marked : code = escaping.mark <;> simp [marks, marked]
                  rw [show escaping.mark :: code :: front = [escaping.mark, code] ++ front from rfl,
                    marks_append, pair]
                  split
                  · next all =>
                      rw [all] at odd
                      split
                      · exact odd.add_even even_two
                      · exact odd
                  · exact odd

end Marks

end Escaping
