import Mathlib.Data.List.Basic

/-!
# The command lines of a shell

A shell splits a line into words and operators.  A word is written bare, between quotes, or in
pieces of both; what a quoted piece holds belongs to the word, be it a space, an operator or the end
of a line.  A reader goes through the text up to the first end of a line outside of quotes.
-/

namespace Shell

inductive Kind
  | word
  | operator
  deriving DecidableEq, Repr

/-- What a command line is made of. -/
structure Token where
  kind : Kind
  text : List Char
  deriving DecidableEq, Repr

namespace Token

abbrev word (text : List Char) : Token := ⟨.word, text⟩

abbrev operator (text : List Char) : Token := ⟨.operator, text⟩

/-- A piece of a line joins the token before it, if that is of its kind. -/
def join : Option Token → Token → List Token × Token
  | none, piece => ([], piece)
  | some held, piece =>
      if held.kind = piece.kind then ([], ⟨piece.kind, held.text ++ piece.text⟩)
      else ([held], piece)

@[simp] theorem join_none (piece : Token) : join none piece = ([], piece) := rfl

@[simp] theorem join_same (kind : Kind) (first second : List Char) :
    join (some ⟨kind, first⟩) ⟨kind, second⟩ = ([], ⟨kind, first ++ second⟩) :=
  if_pos rfl

theorem join_append (held : Option Token) (kind : Kind) (first second : List Char) :
    join (some (join held ⟨kind, first⟩).2) ⟨kind, second⟩ =
        ([], (join held ⟨kind, first ++ second⟩).2) ∧
      (join held ⟨kind, first ++ second⟩).1 = (join held ⟨kind, first⟩).1 := by
  cases held with
  | none => simp [join]
  | some held =>
      by_cases same : held.kind = kind <;> simp [join, same]

theorem join_kind (held : Option Token) (piece : Token) :
    (join held piece).2.kind = piece.kind := by
  cases held with
  | none => rfl
  | some held =>
      rw [join]
      split <;> rfl

end Token

/-- Where a character stands. -/
inductive Quoting
  | bare
  | single
  | double

/-- The characters of operators. -/
def isOperator (char : Char) : Bool :=
  "&|;<>".toList.contains char

/-- A character that stands for itself in a bare word. -/
def isPlain (char : Char) : Bool :=
  !isOperator char && !(" \t\n\r()$`\\\"'*?[]#~!{}^".toList.contains char)

/-- What a reader returns: the tokens of the line, and what is behind it. -/
abbrev Reading := Option (List Token × List Char)

/-- The reading of a line that has more tokens in front. -/
def Reading.after (tokens : List Token) (reading : Reading) : Reading :=
  reading.map fun found => (tokens ++ found.1, found.2)

/-- What a bare character begins. -/
def opens (char : Char) : Option (Quoting × Token) :=
  if char = '\'' then some (.single, .word [])
  else if char = '"' then some (.double, .word [])
  else if isOperator char then some (.bare, .operator [char])
  else if isPlain char then some (.bare, .word [char])
  else none

/-- Read a line, with the token that is not yet at its end.  `none` for a line with a character that
the shell does more with, or with a quote that nothing closes. -/
def line : Quoting → Option Token → List Char → Reading
  | .bare, held, [] => some (held.toList, [])
  | .single, _, [] => none
  | .double, _, [] => none
  | .bare, held, char :: rest =>
      if char = '\n' then some (held.toList, rest)
      else if char = ' ' then .after held.toList (line .bare none rest)
      else
        match opens char with
        | some (quoting, piece) =>
            .after (Token.join held piece).1 (line quoting (Token.join held piece).2 rest)
        | none => none
  | .single, held, char :: rest =>
      if char = '\'' then line .bare held rest
      else line .single (Token.join held (.word [char])).2 rest
  | .double, held, char :: rest =>
      if char = '"' then line .bare held rest
      else if "$`\\".toList.contains char then none
      else line .double (Token.join held (.word [char])).2 rest

/-- The text is read as the token, or as its next piece. -/
def Spells (text : List Char) (token : Token) : Prop :=
  ∀ held behind, line .bare held (text ++ behind) =
    .after (Token.join held token).1 (line .bare (Token.join held token).2 behind)

/-- A word between single quotes: a quote in it is written between double ones. -/
def quoted (text : List Char) : List Char :=
  ['\''] ++ text.flatMap (fun char => if char = '\'' then "'\"'\"'".toList else [char]) ++ ['\'']

variable {text behind rest : List Char} {token : Token} {tokens : List Token}
  {held : Option Token}

@[simp] theorem after_nil (reading : Reading) : reading.after [] = reading := by
  cases reading <;> rfl

theorem after_after (reading : Reading) (first second : List Token) :
    (reading.after second).after first = reading.after (first ++ second) := by
  cases reading with
  | none => rfl
  | some found => simp [Reading.after]

theorem Spells.append {kind : Kind} {more first second : List Char}
    (begins : Spells text ⟨kind, first⟩) (goes : Spells more ⟨kind, second⟩) :
    Spells (text ++ more) ⟨kind, first ++ second⟩ := by
  intro held behind
  obtain ⟨joined, done⟩ := Token.join_append held kind first second
  rw [List.append_assoc, begins, goes, joined, done, after_after, List.append_nil]

theorem spells_opens {char : Char} (opened : opens char = some (.bare, token))
    (inside : char ≠ '\n' ∧ char ≠ ' ') : Spells [char] token := by
  intro held behind
  rw [List.singleton_append, line, if_neg inside.1, if_neg inside.2, opened]

theorem ne_of_plain {char special : Char} (plain : isPlain char = true)
    (marked : isPlain special = false) : char ≠ special := by
  rintro rfl
  rw [marked] at plain
  contradiction

theorem spells_char {char : Char} (plain : isPlain char = true) : Spells [char] (.word [char]) := by
  have bare : isOperator char = false := by
    rw [isPlain, Bool.and_eq_true, Bool.not_eq_true'] at plain
    exact plain.1
  refine spells_opens ?_ ⟨ne_of_plain plain (by decide), ne_of_plain plain (by decide)⟩
  rw [opens, if_neg (ne_of_plain plain (by decide)), if_neg (ne_of_plain plain (by decide)), bare,
    if_neg Bool.false_ne_true, if_pos plain]

theorem spells_operator_char {char : Char} (operator : isOperator char = true) :
    Spells [char] (.operator [char]) := by
  have ordinary {special : Char} (other : isOperator special = false) : char ≠ special := by
    rintro rfl
    rw [other] at operator
    contradiction
  refine spells_opens ?_ ⟨ordinary (by decide), ordinary (by decide)⟩
  rw [opens, if_neg (ordinary (by decide)), if_neg (ordinary (by decide)), if_pos operator]

/-- Text of characters that are each a piece of one kind. -/
theorem spells_each {kind : Kind} (nonempty : text ≠ [])
    (each : ∀ char ∈ text, Spells [char] ⟨kind, [char]⟩) : Spells text ⟨kind, text⟩ := by
  induction text with
  | nil => contradiction
  | cons char rest ih =>
      have first := each char List.mem_cons_self
      cases rest with
      | nil => exact first
      | cons next rest =>
          exact first.append (ih (List.cons_ne_nil _ _) fun char member =>
            each char (List.mem_cons_of_mem _ member))

theorem spells_plain (nonempty : text ≠ []) (plain : text.all isPlain = true) :
    Spells text (.word text) :=
  spells_each nonempty fun char member => spells_char (List.all_eq_true.mp plain char member)

theorem spells_operator (nonempty : text ≠ []) (operator : text.all isOperator = true) :
    Spells text (.operator text) :=
  spells_each nonempty fun char member =>
    spells_operator_char (List.all_eq_true.mp operator char member)

theorem single_quoted (held : List Char) (text behind : List Char) :
    line .single (some (.word held))
        (text.flatMap (fun char => if char = '\'' then "'\"'\"'".toList else [char]) ++
          '\'' :: behind) =
      line .bare (some (.word (held ++ text))) behind := by
  induction text generalizing held with
  | nil => simp [line]
  | cons char rest ih =>
      rw [List.flatMap_cons, List.append_assoc]
      by_cases quote : char = '\''
      · subst quote
        have step (tail : List Char) : line .single (some (.word held)) ("'\"'\"'".toList ++ tail) =
            line .single (some (.word (held ++ ['\'']))) tail := by
          simp [line, opens, Token.join]
        rw [if_pos rfl, step, ih]
        simp
      · rw [if_neg quote, List.singleton_append, line, if_neg quote, Token.join_same, ih]
        simp

theorem spells_quoted (text : List Char) : Spells (quoted text) (.word text) := by
  intro held behind
  have opened (tail : List Char) : line .bare held ('\'' :: tail) =
      .after (Token.join held (.word [])).1 (line .single (Token.join held (.word [])).2 tail) := by
    rw [line, if_neg (by decide), if_neg (by decide)]
    rfl
  obtain ⟨joined, done⟩ := Token.join_append held .word [] text
  have begun : (Token.join held (.word [])).2 = .word (Token.join held (.word [])).2.text :=
    congrArg (Token.mk · _) (Token.join_kind held (.word []))
  have whole := congrArg Prod.snd joined
  rw [begun] at whole
  rw [quoted, List.append_assoc, List.append_assoc, List.singleton_append, opened, begun,
    List.singleton_append, single_quoted, ← List.nil_append text, done, ← whole]
  simp [Token.join]

/-- The token ends at a space, at the end of the line or with the text. -/
theorem line_space (tokens : Option Token) (behind : List Char) :
    line .bare tokens (' ' :: behind) = .after tokens.toList (line .bare none behind) := by
  rw [line, if_neg (by decide), if_pos rfl]

theorem line_newline (tokens : Option Token) (behind : List Char) :
    line .bare tokens ('\n' :: behind) = some (tokens.toList, behind) := by
  rw [line, if_pos rfl]

/-- How a text ends a command line. -/
inductive Closes : List Char → List Char → Prop
  | newline (rest : List Char) : Closes ('\n' :: rest) rest
  | text : Closes [] []

/-- A line of a script ends with it, or goes on to the next. -/
theorem closes_line (text : List Char) (lines : List (List Char)) :
    ∃ behind, ['\n'].intercalate (text :: lines) = text ++ behind ∧
      Closes behind (['\n'].intercalate lines) := by
  cases lines with
  | nil => exact ⟨[], by simp, .text⟩
  | cons next lines =>
      refine ⟨'\n' :: ['\n'].intercalate (next :: lines), ?_, .newline _⟩
      rw [List.intercalate_cons_cons, List.append_assoc]
      rfl

/-- Tokens with a space between each two are read as they are. -/
theorem line_tokens {items : List (List Char × Token)} (nonempty : items ≠ [])
    (spells : ∀ item ∈ items, Spells item.1 item.2) (closes : Closes behind rest) :
    line .bare none ([' '].intercalate (items.map Prod.fst) ++ behind) =
      some (items.map Prod.snd, rest) := by
  have ends (token : Token) : line .bare (some token) behind = some ([token], rest) := by
    cases closes with
    | newline => exact line_newline _ _
    | text => rfl
  induction items with
  | nil => contradiction
  | cons item items ih =>
      have first (behind : List Char) : line .bare none (item.1 ++ behind) =
          line .bare (some item.2) behind := by
        rw [spells item List.mem_cons_self]
        simp [Token.join]
      cases items with
      | nil => simpa using (first behind).trans (ends item.2)
      | cons next items =>
          have left := ih (List.cons_ne_nil _ _) fun item member =>
            spells item (List.mem_cons_of_mem _ member)
          rw [List.map_cons, List.map_cons, List.intercalate_cons_cons, List.append_assoc,
            List.append_assoc, first, List.singleton_append, line_space, ← List.map_cons, left]
          rfl

end Shell
