import Drukbox.Hosts.Ownership
import Drukbox.Proxy.Placeholders

/-!
# The scan of a host's keys

`HostService.scan_known_hosts` runs `ssh-keyscan` for each address of a host, round after round, and
is ready when it finds each address somewhere in what one round printed.
-/

namespace Drukbox

namespace KnownHosts

/-- `str.encode()`. -/
def encode (text : String) : List UInt8 :=
  text.toList.flatMap String.utf8EncodeChar

/-- What one run of `ssh-keyscan` wrote. -/
structure Keyscan where
  stdout : List UInt8
  /-- `stderr.decode()`. -/
  stderr : Except Failure String

/-- One round of the loop. -/
structure Round where
  /-- The runs of the round, or the text of the `OSError` for one that could not start. -/
  runs : ℕ → Except String Keyscan
  /-- `time.monotonic()` after them. -/
  now : ℤ

/-- The addresses and ports of a host. -/
def targets (host : Host) : List (String × ℕ) :=
  ((given host.internalSshHost).map fun name => (name, 22)).toList ++
    ((given (some host.externalSshHost)).map fun name => (name, host.externalSshPort)).toList

/-- The runs of one round, from the run `number` on: what they collect, and their errors. -/
def collect (runs : ℕ → Except String Keyscan) :
    ℕ → List (String × ℕ) → Except Failure (List UInt8 × List String)
  | _, [] => .ok ([], [])
  | number, _ :: rest =>
      match runs number with
      | .error error =>
          .error { kind := .hostKeyScan, detail := "could not run ssh-keyscan: " ++ error }
      | .ok keyscan => do
          let stderr ← keyscan.stderr
          let (collected, errors) ← collect runs (number + 1) rest
          return (keyscan.stdout ++ collected,
            String.ofList (Proxy.strip stderr.toList) :: errors)

/-- `"; ".join(filter(None, errors)) or "empty output"`. -/
def detail (errors : List String) : String :=
  let text := "; ".intercalate (errors.filter (· != ""))
  if text = "" then "empty output" else text

/-- The `while` loop over the rounds so far: `none` while it goes on. -/
def scanRounds (targets : List (String × ℕ)) (deadline : ℤ) :
    List Round → Option (Except Failure (List UInt8))
  | [] => none
  | round :: rest =>
      match collect round.runs 0 targets with
      | .error failure => some (.error failure)
      | .ok (collected, errors) =>
          if ∀ target ∈ targets, encode target.1 <:+: collected then some (.ok collected)
          else if deadline ≤ round.now then
            some (.error
              { kind := .hostKeyScan
                detail := "ssh-keyscan never returned host keys: " ++ detail errors })
          else scanRounds targets deadline rest

/-- `scan_known_hosts`, with `get_vm_provider(...).bootstrap_ssh_timeout_seconds` and the clock at
its start. -/
def scanKnownHosts (timeout : Except Failure ℤ) (started : ℤ) (host : Host)
    (rounds : List Round) : Option (Except Failure (List UInt8)) :=
  match timeout with
  | .error failure => some (.error failure)
  | .ok timeout => scanRounds (targets host) (started + timeout) rounds

/-- A field of a line in a `known_hosts` file. -/
structure Field where
  bytes : List UInt8
  filled : bytes ≠ []
  /-- It has no space and no line feed. -/
  solid : ∀ byte ∈ bytes, byte ≠ 32 ∧ byte ≠ 10

/-- A key line of a `known_hosts` file. -/
structure KeyLine where
  name : Field
  keyType : Field
  key : Field

/-- The line without its line feed. -/
def KeyLine.bytes (line : KeyLine) : List UInt8 :=
  line.name.bytes ++ 32 :: (line.keyType.bytes ++ 32 :: line.key.bytes)

/-- Key lines as a file has them. -/
def text (lines : List KeyLine) : List UInt8 :=
  lines.flatMap fun line => line.bytes ++ [10]

/-- The host field of a target: `name` for port 22, `[name]:port` otherwise. -/
def hostField (target : String × ℕ) : List UInt8 :=
  if target.2 = 22 then encode target.1
  else encode ("[" ++ target.1 ++ "]:" ++ toString target.2)

/-- A run of `ssh-keyscan` for the target prints only key lines for it.  `keys` are the key types
and keys that a server can have. -/
def Prints (keys : Field → Field → Prop) (target : String × ℕ) (stdout : List UInt8) : Prop :=
  ∃ lines : List KeyLine, (∀ line ∈ lines,
    line.name.bytes = hostField target ∧ keys line.keyType line.key) ∧ stdout = text lines

/-- Each run of the round prints only key lines for its own target. -/
def Round.Honest (keys : Field → Field → Prop) (targets : List (String × ℕ)) (round : Round) :
    Prop :=
  ∀ number target keyscan, targets[number]? = some target → round.runs number = .ok keyscan →
    Prints keys target keyscan.stdout

/-- A key line of the file names the target. -/
def Names (file : List UInt8) (target : String × ℕ) : Prop :=
  ∃ line : KeyLine, line.bytes ∈ file.splitOn 10 ∧ line.name.bytes = hostField target

/-- What a scan returns names every target, and one round printed it. -/
def Complete (keys : Field → Field → Prop) (host : Host) : Prop :=
  ∀ timeout started rounds file,
    (∀ round ∈ rounds, Round.Honest keys (targets host) round) →
      scanKnownHosts timeout started host rounds = some (.ok file) →
        (∀ target ∈ targets host, Names file target) ∧
          ∃ round ∈ rounds, ∃ errors, collect round.runs 0 (targets host) = .ok (file, errors)

/-- What a scan of the target can print has the address in it. -/
def Mentions (keys : Field → Field → Prop) (target : String × ℕ) (address : String) : Prop :=
  ∃ stdout, Prints keys target stdout ∧ encode address <:+: stdout

theorem KeyLine.unbroken (line : KeyLine) : ∀ byte ∈ line.bytes, (byte == 10) = false := by
  intro byte member
  have solid : byte ∈ line.name.bytes ∨ byte = 32 ∨ byte ∈ line.keyType.bytes ∨
      byte = 32 ∨ byte ∈ line.key.bytes := by
    simpa only [KeyLine.bytes, List.mem_append, List.mem_cons, or_assoc] using member
  rcases solid with named | rfl | typed | rfl | keyed
  · simpa using (line.name.solid byte named).2
  · rfl
  · simpa using (line.keyType.solid byte typed).2
  · rfl
  · simpa using (line.key.solid byte keyed).2

/-- The host field of a line is what stands before its first space. -/
theorem KeyLine.takeWhile_bytes (line : KeyLine) :
    line.bytes.takeWhile (· != 32) = line.name.bytes := by
  have solid : ∀ byte ∈ line.name.bytes, (byte != 32) = true := fun byte member =>
    bne_iff_ne.mpr (line.name.solid byte member).1
  rw [KeyLine.bytes, List.takeWhile_append_of_pos solid, List.takeWhile_cons_of_neg (by decide),
    List.append_nil]

theorem splitOn_text (lines : List KeyLine) :
    (text lines).splitOn 10 = lines.map KeyLine.bytes ++ [[]] := by
  induction lines with
  | nil => rfl
  | cons line rest ih =>
      have split := List.splitOnP_append_cons_of_forall_mem line.unbroken 10 rfl (text rest)
      rw [text, List.flatMap_cons, List.append_assoc, List.singleton_append, List.map_cons,
        List.cons_append, ← ih]
      exact split

/-- A file of key lines names the targets of its lines. -/
theorem names_text {lines : List KeyLine} {target : String × ℕ} :
    Names (text lines) target ↔ ∃ line ∈ lines, line.name.bytes = hostField target := by
  simp only [Names, splitOn_text, List.mem_append, List.mem_map, List.mem_singleton]
  constructor
  · rintro ⟨line, ⟨listed, member, same⟩ | blank, named⟩
    · refine ⟨listed, member, ?_⟩
      rw [← named, ← listed.takeWhile_bytes, same, line.takeWhile_bytes]
    · rw [KeyLine.bytes, List.append_eq_nil_iff] at blank
      exact absurd blank.1 line.name.filled
  · rintro ⟨line, member, named⟩
    exact ⟨line, .inl ⟨line, member, rfl⟩, named⟩

section Scan

variable {keys : Field → Field → Prop} {target other : String × ℕ} {host : Host}
  {addresses : List (String × ℕ)} {deadline : ℤ} {rounds : List Round} {file : List UInt8}

/-- What the loop returns is what one of its rounds collected, and has every address in it. -/
theorem scanRounds_ok (ended : scanRounds addresses deadline rounds = some (.ok file)) :
    ∃ round ∈ rounds, (∃ errors, collect round.runs 0 addresses = .ok (file, errors)) ∧
      ∀ target ∈ addresses, encode target.1 <:+: file := by
  induction rounds with
  | nil => cases ended
  | cons round rest ih =>
      rw [scanRounds] at ended
      cases collected : collect round.runs 0 addresses with
      | error failure =>
          rw [collected] at ended
          cases ended
      | ok found =>
          rw [collected] at ended
          dsimp only at ended
          split at ended
          · next ready =>
              obtain rfl := Except.ok.inj (Option.some.inj ended)
              exact ⟨round, List.mem_cons_self, ⟨found.2, collected⟩, ready⟩
          · split at ended
            · cases ended
            · obtain ⟨later, member, found⟩ := ih ended
              exact ⟨later, List.mem_cons_of_mem _ member, found⟩

/-- A run prints nothing, or a line that names its target. -/
theorem Prints.names (prints : Prints keys target file) (printed : file ≠ []) :
    Names file target := by
  obtain ⟨lines, own, rfl⟩ := prints
  cases lines with
  | nil => exact absurd rfl printed
  | cons line rest =>
      exact names_text.mpr ⟨line, List.mem_cons_self, (own line List.mem_cons_self).1⟩

theorem encode_ne_nil {name : String} (filled : name ≠ "") : encode name ≠ [] := by
  obtain ⟨char, rest, same⟩ := List.exists_cons_of_ne_nil
    (fun empty => filled (String.toList_eq_nil_iff.mp empty) : name.toList ≠ [])
  rw [encode, same, List.flatMap_cons]
  intro empty
  have encoded := String.length_utf8EncodeChar char
  rw [(List.append_eq_nil_iff.mp empty).1] at encoded
  exact absurd encoded.symm (Char.utf8Size_pos char).ne'

theorem filled_of_mem (member : target ∈ targets host) : target.1 ≠ "" := by
  simp only [targets, given, List.mem_append, Option.mem_toList, Option.map_eq_some_iff,
    Option.filter_eq_some_iff, bne_iff_ne] at member
  rcases member with ⟨name, ⟨-, filled⟩, rfl⟩ | ⟨name, ⟨-, filled⟩, rfl⟩
  · exact filled
  · exact filled

theorem targets_cases (host : Host) :
    targets host = [] ∨ (∃ target, targets host = [target]) ∨
      ∃ target other, targets host = [target, other] := by
  rw [targets]
  cases given host.internalSshHost <;> cases given (some host.externalSshHost)
  · exact .inl rfl
  · exact .inr (.inl ⟨_, rfl⟩)
  · exact .inr (.inl ⟨_, rfl⟩)
  · exact .inr (.inr ⟨_, _, rfl⟩)

theorem targets_pair (member : target ∈ targets host) (other_member : other ∈ targets host)
    (different : target ≠ other) :
    targets host = [target, other] ∨ targets host = [other, target] := by
  rcases targets_cases host with none | ⟨single, one⟩ | ⟨first, second, both⟩
  · rw [none] at member
    cases member
  · rw [one, List.mem_singleton] at member other_member
    exact absurd (member.trans other_member.symm) different
  · rw [both, List.mem_pair] at member other_member
    rw [both]
    rcases member with rfl | rfl <;> rcases other_member with rfl | rfl
    · exact absurd rfl different
    · exact .inl rfl
    · exact .inr rfl
    · exact absurd rfl different

/-- A round that collects has run every target. -/
theorem collect_cons {runs : ℕ → Except String Keyscan} {number : ℕ} {errors : List String}
    (collected : collect runs number (target :: addresses) = .ok (file, errors)) :
    ∃ keyscan later others, runs number = .ok keyscan ∧
      collect runs (number + 1) addresses = .ok (later, others) ∧
        file = keyscan.stdout ++ later := by
  rw [collect] at collected
  cases run : runs number with
  | error error => rw [run] at collected; cases collected
  | ok keyscan =>
      rw [run] at collected
      dsimp only at collected
      cases decoded : keyscan.stderr with
      | error failure => rw [decoded] at collected; cases collected
      | ok stderr =>
          rw [decoded] at collected
          cases rest : collect runs (number + 1) addresses with
          | error failure => rw [rest] at collected; cases collected
          | ok found =>
              rw [rest] at collected
              obtain ⟨rfl, -⟩ := Prod.mk.inj (Except.ok.inj collected)
              exact ⟨keyscan, found.1, found.2, rfl, rfl, rfl⟩

/-- What one round collects is what its runs print. -/
theorem collect_ok {runs : ℕ → Except String Keyscan} {number : ℕ} {errors : List String}
    (honest : ∀ place target keyscan, addresses[place]? = some target →
      runs (number + place) = .ok keyscan → Prints keys target keyscan.stdout)
    (collected : collect runs number addresses = .ok (file, errors)) :
    ∃ stdouts, List.Forall₂ (Prints keys) addresses stdouts ∧ file = stdouts.flatten := by
  induction addresses generalizing number file errors with
  | nil =>
      obtain ⟨rfl, rfl⟩ := Prod.mk.inj (Except.ok.inj collected)
      exact ⟨[], .nil, rfl⟩
  | cons target rest ih =>
      obtain ⟨keyscan, later, others, run, collected_rest, rfl⟩ := collect_cons collected
      have honest_rest (place : ℕ) (other : String × ℕ) (ran_keyscan : Keyscan)
          (at_place : rest[place]? = some other)
          (ran : runs (number + 1 + place) = .ok ran_keyscan) :
          Prints keys other ran_keyscan.stdout := by
        refine honest (place + 1) other ran_keyscan at_place ?_
        rwa [Nat.add_assoc, Nat.add_comm 1] at ran
      obtain ⟨stdouts, printed, rfl⟩ := ih honest_rest collected_rest
      exact ⟨keyscan.stdout :: stdouts, .cons (honest 0 target keyscan rfl run) printed, rfl⟩

theorem names_append {left right : List UInt8} {named : String × ℕ}
    (first : Prints keys target left) (second : Prints keys other right) :
    Names (left ++ right) named ↔ Names left named ∨ Names right named := by
  obtain ⟨left_lines, -, rfl⟩ := first
  obtain ⟨right_lines, -, rfl⟩ := second
  have joined : text left_lines ++ text right_lines = text (left_lines ++ right_lines) :=
    List.flatMap_append.symm
  rw [joined, names_text, names_text, names_text]
  simp only [List.mem_append, or_and_right, exists_or]

/-- Where the other target cannot print the address, the target's own run has printed a line. -/
theorem names_of_found {mine theirs : List UInt8} (filled : target.1 ≠ "")
    (clear : hostField other ≠ hostField target → ¬ Mentions keys other target.1)
    (printed : Prints keys target mine) (other_printed : Prints keys other theirs)
    (found : mine = [] → encode target.1 <:+: theirs) :
    Names mine target ∨ Names theirs target := by
  by_cases silent : mine = []
  · have within := found silent
    have loud : theirs ≠ [] := fun empty => encode_ne_nil filled (by simpa [empty] using within)
    by_cases same : hostField other = hostField target
    · obtain ⟨line, member, named⟩ := other_printed.names loud
      exact .inr ⟨line, member, named.trans same⟩
    · exact absurd ⟨theirs, other_printed, within⟩ (clear same)
  · exact .inl (printed.names silent)

/-- Where no address occurs in what can be printed for another, the scan is complete. -/
theorem complete_of_clear
    (clear : ∀ target ∈ targets host, ∀ other ∈ targets host,
      hostField other ≠ hostField target → ¬ Mentions keys other target.1) :
    Complete keys host := by
  intro timeout started rounds file honest ended
  cases timeout with
  | error failure => cases ended
  | ok timeout =>
  obtain ⟨round, member, ⟨errors, collected⟩, found⟩ := scanRounds_ok ended
  refine ⟨?_, round, member, errors, collected⟩
  obtain ⟨stdouts, printed, same⟩ := collect_ok
    (fun place target keyscan at_place ran =>
      honest round member place target keyscan at_place (by rwa [Nat.zero_add] at ran)) collected
  have filled (target : String × ℕ) (member : target ∈ targets host) : target.1 ≠ "" :=
    filled_of_mem member
  rcases targets_cases host with none | ⟨single, one⟩ | ⟨first, second, both⟩
  · rw [none]
    rintro target ⟨⟩
  · rw [one] at printed found filled ⊢
    obtain ⟨mine, _, prints, none, rfl⟩ := List.forall₂_cons_left_iff.mp printed
    obtain rfl := List.forall₂_nil_left_iff.mp none
    rw [List.flatten_singleton] at same
    subst same
    intro target member
    obtain rfl := List.mem_singleton.mp member
    refine prints.names fun empty => encode_ne_nil (filled target member) ?_
    exact List.infix_nil.mp (empty ▸ found target member)
  · have first_mem : first ∈ targets host := by simp [both]
    have second_mem : second ∈ targets host := by simp [both]
    have first_clear := clear first first_mem second second_mem
    have second_clear := clear second second_mem first first_mem
    have first_filled := filled first first_mem
    have second_filled := filled second second_mem
    rw [both] at printed found ⊢
    obtain ⟨left, _, prints, tail, rfl⟩ := List.forall₂_cons_left_iff.mp printed
    obtain ⟨right, _, second_prints, none, rfl⟩ := List.forall₂_cons_left_iff.mp tail
    obtain rfl := List.forall₂_nil_left_iff.mp none
    rw [List.flatten_cons, List.flatten_singleton] at same
    subst same
    intro target member
    rw [names_append prints second_prints]
    obtain rfl | rfl := List.mem_pair.mp member
    · exact names_of_found first_filled first_clear prints second_prints
        fun empty => by simpa [empty] using found target member
    · refine (names_of_found second_filled second_clear second_prints prints ?_).symm
      exact fun empty => by simpa [empty] using found target member

/-- A key line for a target has the address of the target in its host field. -/
theorem infix_hostField (target : String × ℕ) : encode target.1 <:+: hostField target := by
  rw [hostField]
  split
  · exact List.infix_rfl
  · refine ⟨encode "[", encode ("]:" ++ toString target.2), ?_⟩
    simp [encode, String.toList_append]

theorem Prints.infix (prints : Prints keys target file) (printed : file ≠ []) :
    encode target.1 <:+: file := by
  obtain ⟨lines, own, rfl⟩ := prints
  cases lines with
  | nil => exact absurd rfl printed
  | cons line rest =>
      have named := (own line List.mem_cons_self).1
      refine (infix_hostField target).trans ⟨[], ?_, ?_⟩
      · exact 32 :: (line.keyType.bytes ++ 32 :: line.key.bytes) ++ [10] ++ text rest
      · simp [text, KeyLine.bytes, named]

/-- One target stays silent and the other prints its address: the scan returns without a line for
it. -/
theorem not_complete_of_mentions (target other : String × ℕ) (member : target ∈ targets host)
    (other_member : other ∈ targets host) (different : hostField other ≠ hostField target)
    (mentions : Mentions keys other target.1) : ¬ Complete keys host := by
  intro complete
  obtain ⟨stdout, prints, within⟩ := mentions
  have loud : stdout ≠ [] := fun empty =>
    encode_ne_nil (filled_of_mem member) (List.infix_nil.mp (empty ▸ within))
  have apart : target ≠ other := fun same => different (same ▸ rfl)
  let round : Round :=
    { runs := fun number => .ok
        { stdout := if (targets host)[number]? = some other then stdout else []
          stderr := .ok "" }
      now := 0 }
  have honest : round.Honest keys (targets host) := by
    rintro number named keyscan at_place ⟨⟩
    dsimp only
    split
    · next scanned =>
        obtain rfl : named = other := Option.some.inj (at_place.symm.trans scanned)
        exact prints
    · exact ⟨[], nofun, rfl⟩
  have returned : scanKnownHosts (.ok 0) 0 host [round] = some (.ok stdout) := by
    have found := prints.infix loud
    rcases targets_pair member other_member apart with both | both
    · simp [scanKnownHosts, scanRounds, collect, round, both, apart, within, found,
        bind, Except.bind,
        pure, Except.pure]
    · simp [scanKnownHosts, scanRounds, collect, round, both, apart, within, found,
        bind, Except.bind,
        pure, Except.pure]
  have named := (complete _ _ _ _ (by simpa using honest) returned).1 target member
  obtain ⟨lines, own, rfl⟩ := prints
  obtain ⟨line, listed, same⟩ := names_text.mp named
  exact different ((own line listed).1.symm.trans same)

/-- A text without the separator is not cut by it. -/
theorem infix_append_cons {needle left right : List UInt8} {separator : UInt8}
    (whole : separator ∉ needle) :
    needle <:+: left ++ separator :: right ↔ needle <:+: left ∨ needle <:+: right := by
  constructor
  · rintro ⟨front, back, same⟩
    rw [List.append_assoc] at same
    rcases List.append_eq_append_iff.mp same with ⟨tail, rfl, rest⟩ | ⟨tail, rfl, rest⟩
    · rcases List.append_eq_append_iff.mp rest with ⟨after, rfl, -⟩ | ⟨after, rfl, cut⟩
      · exact .inl ⟨front, after, by rw [List.append_assoc]⟩
      · cases after with
        | nil => exact .inl ⟨front, [], by simp⟩
        | cons byte after =>
            obtain ⟨rfl, -⟩ := List.cons.inj cut
            simp at whole
    · cases tail with
      | nil =>
          cases needle with
          | nil => exact .inr (List.nil_infix)
          | cons byte needle =>
              obtain ⟨rfl, -⟩ := List.cons.inj rest
              simp at whole
      | cons byte tail =>
          obtain ⟨-, rfl⟩ := List.cons.inj rest
          exact .inr ⟨tail, back, List.append_assoc ..⟩
  · rintro (⟨front, back, rfl⟩ | ⟨front, back, rfl⟩)
    · exact ⟨front, back ++ separator :: right, by simp⟩
    · exact ⟨left ++ separator :: front, back, by simp⟩

theorem infix_text {needle : List UInt8} {lines : List KeyLine} (filled : needle ≠ [])
    (whole : 10 ∉ needle) : needle <:+: text lines ↔ ∃ line ∈ lines, needle <:+: line.bytes := by
  induction lines with
  | nil => simpa [text] using filled
  | cons line rest ih =>
      have first : text (line :: rest) = line.bytes ++ 10 :: text rest := by simp [text]
      rw [first, infix_append_cons whole, ih]
      simp only [List.mem_cons, exists_eq_or_imp]

/-- An address without white space occurs in the host field, in a key type or in a key. -/
theorem mentions_iff {address : String} (filled : address ≠ "")
    (solid : ∀ byte ∈ encode address, byte ≠ 32 ∧ byte ≠ 10) :
    Mentions keys target address ↔ ∃ line : KeyLine, line.name.bytes = hostField target ∧
      keys line.keyType line.key ∧ (encode address <:+: hostField target ∨
        encode address <:+: line.keyType.bytes ∨ encode address <:+: line.key.bytes) := by
  have unspaced : 32 ∉ encode address := fun member => (solid 32 member).1 rfl
  have unbroken : 10 ∉ encode address := fun member => (solid 10 member).2 rfl
  have within (line : KeyLine) : encode address <:+: line.bytes ↔
      encode address <:+: line.name.bytes ∨ encode address <:+: line.keyType.bytes ∨
        encode address <:+: line.key.bytes := by
    rw [KeyLine.bytes, infix_append_cons unspaced, infix_append_cons unspaced]
  constructor
  · rintro ⟨_, ⟨lines, own, rfl⟩, found⟩
    obtain ⟨line, member, found⟩ := (infix_text (encode_ne_nil filled) unbroken).mp found
    obtain ⟨named, keyed⟩ := own line member
    exact ⟨line, named, keyed, named ▸ (within line).mp found⟩
  · rintro ⟨line, named, keyed, found⟩
    refine ⟨text [line], ⟨[line], ?_, rfl⟩, ?_⟩
    · intro other member
      obtain rfl := List.mem_singleton.mp member
      exact ⟨named, keyed⟩
    · refine (infix_text (encode_ne_nil filled) unbroken).mpr ⟨line, List.mem_singleton_self _, ?_⟩
      exact (within line).mpr (named ▸ found)

/-- Every scan of a host is complete exactly when nothing that can be printed for one of its targets
contains the address of another. -/
theorem scanKnownHosts_complete_iff (keys : Field → Field → Prop) (host : Host) :
    Complete keys host ↔
      ∀ target ∈ targets host, ∀ other ∈ targets host,
        hostField other ≠ hostField target → ¬ Mentions keys other target.1 :=
  ⟨fun complete _ member _ other_member different mentions =>
    not_complete_of_mentions _ _ member other_member different mentions complete, complete_of_clear⟩

end Scan

/-- A sandbox whose name ends with the name of the gateway's machine. -/
def nested : Host :=
  { Host.sample 1 with
    internalSshHost := some "sandbox.example.ts.net"
    externalSshHost := "box.example.ts.net"
    externalSshPort := 2222 }

/-- The internal address answers, and the gateway does not: the scan returns. -/
theorem scanKnownHosts_incomplete :
    ¬ Complete (fun keyType key => keyType.bytes = encode "ssh-ed25519" ∧
      key.bytes = encode "AAAAC3NzaC1lZDI1NTE5AAAAIJqk") nested := by
  let line : KeyLine :=
    { name := ⟨encode "sandbox.example.ts.net", by decide, by decide +kernel⟩
      keyType := ⟨encode "ssh-ed25519", by decide, by decide +kernel⟩
      key := ⟨encode "AAAAC3NzaC1lZDI1NTE5AAAAIJqk", by decide, by decide +kernel⟩ }
  refine not_complete_of_mentions ("box.example.ts.net", 2222) ("sandbox.example.ts.net", 22)
    (by decide) (by decide) (by decide) ?_
  refine ⟨text [line], ⟨[line], ?_, rfl⟩, ?_⟩
  · intro other member
    obtain rfl := List.mem_singleton.mp member
    exact ⟨rfl, rfl, rfl⟩
  · decide

end KnownHosts

end Drukbox
