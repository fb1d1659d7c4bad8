import Mathlib.Data.List.Basic
import Mathlib.Data.Nat.Notation

/-!
# Base64

Three bytes are four digits of six bits; one or two bytes at the end are padded.  The strict decoder
takes nothing but digits and the padding behind them.
-/

namespace Base64

/-- The digits in order. -/
def alphabet : List Char :=
  "ABCDEFGHIJKLMNOPQRSTUVWXYZabcdefghijklmnopqrstuvwxyz0123456789+/".toList

/-- The character of a digit. -/
def encodeDigit (digit : ℕ) : Char :=
  alphabet.getD digit 'A'

/-- The digit of a character. -/
def decodeDigit (char : Char) : Option ℕ :=
  alphabet.idxOf? char

/-- The digits of some bytes. -/
def digits : List UInt8 → List ℕ
  | first :: second :: third :: rest =>
      let group := (first.toNat * 256 + second.toNat) * 256 + third.toNat
      group / 262144 :: group / 4096 % 64 :: group / 64 % 64 :: group % 64 :: digits rest
  | [first, second] =>
      let group := (first.toNat * 256 + second.toNat) * 4
      [group / 4096, group / 64 % 64, group % 64]
  | [first] =>
      let group := first.toNat * 16
      [group / 64, group % 64]
  | [] => []

/-- The bytes of some digits. -/
def bytes : List ℕ → List UInt8
  | first :: second :: third :: fourth :: rest =>
      let group := ((first * 64 + second) * 64 + third) * 64 + fourth
      UInt8.ofNat (group / 65536) :: UInt8.ofNat (group / 256 % 256) ::
        UInt8.ofNat (group % 256) :: bytes rest
  | [first, second, third] =>
      let group := (first * 64 + second) * 64 + third
      [UInt8.ofNat (group / 1024), UInt8.ofNat (group / 4 % 256)]
  | [first, second] => [UInt8.ofNat ((first * 64 + second) / 16)]
  | _ => []

/-- The padding behind so many digits. -/
def padding (count : ℕ) : ℕ :=
  match count % 4 with
  | 2 => 2
  | 3 => 1
  | _ => 0

def encode (input : List UInt8) : List Char :=
  (digits input).map encodeDigit ++ List.replicate (padding (digits input).length) '='

/-- The padding is what the strict decoder admits behind so many digits.  It counts no padding
behind full groups. -/
def padded (count pads : ℕ) : Bool :=
  match count % 4 with
  | 0 => count != 0 || pads == 0
  | 1 => false
  | _ => pads == padding count

def decode (text : List Char) : Option (List UInt8) :=
  let data := text.takeWhile (· != '=')
  let pads := text.dropWhile (· != '=')
  if pads.all (· == '=') && padded data.length pads.length then
    (data.mapM decodeDigit).map bytes
  else
    none

set_option maxRecDepth 2000 in
theorem encodeDigit_ne_pad {digit : ℕ} (small : digit < 64) : encodeDigit digit ≠ '=' := by
  decide +revert

theorem decodeDigit_encodeDigit {digit : ℕ} (small : digit < 64) :
    decodeDigit (encodeDigit digit) = some digit := by
  decide +revert

theorem digits_lt (input : List UInt8) : ∀ digit ∈ digits input, digit < 64 := by
  induction input using digits.induct with
  | case1 first second third rest ih =>
      have := first.toNat_lt
      have := second.toNat_lt
      have := third.toNat_lt
      intro digit member
      simp only [digits, List.mem_cons] at member
      rcases member with rfl | rfl | rfl | rfl | member
      · omega
      · omega
      · omega
      · omega
      · exact ih digit member
  | case2 first second =>
      have := first.toNat_lt
      have := second.toNat_lt
      intro digit member
      simp only [digits, List.mem_cons, List.not_mem_nil, or_false] at member
      rcases member with rfl | rfl | rfl <;> omega
  | case3 first =>
      have := first.toNat_lt
      intro digit member
      simp only [digits, List.mem_cons, List.not_mem_nil, or_false] at member
      rcases member with rfl | rfl <;> omega
  | case4 => simp [digits]

theorem bytes_digits (input : List UInt8) : bytes (digits input) = input := by
  have same {number : ℕ} {byte : UInt8} (value : number = byte.toNat) :
      UInt8.ofNat number = byte := by
    rw [value, UInt8.ofNat_toNat]
  induction input using digits.induct with
  | case1 first second third rest ih =>
      have := first.toNat_lt
      have := second.toNat_lt
      have := third.toNat_lt
      simp only [digits, bytes, ih, List.cons.injEq, and_true]
      exact ⟨same (by omega), same (by omega), same (by omega)⟩
  | case2 first second =>
      have := first.toNat_lt
      have := second.toNat_lt
      simp only [digits, bytes, List.cons.injEq, and_true]
      exact ⟨same (by omega), same (by omega)⟩
  | case3 first =>
      have := first.toNat_lt
      simp only [digits, bytes, List.cons.injEq, and_true]
      exact same (by omega)
  | case4 => rfl

theorem length_digits_ne (input : List UInt8) : (digits input).length % 4 ≠ 1 := by
  induction input using digits.induct with
  | case1 first second third rest ih =>
      simp only [digits, List.length_cons]
      omega
  | case2 | case3 | case4 => simp [digits]

theorem padded_padding {count : ℕ} (complete : count % 4 ≠ 1) : padded count (padding count) := by
  unfold padded
  split
  · next full => simp [padding, full]
  · contradiction
  · simp

theorem mapM_decodeDigit {values : List ℕ} (small : ∀ digit ∈ values, digit < 64) :
    (values.map encodeDigit).mapM decodeDigit = some values := by
  induction values with
  | nil => rfl
  | cons digit rest ih =>
      rw [List.map_cons, List.mapM_cons, decodeDigit_encodeDigit (small digit (by simp)),
        ih fun digit member => small digit (by simp [member])]
      rfl

set_option maxRecDepth 2000 in
theorem encodeDigit_mem {digit : ℕ} (small : digit < 64) : encodeDigit digit ∈ alphabet := by
  decide +revert

theorem mem_encode {input : List UInt8} {char : Char} (member : char ∈ encode input) :
    char ∈ alphabet ∨ char = '=' := by
  rcases List.mem_append.mp member with data | pad
  · obtain ⟨digit, present, rfl⟩ := List.mem_map.mp data
    exact .inl (encodeDigit_mem (digits_lt input digit present))
  · exact .inr (List.eq_of_mem_replicate pad)

theorem decode_encode (input : List UInt8) : decode (encode input) = some input := by
  have ordinary : ∀ char ∈ (digits input).map encodeDigit, (char != '=') = true := by
    intro char member
    obtain ⟨digit, present, rfl⟩ := List.mem_map.mp member
    simpa using encodeDigit_ne_pad (digits_lt input digit present)
  have data : (encode input).takeWhile (· != '=') = (digits input).map encodeDigit := by
    rw [encode, List.takeWhile_append_of_pos ordinary]
    simp
  have pads : (encode input).dropWhile (· != '=') =
      List.replicate (padding (digits input).length) '=' := by
    rw [encode, List.dropWhile_append_of_pos ordinary]
    simp
  simp [decode, data, pads, mapM_decodeDigit (digits_lt input),
    padded_padding (length_digits_ne input), bytes_digits]

end Base64
