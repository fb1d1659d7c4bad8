import Drukbox.Core

/-!
# Placeholders

A placeholder names its box and its service, so no lookup table exists.  The entry of the host
keeps only the fingerprint of its random part.
-/

namespace Drukbox

/-- A UUID as the integer that it denotes. -/
abbrev HostId := ℕ

namespace Uuid

/-- One lower-case hexadecimal digit. -/
def hexDigit (digit : ℕ) : Char :=
  "0123456789abcdef".toList.getD digit '0'

/-- The last `width` hexadecimal digits of a number. -/
def hexDigits : ℕ → ℕ → List Char
  | 0, _ => []
  | width + 1, number => hexDigits width (number / 16) ++ [hexDigit (number % 16)]

def hex (id : HostId) : List Char :=
  hexDigits 32 id

/-- The value of a hexadecimal digit.  A header is read as Latin-1, where Python's `int` knows no
digits but these. -/
def digitValue (char : Char) : Option ℕ :=
  if '0' ≤ char ∧ char ≤ '9' then some (char.toNat - '0'.toNat)
  else if 'a' ≤ char ∧ char ≤ 'f' then some (char.toNat - 'a'.toNat + 10)
  else if 'A' ≤ char ∧ char ≤ 'F' then some (char.toNat - 'A'.toNat + 10)
  else none

/-- The Latin-1 characters that `int` ignores around a literal. -/
def isSpace (char : Char) : Bool :=
  char.toNat ∈ [9, 10, 11, 12, 13, 32, 133, 160]

/-- Remove a class of characters from both ends. -/
def strip (drop : Char → Bool) (text : List Char) : List Char :=
  ((text.dropWhile drop).reverse.dropWhile drop).reverse

/-- The digits of an `int` literal: single underscores may stand between two digits. -/
def parseDigits : ℕ → List Char → Option ℕ
  | value, [] => some value
  | value, '_' :: char :: rest => do
      let digit ← digitValue char
      parseDigits (value * 16 + digit) rest
  | value, char :: rest => do
      let digit ← digitValue char
      parseDigits (value * 16 + digit) rest

/-- The unsigned part of `int(text, 16)`, after an optional `0x`. -/
def parseUnsigned (text : List Char) : Option ℕ :=
  let digits := match text with
    | '0' :: 'x' :: '_' :: rest => rest
    | '0' :: 'X' :: '_' :: rest => rest
    | '0' :: 'x' :: rest => rest
    | '0' :: 'X' :: rest => rest
    | _ => text
  match digits with
  | [] => none
  | char :: rest => do
      let digit ← digitValue char
      parseDigits digit rest

/-- `int(text, 16)` for a text without a minus sign. -/
def parseInt16 (text : List Char) : Option ℕ :=
  match strip isSpace text with
  | '+' :: rest => parseUnsigned rest
  | rest => parseUnsigned rest

/-- Remove every occurrence of a nonempty pattern, left to right, as `str.replace(old, "")`. -/
def erase (head : Char) (tail : List Char) : ℕ → List Char → List Char
  | 0, text => text
  | _ + 1, [] => []
  | fuel + 1, char :: rest =>
      if (head :: tail).isPrefixOf (char :: rest) then erase head tail fuel (rest.drop tail.length)
      else char :: erase head tail fuel rest

/-- `uuid.UUID(text)`: `none` is its `ValueError`. -/
def parse (text : List Char) : Option HostId :=
  let text := erase 'u' "rn:".toList text.length text
  let text := erase 'u' "uid:".toList text.length text
  let digits := (strip (fun char => char == '{' || char == '}') text).filter (· != '-')
  if digits.length = 32 then parseInt16 digits else none

end Uuid

structure Placeholder where
  hostId : HostId
  service : String
  secret : String
  deriving DecidableEq, Repr

namespace Placeholder

/-- `_PREFIX`. -/
def marker : String := "drk"

/-- `str(placeholder)`. -/
def toText (placeholder : Placeholder) : String :=
  marker ++ "." ++ String.ofList (Uuid.hex placeholder.hostId) ++ "." ++ placeholder.service ++
    "." ++ placeholder.secret

def removePrefix (front text : List Char) : List Char :=
  if front.isPrefixOf text then text.drop front.length else text

/-- `Placeholder.read`: `none` is its `ValueError`. -/
def read (authorization : String) : Option Placeholder :=
  match (removePrefix "Bearer ".toList authorization.toList).splitOn '.' with
  | [front, hostHex, service, secret] =>
      if front = marker.toList then
        (Uuid.parse hostHex).map fun hostId =>
          { hostId, service := String.ofList service, secret := String.ofList secret }
      else
        none
  | _ => none

/-- `Placeholder.fingerprint`, for the hash that `hashlib.sha256(...).hexdigest()` computes. -/
def fingerprint (sha256 : String → String) (placeholder : Placeholder) : String :=
  sha256 placeholder.secret

end Placeholder

end Drukbox
