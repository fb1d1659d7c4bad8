import Drukbox.Codec.Base64
import Drukbox.HostSecrets.Placeholder

/-!
# Placeholders in header values

The proxy finds a placeholder after a scheme, as the password of Basic, or as the whole value.  A
byte of a header that is not UTF-8 reads as a character outside ASCII.
-/

namespace Drukbox.Proxy

/-- `str.isspace` of one character. -/
def isSpace (char : Char) : Bool :=
  char.toNat ∈ [9, 10, 11, 12, 13, 28, 29, 30, 31, 32, 133, 160, 5760, 8232, 8233, 8239,
    8287, 12288] ||
    (8192 ≤ char.toNat && char.toNat ≤ 8202)

def strip (text : List Char) : List Char :=
  Uuid.strip isSpace text

/-- `str.partition`: the texts before and after the first separator. -/
def partition (separator : Char) (text : List Char) : List Char × List Char :=
  (text.takeWhile (· != separator), (text.dropWhile (· != separator)).drop 1)

/-- `str.lower`, where it gives an ASCII character: of an ASCII letter, and of the Kelvin sign. -/
def lowerChar (char : Char) : Char :=
  if char = '\u212a' then 'k' else char.toLower

/-- A scheme in lower case, to compare it with an ASCII one. -/
def lowerScheme (scheme : List Char) : String :=
  String.ofList (scheme.map lowerChar)

def isAscii (text : List Char) : Bool :=
  text.all fun char => char.toNat < 128

def placeholderPrefix : List Char :=
  "drk.".toList

/-- The password of a Basic value.  `b64decode` raises a `ValueError` for a text outside ASCII, and
a `binascii.Error` or a `UnicodeDecodeError` leaves the empty text. -/
def basicPassword (text : List Char) : Except Failure (List Char) :=
  if isAscii text then
    match (Base64.decode text).bind fun bytes => String.fromUTF8? ⟨bytes.toArray⟩ with
    | some decoded => .ok (partition ':' decoded.toList).2
    | none => .ok []
  else
    .error { kind := .value, detail := "string argument should contain only ASCII characters" }

/-- Where a value would carry its placeholder. -/
def candidate (value : String) : Except Failure (List Char) :=
  let (scheme, rest) := partition ' ' value.toList
  if lowerScheme scheme = "bearer" ∨ lowerScheme scheme = "token" then .ok (strip rest)
  else if lowerScheme scheme = "basic" then basicPassword (strip rest)
  else .ok value.toList

/-- `placeholder_in`: the empty text where there is none. -/
def placeholderIn (value : String) : Except Failure String := do
  let candidate ← candidate value
  return if placeholderPrefix.isPrefixOf candidate ∧ candidate.count '.' = 3 then
    String.ofList candidate
  else ""

end Drukbox.Proxy
