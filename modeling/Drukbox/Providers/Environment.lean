import Drukbox.Core

/-!
# The sandbox environment

`get_persist` writes an environment to `/etc/environment`, or refuses what `pam_env` would change.
-/

namespace Drukbox.Environment

/-- A character of a range. -/
def inRange (low high char : Char) : Bool :=
  low ≤ char && char ≤ high

/-- `_NAME_RE`: a shell identifier. -/
def isName : List Char → Bool
  | [] => false
  | head :: rest =>
      let start := fun char => inRange 'A' 'Z' char || inRange 'a' 'z' char || char == '_'
      start head && rest.all fun char => start char || inRange '0' '9' char

/-- The characters that may begin and end a value. -/
def isValueChar (char : Char) : Bool :=
  char == '!' || inRange '$' '&' char || inRange '(' '[' char || inRange ']' '~' char

/-- `VALUE_PATTERN`. -/
def isValue (value : List Char) : Bool :=
  match value with
  | [] => true
  | head :: rest =>
      isValueChar head && (rest.all fun char => isValueChar char || char == ' ') &&
        isValueChar ((head :: rest).getLastD head)

def lineLimit : ℕ := 8191

/-- The characters that `shlex.quote` leaves bare. -/
def isSafe (char : Char) : Bool :=
  inRange 'A' 'Z' char || inRange 'a' 'z' char || inRange '0' '9' char ||
    "_@%+=:,./-".toList.contains char

def quote (text : List Char) : List Char :=
  if text = [] then "''".toList
  else if text.all isSafe then text
  else
    ['\''] ++ text.flatMap (fun char => if char = '\'' then "'\"'\"'".toList else [char]) ++ ['\'']

/-- The line that appends one entry. -/
def persistLine (key value : String) : String :=
  "printf '%s\\n' " ++ String.ofList (quote (key ++ "=" ++ value).toList) ++ " >> /etc/environment"

def getPersist : Dict String → Except Failure (List String)
  | [] => .ok []
  | (key, value) :: rest => do
      if !isName key.toList then
        throw { kind := .value, detail := "invalid VM environment variable name: " ++ key }
      if !isValue value.toList then
        throw
          { kind := .value
            detail :=
              "env value must be printable ASCII without #, quotes, backslashes, " ++
                "or a space at either end: " ++ key }
      if (key ++ "=" ++ value ++ "\n").length > lineLimit then
        throw
          { kind := .value
            detail := "env entry is longer than " ++ toString lineLimit ++ " bytes: " ++ key }
      let lines ← getPersist rest
      return persistLine key value :: lines

end Drukbox.Environment
