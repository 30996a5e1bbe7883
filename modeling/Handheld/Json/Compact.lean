import Handheld.Json.Basic
import Handheld.Text.Hex
import Handheld.Number.Notation

/-!
# Compact JSON text

The one-line form of a value: no blanks, members in order, and only those characters escaped
that must be.
-/

namespace Handheld.Json

/-- The text of a character inside quotes. -/
def escaped (c : Char) : List Char :=
  if c = '"' then ['\\', '"']
  else if c = '\\' then ['\\', '\\']
  else if c = '\n' then ['\\', 'n']
  else if c = '\r' then ['\\', 'r']
  else if c = '\t' then ['\\', 't']
  else if c.toNat = 8 then ['\\', 'b']
  else if c.toNat = 12 then ['\\', 'f']
  else if c.toNat < 32 then
    ['\\', 'u', '0', '0', Text.hexDigit (c.toNat / 16), Text.hexDigit (c.toNat % 16)]
  else [c]

def quoted (s : String) : String :=
  "\"" ++ String.ofList (s.toList.flatMap escaped) ++ "\""

def Number.compact : Number → String
  | .whole n => Int.repr n
  | .real x => Handheld.Number.Layout.compact.text x

mutual

/-- Adds the one-line form of a value to a text. -/
def write (out : String) : Json → String
  | .null => out ++ "null"
  | .bool b => out ++ if b then "true" else "false"
  | .number n => out ++ n.compact
  | .text s => out ++ quoted s
  | .list items => writeItems (out ++ "[") items ++ "]"
  | .object members => writeMembers (out ++ "\x7b") members ++ "\x7d"

def writeItems (out : String) : List Json → String
  | [] => out
  | [v] => write out v
  | v :: vs => writeItems (write out v ++ ",") vs

def writeMembers (out : String) : List (String × Json) → String
  | [] => out
  | [(key, v)] => write (out ++ quoted key ++ ":") v
  | (key, v) :: ms => writeMembers (write (out ++ quoted key ++ ":") v ++ ",") ms

end

/-- The one-line form of a value. -/
def compact (v : Json) : String :=
  write "" v

end Handheld.Json
