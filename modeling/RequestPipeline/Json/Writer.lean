import RequestPipeline.Json.Basic
import RequestPipeline.Text.Quoted

/-!
# Compact JSON text

A value is written without spaces, the members of an object in the order they are kept in. Inside a
string only the quote, the backslash and control characters are escaped.
-/

namespace RequestPipeline.Json

/-- How one character is written inside a JSON string. -/
def escapeChar (c : Char) : List Char :=
  if c == '"' then ['\\', '"']
  else if c == '\\' then ['\\', '\\']
  else if c == '\n' then ['\\', 'n']
  else if c == '\r' then ['\\', 'r']
  else if c == '\t' then ['\\', 't']
  else if c.toNat == 8 then ['\\', 'b']
  else if c.toNat == 12 then ['\\', 'f']
  else if c.toNat < 0x20 then
    ['\\', 'u', '0', '0', Text.hexDigit (c.toNat / 16), Text.hexDigit (c.toNat % 16)]
  else [c]

/-- A text as a JSON string. -/
def writeString (s : String) : List Char := '"' :: s.toList.flatMap escapeChar ++ ['"']

/-- The text of a number. -/
def writeNumber : Number → List Char
  | .int n => (toString n).toList
  | .real x => x.text.toList

mutual

/-- The characters of a value. -/
def write : Json → List Char
  | .null => ['n', 'u', 'l', 'l']
  | .bool true => ['t', 'r', 'u', 'e']
  | .bool false => ['f', 'a', 'l', 's', 'e']
  | .num n => writeNumber n
  | .str s => writeString s
  | .arr [] => ['[', ']']
  | .arr (item :: rest) => '[' :: write item ++ writeItems rest ++ [']']
  | .obj [] => ['\x7b', '\x7d']
  | .obj ((name, value) :: rest) =>
    '\x7b' :: writeString name ++ ':' :: write value ++ writeMembers rest ++ ['\x7d']

/-- The items behind the first, each behind a comma. -/
def writeItems : List Json → List Char
  | [] => []
  | item :: rest => ',' :: write item ++ writeItems rest

/-- The members behind the first, each behind a comma. -/
def writeMembers : List (String × Json) → List Char
  | [] => []
  | (name, value) :: rest =>
    ',' :: writeString name ++ ':' :: write value ++ writeMembers rest

end

/-- The compact text of a value. -/
def compact (j : Json) : String := String.ofList j.write

end RequestPipeline.Json
