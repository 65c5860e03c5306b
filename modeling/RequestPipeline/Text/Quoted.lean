import RequestPipeline.Text.Hidden

/-!
# Quoted texts

A text is quoted between double quotes for people to read: quotes and backslashes are escaped, the
usual control characters have letters, and whatever has no shape of its own is written by its code
point.
-/

namespace RequestPipeline.Text

/-- The hexadecimal digit of a number below 16, in lower case. -/
def hexDigit (n : Nat) : Char :=
  if n < 10 then Char.ofNat (0x30 + n) else Char.ofNat (0x57 + n)

/-- The hexadecimal digits of a number without leading zeros. -/
def hexDigits (n : Nat) : List Char := Nat.toDigits 16 n

/-- How one character is written inside a quoted text. -/
def quoteChar (c : Char) : List Char :=
  if c == '"' then ['\\', '"']
  else if c == '\\' then ['\\', '\\']
  else if c == '\n' then ['\\', 'n']
  else if c == '\r' then ['\\', 'r']
  else if c == '\t' then ['\\', 't']
  else if c.toNat == 0 then ['\\', '0']
  else if isHidden c then ['\\', 'u', '\x7b'] ++ hexDigits c.toNat ++ ['\x7d']
  else [c]

/-- The text between double quotes. -/
def quoted (s : String) : String :=
  String.ofList (['"'] ++ s.toList.flatMap quoteChar ++ ['"'])

/-- Items between square brackets, separated by a comma and a space. -/
def bracketed (items : List String) : String := "[" ++ ", ".intercalate items ++ "]"

end RequestPipeline.Text
