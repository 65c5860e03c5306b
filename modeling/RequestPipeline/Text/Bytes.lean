/-!
# Positions in bytes

A position in a text may be counted in the bytes of its encoding, where a character takes one to
four of them.
-/

namespace RequestPipeline.Text

/-- The number of bytes of a text. -/
def byteLength : List Char → Nat
  | [] => 0
  | c :: rest => c.utf8Size + byteLength rest

/-- The characters behind so many bytes. -/
def dropBytes : Nat → List Char → List Char
  | 0, cs => cs
  | _, [] => []
  | n + 1, c :: rest => dropBytes (n + 1 - c.utf8Size) rest

/-- The characters of so many bytes in front. -/
def takeBytes : Nat → List Char → List Char
  | 0, _ => []
  | _, [] => []
  | n + 1, c :: rest => c :: takeBytes (n + 1 - c.utf8Size) rest

end RequestPipeline.Text
