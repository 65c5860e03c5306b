/-!
# Blank characters

The characters that count as white space in any script, and the removal of blanks at the ends of a
text.
-/

namespace RequestPipeline.Text

/-- White space of any script. -/
def isBlank (c : Char) : Bool :=
  let n := c.toNat
  (9 ≤ n && n ≤ 13) || n == 0x20 || n == 0x85 || n == 0xa0 || n == 0x1680 ||
    (0x2000 ≤ n && n ≤ 0x200a) || n == 0x2028 || n == 0x2029 || n == 0x202f || n == 0x205f ||
    n == 0x3000

/-- The characters without the blanks in front. -/
def trimLeft (cs : List Char) : List Char := cs.dropWhile isBlank

/-- The characters without the blanks behind. -/
def trimRight (cs : List Char) : List Char := (cs.reverse.dropWhile isBlank).reverse

/-- The characters without the blanks at either end. -/
def trimChars (cs : List Char) : List Char := trimRight (trimLeft cs)

/-- The text without the blanks at either end. -/
def trim (s : String) : String := String.ofList (trimChars s.toList)

/-- Whether a text holds nothing but blanks. -/
def allBlank (s : String) : Bool := s.toList.all isBlank

end RequestPipeline.Text
