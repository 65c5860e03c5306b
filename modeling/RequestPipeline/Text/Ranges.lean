/-!
# Tables of code points

A character class of a standard is kept as a list of closed ranges of code points.
-/

namespace RequestPipeline.Text

/-- Closed ranges of code points, in ascending order. -/
abbrev Ranges := List (Nat × Nat)

/-- Whether some range of the table covers the character. -/
def Ranges.holds (table : Ranges) (c : Char) : Bool :=
  table.any fun range => range.1 ≤ c.toNat && c.toNat ≤ range.2

end RequestPipeline.Text
