import RequestPipeline.Json.Reader

/-!
# Numbers in documents of tables

An integer has 64 bits and is written in one of four bases, a fraction in base ten with a point or
an exponent. Single underscores may stand between digits.
-/

namespace RequestPipeline.Toml

/-- The digits of a text in which single underscores may stand between digits. -/
def digitsBetween (isDigit : Char → Bool) : List Char → Option (List Char)
  | [] => none
  | [c] => if isDigit c then some [c] else none
  | c :: '_' :: rest =>
    if isDigit c then (digitsBetween isDigit rest).map fun ds => c :: ds else none
  | c :: rest =>
    if isDigit c then (digitsBetween isDigit rest).map fun ds => c :: ds else none

/-- The number that digits write in a base. -/
def numeral (base : Nat) (ds : List Char) : Nat :=
  ds.foldl (fun n c => n * base + ((Json.hexDigit? c).getD 0)) 0

/-- Decimal digits without a needless zero in front. -/
def wholeDigits? (cs : List Char) : Option (List Char) :=
  (digitsBetween Char.isDigit cs).filter fun ds => ds.length ≤ 1 || ds.head? != some '0'

/-- A text behind its sign, and whether the sign is a minus. -/
def splitSign : List Char → Bool × List Char
  | '+' :: rest => (false, rest)
  | '-' :: rest => (true, rest)
  | cs => (false, cs)

/-! ## Integers -/

/-- The number of digits in a base that is not ten. -/
def based? (base : Nat) (isDigit : Char → Bool) (cs : List Char) : Option Int := do
  let ds ← digitsBetween isDigit cs
  let n := numeral base ds
  if n < Number.signedLimit then return n else none

/-- The number of decimal digits. -/
def decimal? (negative : Bool) (cs : List Char) : Option Int := do
  let ds ← wholeDigits? cs
  let n := numeral 10 ds
  if negative then if n ≤ Number.signedLimit then return -n else none
  else if n < Number.signedLimit then return n
  else none

/-- The integer that a word writes. -/
def integer? (word : List Char) : Option Int :=
  match word with
  | '0' :: 'x' :: rest => based? 16 (fun c => (Json.hexDigit? c).isSome) rest
  | '0' :: 'o' :: rest => based? 8 (fun c => '0' ≤ c && c ≤ '7') rest
  | '0' :: 'b' :: rest => based? 2 (fun c => c == '0' || c == '1') rest
  | cs =>
    let (negative, digits) := splitSign cs
    decimal? negative digits

/-! ## Fractions -/

/-- The least magnitude that rounds to no finite value of 64 bits: half a step above the greatest
one. -/
def firstInfinite : Nat := (Nat.pow 2 54 - 1) * Nat.pow 2 970

/-- Whether `digits * 10 ^ exponent` has no finite value of 64 bits next to it. -/
def isInfinite (digits : Nat) (exponent : Int) : Bool :=
  let places := (Nat.toDigits 10 digits).length + exponent
  -- only where the number of places does not decide are powers of ten worth computing
  if digits = 0 || places < 309 then false
  else if places > 309 then true
  else if exponent ≥ 0 then digits * Nat.pow 10 exponent.toNat ≥ firstInfinite
  else digits ≥ firstInfinite * Nat.pow 10 (-exponent).toNat

/-- The number that an exponent writes. -/
def exponent? (cs : List Char) : Option Int :=
  let (negative, digits) := splitSign cs
  (digitsBetween Char.isDigit digits).map fun ds =>
    if negative then -(numeral 10 ds : Int) else numeral 10 ds

/-- The digits and the decimal exponent of a fraction without its sign. -/
def fraction? (cs : List Char) : Option (Nat × Int) := do
  let isMark (c : Char) : Bool := c == 'e' || c == 'E'
  let mantissa := cs.takeWhile fun c => !isMark c
  let whole ← wholeDigits? (mantissa.takeWhile (· != '.'))
  let places ←
    match mantissa.dropWhile (· != '.') with
    | [] => some []
    | _ :: digits => digitsBetween Char.isDigit digits
  let shift ←
    match cs.dropWhile fun c => !isMark c with
    | [] => some 0
    | _ :: digits => exponent? digits
  -- with neither a point nor an exponent it would be an integer
  if mantissa.contains '.' || cs.any isMark then
    return (numeral 10 (whole ++ places), shift - places.length)
  else none

/-- Whether a word writes a fraction, an infinity or no number at all. A positive fraction has to
have a finite value. -/
def isFraction (word : List Char) : Bool :=
  let (negative, cs) := splitSign word
  cs == ['i', 'n', 'f'] || cs == ['n', 'a', 'n'] ||
    (fraction? cs).any fun (digits, exponent) => negative || !isInfinite digits exponent

end RequestPipeline.Toml
