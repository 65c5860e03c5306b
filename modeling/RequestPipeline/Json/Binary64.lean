/-!
# Numbers of 64 bits in binary floating point

Finite values are kept as their bit pattern. `shortest` finds the fewest decimal digits that lie
closer to a value than to any neighbour, and `ofDecimal?` reads a decimal the way the text format
below does: the leading digits that fit 64 bits, scaled by one power of ten.
-/

namespace RequestPipeline

/-- A finite floating-point value by its bit pattern. -/
structure Binary64 where
  bits : UInt64
  deriving DecidableEq, Repr

namespace Binary64

/-- The weight of the sign bit, `2 ^ 63`. -/
def signBit : Nat := 0x8000000000000000

/-- The weight of the bit in front of the fraction, `2 ^ 52`. -/
def leadingBit : Nat := 0x10000000000000

/-- The fewest digits of a positive value: `digits * 10 ^ exponent`. -/
structure Decimal where
  digits : Nat
  exponent : Int
  deriving DecidableEq, Repr

/-- Whether the sign bit is set. -/
def isNegative (x : Binary64) : Bool := x.bits.toNat ≥ signBit

/-- The magnitude as `mantissa * 2 ^ exponent`, and whether the gap below it is half the gap above.
-/
def parts (x : Binary64) : Nat × Int × Bool :=
  let field : Nat := x.bits.toNat / leadingBit % 2048
  let fraction : Nat := x.bits.toNat % leadingBit
  if field = 0 then (fraction, -1074, false)
  else (leadingBit + fraction, (field : Int) - 1075, fraction == 0 && field > 1)

/-- The number `n` with `10 ^ n ≤ a / b < 10 ^ (n + 1)`, for positive `a` and `b`. -/
def leadingExponent (a b : Nat) : Int :=
  if a ≥ b then ((Nat.toDigits 10 (a / b)).length : Int) - 1
  else
    let guess := (Nat.toDigits 10 (b / a)).length - 1
    if a * Nat.pow 10 guess ≥ b then -(guess : Int) else -((guess : Int) + 1)

/-- `n / d` times the power of ten, as a fraction. -/
def timesTen (n d : Nat) (e : Int) : Nat × Nat :=
  if e ≥ 0 then (n * Nat.pow 10 e.toNat, d) else (n, d * Nat.pow 10 (-e).toNat)

/-- The candidate with `count` digits for the value `mid / den`, if one of the two decimals around
it lies between `low / den` and `high / den`; `closed` tells whether the ends belong. -/
def candidate? (low mid high den : Nat) (closed : Bool) (lead : Int) (count : Nat) :
    Option Decimal :=
  let e := lead - count + 1
  let (n, d) := timesTen mid den (-e)
  let below := n / d
  let inside (c : Nat) : Bool :=
    let (p, q) := timesTen c 1 e
    if closed then low * q ≤ p * den && p * den ≤ high * q
    else low * q < p * den && p * den < high * q
  let rest := 2 * (n % d)
  -- the nearer of the two decimals first, of two as near the even one
  let first := if rest < d || (rest == d && below % 2 == 0) then below else below + 1
  let second := if first = below then below + 1 else below
  if inside first then some ⟨first, e⟩
  else if inside second then some ⟨second, e⟩
  else none

/-- The digits without zeros at the end, at most `fuel` of them. -/
def Decimal.strip : Nat → Decimal → Decimal
  | 0, d => d
  | fuel + 1, d =>
    if d.digits % 10 = 0 && d.digits > 0 then strip fuel ⟨d.digits / 10, d.exponent + 1⟩ else d

/-- The fewest digits that lie closer to the magnitude than to its neighbours; of several, the
nearest. Seventeen digits always suffice. -/
def shortest (x : Binary64) : Decimal :=
  let (m, e, narrow) := x.parts
  if m = 0 then ⟨0, 0⟩ else
  let unit := e - 2
  let scale := if unit ≥ 0 then Nat.pow 2 unit.toNat else 1
  let den := if unit ≥ 0 then 1 else Nat.pow 2 (-unit).toNat
  let low := (4 * m - (if narrow then 1 else 2)) * scale
  let mid := 4 * m * scale
  let high := (4 * m + 2) * scale
  let lead := leadingExponent mid den
  let closed := m % 2 == 0
  match (List.range 17).findSome? fun n => candidate? low mid high den closed lead (n + 1) with
  | some d => d.strip 20
  | none => ⟨0, 0⟩

/-- The text of a value: positional while the point stays within sixteen places of the front or five
zeros of it, scientific with a signed exponent elsewhere, and always with a point or an exponent. -/
def text (x : Binary64) : String :=
  let d := x.shortest
  let ds := Nat.toDigits 10 d.digits
  let point : Int := ds.length + d.exponent
  let body : List Char :=
    if d.digits = 0 then ['0', '.', '0']
    else if 0 ≤ d.exponent && point ≤ 16 then
      ds ++ List.replicate d.exponent.toNat '0' ++ ['.', '0']
    -- the point falls between the digits
    else if 0 < point && point ≤ 16 then
      ds.take point.toNat ++ '.' :: ds.drop point.toNat
    -- the point stands in front of all digits
    else if -5 < point && point ≤ 0 then
      '0' :: '.' :: (List.replicate (-point).toNat '0' ++ ds)
    else
      ds.take 1 ++ (if ds.length = 1 then [] else '.' :: ds.drop 1) ++
        'e' :: (if point > 0 then '+' else '-') :: Nat.toDigits 10 (point - 1).natAbs
  String.ofList (if x.isNegative then '-' :: body else body)

/-- Ten to a power below 309. -/
def powerOfTen (n : Nat) : Float := Float.ofScientific 1 false n

/-- The value of `significand * 10 ^ exponent`, by one multiplication or at most two divisions;
nothing when it overflows. -/
def scaled? (significand : Nat) (exponent : Int) : Option Float :=
  let f := significand.toUInt64.toFloat
  if exponent > 308 then if significand = 0 then some f else none
  else if exponent ≥ 0 then
    let g := f * powerOfTen exponent.toNat
    if g.isInf then none else some g
  else if exponent ≥ -308 then some (f / powerOfTen (-exponent).toNat)
  else if exponent ≥ -616 then some (f / powerOfTen 308 / powerOfTen (-(exponent + 308)).toNat)
  else some 0.0

/-- The value with a sign, a significand below `2 ^ 64` and a decimal exponent. -/
def ofDecimal? (negative : Bool) (significand : Nat) (exponent : Int) : Option Binary64 :=
  (scaled? significand exponent).map fun f => ⟨(if negative then -f else f).toBits⟩

end Binary64

end RequestPipeline
