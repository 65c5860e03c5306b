import RequestPipeline.Text.Quoted

/-!
# Request identifiers

A request is identified by a number of 128 bits. It is read from 32 hexadecimal digits, or from the
form with hyphens, which may stand between braces or behind a scheme, and prints with hyphens in
lower case.
-/

namespace RequestPipeline

/-- The identifier of a request. -/
structure RequestId where
  value : BitVec 128
  deriving DecidableEq

namespace RequestId

/-- The identifier that is all zeros. -/
def nil : RequestId := ⟨0⟩

instance : Inhabited RequestId := ⟨nil⟩

/-- The value of a hexadecimal digit of either case. -/
def digit? (c : Char) : Option Nat :=
  if '0' ≤ c && c ≤ '9' then some (c.toNat - 0x30)
  else if 'a' ≤ c && c ≤ 'f' then some (c.toNat - 0x57)
  else if 'A' ≤ c && c ≤ 'F' then some (c.toNat - 0x37)
  else none

/-- The number that hexadecimal digits write behind the number `n`. -/
def digits? : Nat → List Char → Option Nat
  | n, [] => some n
  | n, c :: rest => (digit? c).bind fun d => digits? (n * 16 + d) rest

/-- The 32 digits of the form with hyphens. -/
def unhyphen? (cs : List Char) : Option (List Char) :=
  if cs.length = 36 && cs[8]? == some '-' && cs[13]? == some '-' && cs[18]? == some '-' &&
      cs[23]? == some '-' then
    some (cs.take 8 ++ (cs.drop 9).take 4 ++ (cs.drop 14).take 4 ++ (cs.drop 19).take 4 ++
      cs.drop 24)
  else none

/-- What may stand in front of the form with hyphens, in any letter case. -/
def scheme : List Char := "urn:uuid:".toList

/-- The form with hyphens inside braces or behind its scheme. -/
def unwrap (cs : List Char) : List Char :=
  match cs with
  | '\x7b' :: rest => if rest.getLast? = some '\x7d' then rest.dropLast else cs
  | _ =>
    if (cs.take scheme.length).map Char.toLower = scheme then cs.drop scheme.length else cs

/-- Reads an identifier. -/
def ofText? (s : String) : Option RequestId :=
  let cs := s.toList
  let ds := if cs.length = 32 then some cs else unhyphen? (unwrap cs)
  (ds.bind (digits? 0)).map fun n => ⟨BitVec.ofNat 128 n⟩

/-- The lowest `count` hexadecimal digits of a number. -/
def hex (count : Nat) (n : Nat) : List Char :=
  (List.range count).reverse.map fun i => Text.hexDigit (n / Nat.pow 16 i % 16)

/-- The identifier as a text. -/
def text (id : RequestId) : String :=
  let ds := hex 32 id.value.toNat
  String.ofList (ds.take 8 ++ '-' :: (ds.drop 8).take 4 ++ '-' :: (ds.drop 12).take 4 ++
    '-' :: (ds.drop 16).take 4 ++ '-' :: ds.drop 20)

end RequestId

end RequestPipeline
