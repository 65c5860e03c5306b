import RequestPipeline.Json.Binary64

/-!
# JSON values

Values of the JSON data format. A number is either an integer of at most 64 bits or a floating-point
value; an object is a list of members. `canonical` sorts the members of every object and keeps the
last of those that share a name, so that two texts with the same content give the same value.
-/

namespace RequestPipeline

/-- A JSON number: an integer between `-2 ^ 63` and `2 ^ 64 - 1`, or a floating-point value. -/
inductive Number where
  | int (value : Int)
  | real (value : Binary64)
  deriving DecidableEq, Repr

namespace Number

/-- Integers without a sign lie below `2 ^ 64`. -/
def limit : Nat := 0x10000000000000000

/-- Integers with a sign lie below `2 ^ 63`, and not below its negative. -/
def signedLimit : Nat := 0x8000000000000000

end Number

/-- A JSON value. -/
inductive Json where
  | null
  | bool (value : Bool)
  | num (value : Number)
  | str (value : String)
  | arr (items : List Json)
  | obj (members : List (String × Json))
  deriving Repr, Inhabited

namespace Json

/-- An integer value. -/
def ofInt (n : Int) : Json := .num (.int n)

/-- A natural number as a value. -/
def ofNat (n : Nat) : Json := ofInt n

/-- A list of texts as a value. -/
def ofStrings (xs : List String) : Json := .arr (xs.map .str)

/-- A value that need not be there, as null if it is not. -/
def ofOption {α : Type} (f : α → Json) : Option α → Json
  | some a => f a
  | none => .null

/-- The object of the members that have a value. -/
def ofPresent (members : List (String × Option Json)) : Json :=
  .obj (members.filterMap fun m => m.2.map fun value => (m.1, value))

/-- The value of the first member with a name, if the value is an object that has one. -/
def member? (name : String) : Json → Option Json
  | .obj members => members.lookup name
  | _ => none

/-- Puts a member in its place among members sorted by name, replacing one of the same name. -/
def insertMember (name : String) (value : Json) : List (String × Json) → List (String × Json)
  | [] => [(name, value)]
  | (n, v) :: rest =>
    if name < n then (name, value) :: (n, v) :: rest
    else if name = n then (name, value) :: rest
    else (n, v) :: insertMember name value rest

mutual

/-- The value with the members of every object sorted by name, the last of a name kept. -/
def canonical : Json → Json
  | .null => .null
  | .bool b => .bool b
  | .num n => .num n
  | .str s => .str s
  | .arr items => .arr (canonicalItems items)
  | .obj members => .obj (canonicalMembers members [])

/-- Every item in canonical form. -/
def canonicalItems : List Json → List Json
  | [] => []
  | item :: rest => canonical item :: canonicalItems rest

/-- The members in canonical form, added to sorted ones. -/
def canonicalMembers : List (String × Json) → List (String × Json) → List (String × Json)
  | [], sorted => sorted
  | (name, value) :: rest, sorted =>
    canonicalMembers rest (insertMember name (canonical value) sorted)

end

end Json

end RequestPipeline
