import RequestPipeline.Json.Basic

/-!
# Reading JSON text

The reader follows the grammar to the letter: no comments, no trailing commas, no control characters
inside strings, no half of a surrogate pair on its own, and fewer than 128 nested arrays and
objects. Members of an object are kept in order, repeated names included, so that whoever decodes
the value decides about them.
-/

namespace RequestPipeline.Json

/-- The value of a decimal digit. -/
def digit? (c : Char) : Option Nat :=
  if '0' ≤ c && c ≤ '9' then some (c.toNat - 0x30) else none

/-- The value of a hexadecimal digit. -/
def hexDigit? (c : Char) : Option Nat :=
  if '0' ≤ c && c ≤ '9' then some (c.toNat - 0x30)
  else if 'a' ≤ c && c ≤ 'f' then some (c.toNat - 0x57)
  else if 'A' ≤ c && c ≤ 'F' then some (c.toNat - 0x37)
  else none

/-- The number that four hexadecimal digits write. -/
def hexQuad? (a b c d : Char) : Option Nat := do
  let a ← hexDigit? a
  let b ← hexDigit? b
  let c ← hexDigit? c
  let d ← hexDigit? d
  return ((a * 16 + b) * 16 + c) * 16 + d

/-- The characters behind blanks of the format. -/
def skipSpace : List Char → List Char
  | [] => []
  | c :: rest =>
    if c == ' ' || c == '\n' || c == '\t' || c == '\r' then skipSpace rest else c :: rest

/-- The character of an escape of one letter. -/
def simpleEscape? (c : Char) : Option Char :=
  match c with
  | '"' => some '"'
  | '\\' => some '\\'
  | '/' => some '/'
  | 'b' => some (Char.ofNat 8)
  | 'f' => some (Char.ofNat 12)
  | 'n' => some '\n'
  | 'r' => some '\r'
  | 't' => some '\t'
  | _ => none

/-- Reads the inside of a string up to and including the closing quote. -/
def readString : List Char → Option (List Char × List Char)
  | [] => none
  | '"' :: rest => some ([], rest)
  | '\\' :: 'u' :: a :: b :: c :: d :: rest =>
    match hexQuad? a b c d with
    | none => none
    | some n =>
      if 0xd800 ≤ n && n ≤ 0xdbff then
        match rest with
        | '\\' :: 'u' :: e :: f :: g :: h :: rest =>
          match hexQuad? e f g h with
          | none => none
          | some m =>
            if 0xdc00 ≤ m && m ≤ 0xdfff then
              (readString rest).map fun (cs, tail) =>
                (Char.ofNat (0x10000 + (n - 0xd800) * 0x400 + (m - 0xdc00)) :: cs, tail)
            else none
        | _ => none
      else if 0xdc00 ≤ n && n ≤ 0xdfff then none
      else (readString rest).map fun (cs, tail) => (Char.ofNat n :: cs, tail)
  | '\\' :: c :: rest =>
    match simpleEscape? c with
    | none => none
    | some e => (readString rest).map fun (cs, tail) => (e :: cs, tail)
  | c :: rest =>
    if c.toNat < 0x20 || c == '\\' then none
    else (readString rest).map fun (cs, tail) => (c :: cs, tail)

/-- The digits in front, as numbers, and the rest. -/
def spanDigits : List Char → List Nat × List Char
  | [] => ([], [])
  | c :: rest =>
    match digit? c with
    | some d => let (ds, tail) := spanDigits rest; (d :: ds, tail)
    | none => ([], c :: rest)

/-- Digits collected into a significand below `2 ^ 64`, and how many were left over once one no
longer fitted. -/
def collectWhole : Nat → List Nat → Nat × Nat
  | n, [] => (n, 0)
  | n, d :: ds =>
    if n * 10 + d < Number.limit then collectWhole (n * 10 + d) ds
    else (n, (d :: ds).length)

/-- Fraction digits added to a significand below `2 ^ 64`, and how many fitted. -/
def collectFraction : Nat → List Nat → Nat × Nat
  | n, [] => (n, 0)
  | n, d :: ds =>
    if n * 10 + d < Number.limit then
      let (m, k) := collectFraction (n * 10 + d) ds
      (m, k + 1)
    else (n, 0)

/-- The exponent that digits write, or nothing when it needs more than 31 bits. -/
def collectExponent : Nat → List Nat → Option Nat
  | n, [] => some n
  | n, d :: ds => if n * 10 + d < 0x80000000 then collectExponent (n * 10 + d) ds else none

/-- The number of an integer part alone. An integer out of the range of 64 bits, and minus zero, is
a floating-point value. -/
def wholeNumber? (negative : Bool) (ds : List Nat) : Option Number :=
  let (n, surplus) := collectWhole 0 ds
  if surplus > 0 then (Binary64.ofDecimal? negative n surplus).map .real
  else if negative then
    if 0 < n && n ≤ Number.signedLimit then some (.int (-n))
    else (Binary64.ofDecimal? true n 0).map .real
  else some (.int n)

/-- The exponent part behind a significand: its sign and digits, if there is one. -/
def readExponent (cs : List Char) : Option (Option (Bool × List Nat) × List Char) :=
  match cs with
  | [] => some (none, [])
  | c :: rest =>
    if c == 'e' || c == 'E' then
      let (negative, rest) :=
        match rest with
        | '+' :: tail => (false, tail)
        | '-' :: tail => (true, tail)
        | tail => (false, tail)
      match spanDigits rest with
      | ([], _) => none
      | (ds, tail) => some (some (negative, ds), tail)
    else some (none, c :: rest)

/-- The floating-point number of a significand, its exponent so far and a written exponent. -/
def realNumber? (negative : Bool) (significand : Nat) (exponent : Int)
    (written : Option (Bool × List Nat)) : Option Number :=
  match written with
  | none => (Binary64.ofDecimal? negative significand exponent).map .real
  | some (down, ds) =>
    match collectExponent 0 ds with
    | some e =>
      (Binary64.ofDecimal? negative significand (if down then exponent - e else exponent + e)).map
        .real
    | none =>
      if significand = 0 || down then (Binary64.ofDecimal? negative 0 0).map .real else none

/-- Reads a number behind its sign. -/
def readUnsigned (negative : Bool) (cs : List Char) : Option (Number × List Char) :=
  match spanDigits cs with
  | ([], _) => none
  | (d :: ds, rest) =>
    if d = 0 && ds ≠ [] then none
    else
      match rest with
      | '.' :: rest =>
        match spanDigits rest with
        | ([], _) => none
        | (fs, rest) => do
          let (n, surplus) := collectWhole 0 (d :: ds)
          let (m, k) := collectFraction n fs
          let (written, rest) ← readExponent rest
          let number ← realNumber? negative m ((surplus : Int) - k) written
          return (number, rest)
      | rest => do
        let (written, rest) ← readExponent rest
        match written with
        | none => return (← wholeNumber? negative (d :: ds), rest)
        | some _ =>
          let (n, surplus) := collectWhole 0 (d :: ds)
          return (← realNumber? negative n surplus written, rest)

/-- Reads a number. -/
def readNumber : List Char → Option (Number × List Char)
  | '-' :: rest => readUnsigned true rest
  | cs => readUnsigned false cs

mutual

/-- Reads one value; `depth` is how many more arrays and objects may be entered, plus one. -/
def readValue : Nat → Nat → List Char → Option (Json × List Char)
  | 0, _, _ => none
  | fuel + 1, depth, cs =>
    match cs with
    | 'n' :: 'u' :: 'l' :: 'l' :: rest => some (.null, rest)
    | 't' :: 'r' :: 'u' :: 'e' :: rest => some (.bool true, rest)
    | 'f' :: 'a' :: 'l' :: 's' :: 'e' :: rest => some (.bool false, rest)
    | '"' :: rest => (readString rest).map fun (s, tail) => (.str (String.ofList s), tail)
    | '[' :: rest =>
      if depth ≤ 1 then none
      else
        match skipSpace rest with
        | ']' :: tail => some (.arr [], tail)
        | rest => (readItems fuel (depth - 1) rest).map fun (items, tail) => (.arr items, tail)
    | '\x7b' :: rest =>
      if depth ≤ 1 then none
      else
        match skipSpace rest with
        | '\x7d' :: tail => some (.obj [], tail)
        | rest =>
          (readMembers fuel (depth - 1) rest).map fun (members, tail) => (.obj members, tail)
    | cs => (readNumber cs).map fun (n, tail) => (.num n, tail)

/-- Reads the items of an array that has one, and the closing bracket. -/
def readItems : Nat → Nat → List Char → Option (List Json × List Char)
  | 0, _, _ => none
  | fuel + 1, depth, cs =>
    match readValue fuel depth cs with
    | none => none
    | some (item, rest) =>
      match skipSpace rest with
      | ']' :: tail => some ([item], tail)
      | ',' :: rest =>
        (readItems fuel depth (skipSpace rest)).map fun (items, tail) => (item :: items, tail)
      | _ => none

/-- Reads the members of an object that has one, and the closing brace. -/
def readMembers : Nat → Nat → List Char → Option (List (String × Json) × List Char)
  | 0, _, _ => none
  | fuel + 1, depth, cs =>
    match cs with
    | '"' :: rest =>
      match readString rest with
      | none => none
      | some (name, rest) =>
        match skipSpace rest with
        | ':' :: rest =>
          match readValue fuel depth (skipSpace rest) with
          | none => none
          | some (value, rest) =>
            match skipSpace rest with
            | '\x7d' :: tail => some ([(String.ofList name, value)], tail)
            | ',' :: rest =>
              (readMembers fuel depth (skipSpace rest)).map fun (members, tail) =>
                ((String.ofList name, value) :: members, tail)
            | _ => none
        | _ => none
    | _ => none

end

/-- The value that a text writes, blanks around it allowed, if fewer than `depth` arrays and objects
lie within each other. The fuel suffices because every step consumes a character at least every
second time. -/
def parseWithin? (depth : Nat) (s : String) : Option Json :=
  let cs := skipSpace s.toList
  match readValue (2 * cs.length + 2) depth cs with
  | some (value, rest) => if skipSpace rest = [] then some value else none
  | none => none

/-- The value that a text writes. -/
def parse? (s : String) : Option Json := parseWithin? 128 s

end RequestPipeline.Json
