import RequestPipeline.Toml.Moment
import RequestPipeline.Toml.Numeral
import RequestPipeline.Toml.Table

/-!
# Reading documents of tables

A document consists of headers and of keys with values, one a line, with comments. The reader keeps
the values that settings are made of: texts, integers of 64 bits, truth values, arrays and inline
tables. Fractions, dates and times have to be well-formed and are kept as null, since no setting is
one. Values and keys nest to a limited depth.
-/

namespace RequestPipeline.Toml

/-! ## Blanks and lines -/

/-- The characters behind spaces and tabs. -/
def skipBlanks : List Char → List Char
  | [] => []
  | c :: rest => if c == ' ' || c == '\t' then skipBlanks rest else c :: rest

/-- Characters of a comment. -/
def isCommentChar (c : Char) : Bool :=
  c == '\t' || (0x20 ≤ c.toNat && c.toNat ≤ 0x7e) || c.toNat ≥ 0x80

/-- The characters behind the end of a line. -/
def newline? : List Char → Option (List Char)
  | '\n' :: rest => some rest
  | '\r' :: '\n' :: rest => some rest
  | _ => none

/-- The characters behind a comment, if there is one. -/
def skipComment : List Char → List Char
  | '#' :: rest => rest.dropWhile isCommentChar
  | cs => cs

/-- The characters behind what may end a line: blanks, a comment, and the end of the line or text.
-/
def lineEnd? (cs : List Char) : Option (List Char) :=
  match skipComment (skipBlanks cs) with
  | [] => some []
  | rest => newline? rest

/-- The characters behind blanks, ends of lines and comments between the items of an array. -/
def skipLines : Nat → List Char → List Char
  | 0, cs => cs
  | fuel + 1, cs =>
    match skipBlanks cs with
    | '#' :: rest =>
      match newline? (rest.dropWhile isCommentChar) with
      | some tail => skipLines fuel tail
      | none => '#' :: rest
    | cs =>
      match newline? cs with
      | some tail => skipLines fuel tail
      | none => cs

/-! ## Texts -/

/-- The character of a code point, unless it is half of a surrogate pair or out of range. -/
def scalar? (n : Nat) : Option Char :=
  if n < 0xd800 || (0xe000 ≤ n && n ≤ 0x10ffff) then some (Char.ofNat n) else none

/-- The character of an escape of one letter. -/
def simpleEscape? (c : Char) : Option Char :=
  match c with
  | 'b' => some (Char.ofNat 8)
  | 't' => some '\t'
  | 'n' => some '\n'
  | 'f' => some (Char.ofNat 12)
  | 'r' => some '\r'
  | '"' => some '"'
  | '\\' => some '\\'
  | _ => none

/-- Reads an escape behind its backslash. -/
def escape? : List Char → Option (Char × List Char)
  | 'u' :: a :: b :: c :: d :: rest => do
    let c ← scalar? (← Json.hexQuad? a b c d)
    return (c, rest)
  | 'U' :: a :: b :: c :: d :: e :: f :: g :: h :: rest => do
    let high ← Json.hexQuad? a b c d
    let low ← Json.hexQuad? e f g h
    let c ← scalar? (high * 0x10000 + low)
    return (c, rest)
  | c :: rest => (simpleEscape? c).map fun e => (e, rest)
  | [] => none

/-- Characters that stand for themselves in a text, quotes and backslashes apart. -/
def isTextChar (c : Char) : Bool :=
  c == '\t' || (0x20 ≤ c.toNat && c.toNat ≤ 0x7e) || c.toNat ≥ 0x80

/-- Reads a text behind its opening quote. -/
def readText : Nat → List Char → Option (List Char × List Char)
  | 0, _ => none
  | fuel + 1, cs =>
    match cs with
    | '"' :: rest => some ([], rest)
    | '\\' :: rest => do
      let (c, rest) ← escape? rest
      let (text, tail) ← readText fuel rest
      return (c :: text, tail)
    | c :: rest =>
      if isTextChar c then (readText fuel rest).map fun (text, tail) => (c :: text, tail) else none
    | [] => none

/-- Reads a text without escapes behind its opening quote. -/
def readLiteral : List Char → Option (List Char × List Char)
  | [] => none
  | c :: rest =>
    if c == '\x27' then some ([], rest)
    else if isTextChar c then (readLiteral rest).map fun (text, tail) => (c :: text, tail)
    else none

/-- The characters behind blanks and ends of lines. -/
def skipAnyBlanks : List Char → List Char
  | [] => []
  | '\r' :: '\n' :: rest => skipAnyBlanks rest
  | c :: rest => if c == ' ' || c == '\t' || c == '\n' then skipAnyBlanks rest else c :: rest

/-- Reads a text of several lines up to its three closing quotes. Up to two more quotes in front of
them belong to the text, and a backslash at the end of a line joins it to the next word. -/
def readLong (quote : Char) (escapes : Bool) : Nat → List Char → Option (List Char × List Char)
  | 0, _ => none
  | fuel + 1, cs =>
    let quotes := (cs.takeWhile (· == quote)).length
    if quotes ≥ 3 then
      -- the last three close the text
      let extra := min (quotes - 3) 2
      some (List.replicate extra quote, cs.drop (extra + 3))
    else
      match cs with
      | '\r' :: '\n' :: rest =>
        (readLong quote escapes fuel rest).map fun (text, tail) => ('\n' :: text, tail)
      | '\n' :: rest =>
        (readLong quote escapes fuel rest).map fun (text, tail) => ('\n' :: text, tail)
      | c :: rest =>
        if c == '\\' && escapes then
          match newline? (skipBlanks rest) with
          | some tail => readLong quote escapes fuel (skipAnyBlanks tail)
          | none => do
            let (c, rest) ← escape? rest
            let (text, tail) ← readLong quote escapes fuel rest
            return (c :: text, tail)
        else if isTextChar c then
          (readLong quote escapes fuel rest).map fun (text, tail) => (c :: text, tail)
        else none
      | [] => none

/-- The characters behind an end of a line right behind the opening quotes. -/
def skipFirstLine (cs : List Char) : List Char := (newline? cs).getD cs

/-! ## Keys -/

/-- Characters of a key without quotes. -/
def isKeyChar (c : Char) : Bool := c.isAlphanum || c == '-' || c == '_'

/-- Reads one part of a key. -/
def readKeyPart (cs : List Char) : Option (String × List Char) :=
  match cs with
  | '"' :: rest =>
    (readText (rest.length + 1) rest).map fun (text, tail) => (String.ofList text, tail)
  | c :: rest =>
    if c == '\x27' then (readLiteral rest).map fun (text, tail) => (String.ofList text, tail)
    else
      match (c :: rest).takeWhile isKeyChar with
      | [] => none
      | part => some (String.ofList part, (c :: rest).dropWhile isKeyChar)
  | [] => none

/-- Fewer arrays and inline tables than this lie in one another, and a key has fewer parts. -/
def nestingLimit : Nat := 80

/-- Reads parts with points between them, and the blanks around each. -/
def readParts : Nat → List Char → Option (List String × List Char)
  | 0, _ => none
  | fuel + 1, cs => do
    let (part, rest) ← readKeyPart (skipBlanks cs)
    match skipBlanks rest with
    | '.' :: rest =>
      let (parts, tail) ← readParts fuel rest
      return (part :: parts, tail)
    | rest => return ([part], rest)

/-- Reads a key. -/
def readKey (cs : List Char) : Option (List String × List Char) :=
  (readParts cs.length cs).filter fun (path, _) => path.length < nestingLimit

/-! ## Plain values -/

/-- Characters that continue a number, a date or a time. -/
def isNumberChar (c : Char) : Bool :=
  c.isAlphanum || c == '_' || c == '+' || c == '-' || c == '.' || c == ':'

/-- The characters behind a time of day that follows a date after one space, if one does. -/
def skipClock : List Char → List Char
  | ' ' :: rest =>
    if isClock (rest.takeWhile isNumberChar) then rest.dropWhile isNumberChar else ' ' :: rest
  | cs => cs

/-- Reads a number, a date or a time. -/
def readPlain (cs : List Char) : Option (Json × List Char) :=
  let word := cs.takeWhile isNumberChar
  let rest := cs.dropWhile isNumberChar
  match integer? word with
  | some n => some (Json.ofInt n, rest)
  | none =>
    if isDate word then some (.null, skipClock rest)
    else if isMoment word || isFraction word then some (.null, rest)
    else none

/-! ## Values -/

mutual

/-- Reads a value that may hold as many arrays and inline tables in one another as `levels` says. -/
def readValue : Nat → Nat → List Char → Option (Json × List Char)
  | 0, _, _ => none
  | fuel + 1, levels, cs =>
    match cs with
    | '"' :: '"' :: '"' :: rest =>
      (readLong '"' true (rest.length + 1) (skipFirstLine rest)).map fun (text, tail) =>
        (.str (String.ofList text), tail)
    | '"' :: rest =>
      (readText (rest.length + 1) rest).map fun (text, tail) => (.str (String.ofList text), tail)
    | '\x27' :: '\x27' :: '\x27' :: rest =>
      (readLong '\x27' false (rest.length + 1) (skipFirstLine rest)).map fun (text, tail) =>
        (.str (String.ofList text), tail)
    | '\x27' :: rest =>
      (readLiteral rest).map fun (text, tail) => (.str (String.ofList text), tail)
    | '[' :: rest =>
      if levels = 0 then none
      else (readItems fuel (levels - 1) rest).map fun (items, tail) => (.arr items, tail)
    | '\x7b' :: rest =>
      if levels = 0 then none
      else
        match skipBlanks rest with
        | '\x7d' :: tail => some (.obj [], tail)
        | rest =>
          (readInline fuel (levels - 1) [] rest).map fun (members, tail) =>
            (.obj (membersToJson members), tail)
    | 't' :: 'r' :: 'u' :: 'e' :: rest => some (.bool true, rest)
    | 'f' :: 'a' :: 'l' :: 's' :: 'e' :: rest => some (.bool false, rest)
    | cs => readPlain cs

/-- Reads the rest of an array: items with commas between them, one more comma allowed. -/
def readItems : Nat → Nat → List Char → Option (List Json × List Char)
  | 0, _, _ => none
  | fuel + 1, levels, cs =>
    match skipLines cs.length cs with
    | ']' :: tail => some ([], tail)
    | cs =>
      match readValue fuel levels cs with
      | none => none
      | some (item, rest) =>
        match skipLines rest.length rest with
        | ',' :: rest =>
          (readItems fuel levels rest).map fun (items, tail) => (item :: items, tail)
        | ']' :: tail => some ([item], tail)
        | _ => none

/-- Reads the rest of an inline table that has a member, and adds it to members. -/
def readInline : Nat → Nat → Members → List Char → Option (Members × List Char)
  | 0, _, _, _ => none
  | fuel + 1, levels, ms, cs =>
    match readKey cs with
    | some (path, '=' :: rest) =>
      match readValue fuel levels (skipBlanks rest) with
      | none => none
      | some (v, rest) =>
        match assign path v ms with
        | none => none
        | some ms =>
          match skipBlanks rest with
          | ',' :: rest => readInline fuel levels ms rest
          | '\x7d' :: tail => some (ms, tail)
          | _ => none
    | _ => none

end

/-! ## Documents -/

/-- A document read so far: the path of the table that was declared last, and everything. -/
structure Draft where
  current : List String
  members : Members

/-- Reads one line that holds something. -/
def readLine (cs : List Char) (d : Draft) : Option (Draft × List Char) := do
  match cs with
  | '#' :: _ =>
    let rest ← lineEnd? cs
    return (d, rest)
  -- a header of one more table in a list
  | '[' :: '[' :: rest =>
    let (path, rest) ← readKey rest
    match rest with
    | ']' :: ']' :: rest =>
      let rest ← lineEnd? rest
      let members ← declareElement path d.members
      return (⟨path, members⟩, rest)
    | _ => none
  -- a header of a table
  | '[' :: rest =>
    let (path, rest) ← readKey rest
    match rest with
    | ']' :: rest =>
      let rest ← lineEnd? rest
      let members ← declareTable path d.members
      return (⟨path, members⟩, rest)
    | _ => none
  -- a key with its value
  | cs =>
    let (path, rest) ← readKey cs
    match rest with
    | '=' :: rest =>
      let (v, rest) ← readValue (2 * rest.length + 2) (nestingLimit - 1) (skipBlanks rest)
      let rest ← lineEnd? rest
      let members ← assignIn d.current path v d.members
      return (⟨d.current, members⟩, rest)
    | _ => none

/-- Reads lines up to the end of the text. -/
def readLines : Nat → List Char → Draft → Option Draft
  | 0, _, _ => none
  | fuel + 1, cs, d =>
    match skipBlanks cs with
    | [] => some d
    | cs =>
      match newline? cs with
      | some rest => readLines fuel rest d
      | none =>
        match readLine cs d with
        | some (d, rest) => readLines fuel rest d
        | none => none

/-- The document that a text writes, a byte order mark in front allowed. -/
def parse? (s : String) : Option Json :=
  let cs :=
    match s.toList with
    | '\ufeff' :: rest => rest
    | cs => cs
  (readLines (cs.length + 1) cs ⟨[], []⟩).map fun d => .obj (membersToJson d.members)

end RequestPipeline.Toml
