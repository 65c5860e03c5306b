import RequestPipeline.Json.Reader
import RequestPipeline.Text.Blank
import RequestPipeline.Text.Letters

/-!
# Patterns

A pattern describes texts by characters, classes of characters, alternatives, repetitions and
groups. `isPattern` tells which texts are patterns. Letter case, words, digits and blanks are known
for ASCII only, so that a pattern refers to them only where it matches bytes; and a pattern of bytes
may not match half a character. A count in braces is refused, since a pattern stands where a closing
brace would end it.
-/

namespace RequestPipeline.Pattern

open Text

/-! ## Modes -/

/-- What is in force at a place of a pattern. -/
structure Modes where
  /-- Letter case does not matter. -/
  caseless : Bool := false
  /-- Characters are matched, and not bytes. -/
  unicode : Bool := true
  /-- Blanks and comments are passed over. -/
  loose : Bool := false

/-- Letters that change a mode, and the minus sign that turns the modes behind it off. -/
def modeLetters : List Char := ['i', 'm', 's', 'U', 'u', 'R', 'x', '-']

/-- The modes after one letter. -/
def Modes.set (m : Modes) (value : Bool) (c : Char) : Modes :=
  if c == 'i' then { m with caseless := value }
  else if c == 'u' then { m with unicode := value }
  else if c == 'x' then { m with loose := value }
  else m

/-- Reads letters up to a colon or a closing parenthesis, each of them once. Behind a minus sign a
letter has to come, and without letters only a colon may. -/
def readModes (seen : List Char) (m : Modes) : List Char → Option (Modes × Char × List Char)
  | [] => none
  | c :: rest =>
    if c == ':' || c == ')' then
      if seen.head? == some '-' || (c == ')' && seen.isEmpty) then none else some (m, c, rest)
    else if seen.contains c || !modeLetters.contains c then none
    else readModes (c :: seen) (m.set (!seen.contains '-') c) rest

/-- The characters behind blanks and comments. -/
def skipRemarks (inRemark : Bool) : List Char → List Char
  | [] => []
  | c :: rest =>
    if inRemark then skipRemarks (c != '\n') rest
    else if isBlank c then skipRemarks false rest
    else if c == '#' then skipRemarks true rest
    else c :: rest

/-- The characters behind what the modes pass over. -/
def Modes.skip (m : Modes) (cs : List Char) : List Char :=
  if m.loose then skipRemarks false cs else cs

/-- The next character that is not passed over. Of a comment only its mark is. -/
def Modes.peek (m : Modes) (cs : List Char) : Option Char :=
  if m.loose then
    match cs.dropWhile isBlank with
    | '#' :: rest => (rest.dropWhile isBlank).head?
    | rest => rest.head?
  else cs.head?

/-! ## Single parts -/

/-- A part of a pattern that holds no others. -/
inductive Atom where
  /-- A character; it may be written as a byte. -/
  | literal (c : Char) (byte : Bool)
  /-- Digits, blanks or characters of words, or all others. -/
  | shorthand (negated : Bool)
  /-- The start, the end or the inside of a word. -/
  | boundary
  /-- The start or the end of the text or of a line. -/
  | anchor
  /-- Any character. -/
  | any

/-- Whether a part may stand outside of classes. -/
def Atom.fits (m : Modes) : Atom → Bool
  | literal c byte => if m.unicode then !m.caseless else !byte || c.val < 0x80
  | shorthand negated => !m.unicode && !negated
  | boundary => !m.unicode
  | anchor => true
  | any => m.unicode

/-- Whether a part may stand in a class. -/
def Atom.fitsClass (m : Modes) : Atom → Bool
  | literal c _ => if m.unicode then !m.caseless else c.val < 0x80
  | shorthand negated => !m.unicode && !negated
  | _ => false

/-- The number that so many hexadecimal digits write behind the number `n`. -/
def readHex (m : Modes) : Nat → Nat → List Char → Option (Nat × List Char)
  | 0, n, cs => some (n, m.skip cs)
  | count + 1, n, cs =>
    match m.skip cs with
    | [] => none
    | c :: rest => (Json.hexDigit? c).bind fun d => readHex m count (n * 16 + d) rest

/-- Reads a character that is written by the digits of its code point. -/
def readCode (m : Modes) (count : Nat) (cs : List Char) : Option (Atom × List Char) :=
  (readHex m count 0 cs).bind fun (n, rest) =>
    if n.isValidChar then some (.literal (Char.ofNat n) (count == 2), rest) else none

/-- The control that a letter stands for. -/
def control? (c : Char) : Option Char :=
  match c with
  | 'a' => some (Char.ofNat 7)
  | 't' => some '\t'
  | 'n' => some '\n'
  | 'v' => some (Char.ofNat 11)
  | 'f' => some (Char.ofNat 12)
  | 'r' => some '\r'
  | _ => none

/-- Reads what follows a backslash. Letters and digits without a meaning are refused, and so are
classes by properties of characters. -/
def readEscape (m : Modes) : List Char → Option (Atom × List Char)
  | [] => none
  | c :: rest =>
    if c == 'x' then readCode m 2 rest
    else if c == 'u' then readCode m 4 rest
    else if c == 'U' then readCode m 8 rest
    else if c == 'd' || c == 's' || c == 'w' then some (.shorthand false, rest)
    else if c == 'D' || c == 'S' || c == 'W' then some (.shorthand true, rest)
    else if c == 'b' || c == 'B' || c == '<' || c == '>' then some (.boundary, rest)
    else if c == 'A' || c == 'z' then some (.anchor, rest)
    else
      match control? c with
      | some code => some (.literal code false, rest)
      | none =>
        if c.isAlphanum || c.val ≥ 0x80 then none else some (.literal c false, rest)

/-! ## Classes -/

/-- What has been read of a class: the height of the operand in front of the last operator, the
number of parts behind it, the greatest height of these, and whether nothing but hyphens has been
read at all. -/
structure ClassDraft where
  left : Option Nat := none
  count : Nat := 0
  height : Nat := 0
  opening : Bool := true

/-- The draft with one more part. -/
def ClassDraft.add (d : ClassDraft) (height : Nat) (opening : Bool) : ClassDraft :=
  { d with count := d.count + 1, height := max d.height height, opening }

/-- The height of a class that ends here: two parts or more are a union of them. -/
def ClassDraft.whole (d : ClassDraft) : Nat :=
  let right := if d.count ≤ 1 then d.height else d.height + 1
  match d.left with
  | none => right
  | some left => max left right + 1

/-- The draft behind an operator. -/
def ClassDraft.operate (d : ClassDraft) : ClassDraft := { left := some d.whole, opening := false }

/-- The names of classes of ASCII characters. -/
def classNames : List String :=
  ["alnum", "alpha", "ascii", "blank", "cntrl", "digit", "graph", "lower", "print", "punct",
    "space", "upper", "word", "xdigit"]

/-- Reads a named class behind its bracket, and whether it is negated. -/
def readNamed : List Char → Option (Bool × List Char)
  | ':' :: rest =>
    let negated := rest.head? == some '^'
    let rest := if negated then rest.drop 1 else rest
    match rest.dropWhile (· != ':') with
    | ':' :: ']' :: tail =>
      if classNames.contains (String.ofList (rest.takeWhile (· != ':'))) then some (negated, tail)
      else none
    | _ => none
  | _ => none

/-- Whether a named class may stand here. -/
def Modes.fitsNamed (m : Modes) (negated : Bool) : Bool :=
  if m.unicode then !m.caseless else !negated

/-- Reads one character of a class. -/
def readMember (m : Modes) : List Char → Option (Atom × List Char)
  | [] => none
  | '\\' :: rest => readEscape m rest
  | c :: rest => some (.literal c false, rest)

/-- The characters behind the sign that negates a class, which bytes may not do. -/
def readNegation (m : Modes) (cs : List Char) : Option (List Char) :=
  match m.skip cs with
  | '^' :: rest => if m.unicode then some rest else none
  | rest => some rest

/-- Reads a character or a range, and what follows. -/
def readRange (m : Modes) (cs : List Char) : Option (List Char) := do
  let (first, rest) ← readMember m cs
  if !first.fitsClass m then none
  else
    match m.skip rest with
    | '-' :: tail =>
      -- a hyphen in front of a bracket or of another hyphen makes no range
      if m.peek tail == some ']' || m.peek tail == some '-' then return '-' :: tail
      else
        let (last, tail) ← readMember m (m.skip tail)
        match first, last with
        | .literal a _, .literal b _ => if last.fitsClass m && a ≤ b then return tail else none
        | _, _ => none
    | rest => return rest

/-- Reads the rest of a class up to its bracket, and finds its height. -/
def readClass (m : Modes) : Nat → ClassDraft → List Char → Option (Nat × List Char)
  | 0, _, _ => none
  | fuel + 1, d, cs =>
    match m.skip cs with
    | [] => none
    | c :: rest =>
      if d.opening && (c == '-' || (c == ']' && d.count == 0)) then
        if Atom.fitsClass m (.literal c false) then readClass m fuel (d.add 0 (c == '-')) rest
        else none
      else if c == ']' then some (d.whole, rest)
      else if c == '[' then
        match readNamed rest with
        | some (negated, tail) =>
          if m.fitsNamed negated then readClass m fuel (d.add 0 false) tail else none
        | none =>
          match readNegation m rest with
          | none => none
          | some rest =>
            match readClass m fuel {} rest with
            | none => none
            | some (height, tail) => readClass m fuel (d.add (height + 1) false) tail
      else if (c == '&' || c == '-' || c == '~') && rest.head? == some c then
        readClass m fuel d.operate (rest.drop 1)
      else
        match readRange m (c :: rest) with
        | none => none
        | some rest => readClass m fuel (d.add 0 false) rest

/-! ## Groups -/

/-- What a group has been read of: the greatest height of the alternatives in front of the last one,
and the parts of that, the newest first. A part has a height, or is a change of modes, which cannot
be repeated. -/
structure GroupDraft where
  front : Option Nat := none
  parts : List (Option Nat) := []

/-- The draft with one more part. -/
def GroupDraft.add (d : GroupDraft) (part : Option Nat) : GroupDraft :=
  { d with parts := part :: d.parts }

/-- The height of the last alternative. -/
def GroupDraft.last (d : GroupDraft) : Nat :=
  let height := d.parts.foldl (fun h part => max h (part.getD 0)) 0
  if d.parts.length ≤ 1 then height else height + 1

/-- The draft with one more alternative. -/
def GroupDraft.alternate (d : GroupDraft) : GroupDraft :=
  { front := some (max (d.front.getD 0) d.last) }

/-- The height of a group that ends here. -/
def GroupDraft.whole (d : GroupDraft) : Nat :=
  match d.front with
  | none => d.last
  | some front => max front d.last + 1

/-- The draft with its last part repeated. -/
def GroupDraft.repeated? (d : GroupDraft) : Option GroupDraft :=
  match d.parts with
  | some height :: older => some { d with parts := some (height + 1) :: older }
  | _ => none

/-- What an opening parenthesis begins. -/
inductive Opening where
  /-- Modes for the rest of the group around it. -/
  | modes (m : Modes)
  /-- A group with modes of its own, and the names of groups so far. -/
  | group (m : Modes) (names : List String)

/-- Reads the name of a group: letters, digits, points, underscores and brackets, with a letter or
an underscore in front. A name is given once. -/
def readName (names : List String) (cs : List Char) : Option (String × List Char) :=
  let word := cs.takeWhile (· != '>')
  let name := String.ofList word
  match word, cs.dropWhile (· != '>') with
  | c :: more, _ :: rest =>
    if (c == '_' || isAlphabetic c) &&
        (more.all fun c =>
          c == '_' || c == '.' || c == '[' || c == ']' || isAlphanumeric c) &&
        !names.contains name then
      some (name, rest)
    else none
  | _, _ => none

/-- Reads what follows an opening parenthesis. -/
def readOpening (m : Modes) (names : List String) (cs : List Char) :
    Option (Opening × List Char) :=
  let named (rest : List Char) :=
    (readName names rest).map fun (name, rest) => (Opening.group m (name :: names), rest)
  match m.skip cs with
  | '?' :: 'P' :: '<' :: rest => named rest
  | '?' :: '<' :: rest => named rest
  | '?' :: rest =>
    (readModes [] m rest).map fun (m, c, rest) =>
      (if c == ')' then .modes m else .group m names, rest)
  | rest => some (.group m names, rest)

/-- Reads a character outside of classes. -/
def readAtom (m : Modes) : List Char → Option (Atom × List Char)
  | [] => none
  | c :: rest =>
    if c == '\\' then readEscape m rest
    else if c == '.' then some (.any, rest)
    else if c == '^' || c == '$' then some (.anchor, rest)
    else some (.literal c false, rest)

/-- Reads parts up to the end of a group or of the text, and finds the height and the names of
groups. -/
def readGroup : Nat → Modes → List String → GroupDraft → List Char →
    Option (Nat × List String × List Char)
  | 0, _, _, _, _ => none
  | fuel + 1, m, names, d, cs =>
    match m.skip cs with
    | [] => some (d.whole, names, [])
    | c :: rest =>
      if c == ')' then some (d.whole, names, c :: rest)
      else if c == '|' then readGroup fuel m names d.alternate rest
      else if c == '(' then
        match readOpening m names rest with
        | none => none
        | some (.modes m, rest) => readGroup fuel m names (d.add none) rest
        | some (.group inner names, rest) =>
          match readGroup fuel inner names {} rest with
          | some (height, names, ')' :: rest) =>
            readGroup fuel m names (d.add (some (height + 1))) rest
          | _ => none
      else if c == '[' then
        match (readNegation m rest).bind (readClass m fuel {}) with
        | none => none
        | some (height, rest) => readGroup fuel m names (d.add (some (height + 1))) rest
      else if c == '?' || c == '*' || c == '+' then
        -- a question mark behind a repetition makes it a short one
        let rest := if rest.head? == some '?' then rest.drop 1 else rest
        match d.repeated? with
        | none => none
        | some d => readGroup fuel m names d rest
      else if c == '\x7b' then none
      else
        match readAtom m (c :: rest) with
        | none => none
        | some (atom, rest) =>
          if atom.fits m then readGroup fuel m names (d.add (some 0)) rest else none

/-- How deeply the parts of a pattern may lie in one another. -/
def heightLimit : Nat := 250

/-- Whether a text is a pattern. -/
def isPattern (cs : List Char) : Bool :=
  match readGroup (cs.length + 1) {} [] {} cs with
  | some (height, _, []) => height ≤ heightLimit
  | _ => false

end RequestPipeline.Pattern
