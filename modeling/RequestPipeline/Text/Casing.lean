import RequestPipeline.Text.Ranges
import RequestPipeline.Text.CaseTable

/-!
# Letter case

Full case conversion of a text, independent of any language. Conversion goes character by character;
the one character that looks around is the capital sigma, whose lower case depends on whether it
ends a word.
-/

namespace RequestPipeline.Text

/-- What a table of runs maps a code point to. -/
def CaseRuns.shift? (runs : CaseRuns) (n : Nat) : Option Nat :=
  runs.findSome? fun (first, last, step, shift) =>
    if first ≤ n && n ≤ last && (n - first) % step == 0 then some (Int.toNat (n + shift)) else none

/-- The other case of a character above ASCII by its two tables; a character in neither is its own.
-/
def otherCase (runs : CaseRuns) (expansions : Expansions) (c : Char) : List Char :=
  match expansions.lookup c.toNat with
  | some ns => ns.map Char.ofNat
  | none =>
    match runs.shift? c.toNat with
    | some n => [Char.ofNat n]
    | none => [c]

/-- The lower case of a character on its own. -/
def lowerChar (c : Char) : List Char :=
  if c.val < 0x80 then [c.toLower] else otherCase lowerRuns lowerExpansions c

/-- The upper case of a character on its own. -/
def upperChar (c : Char) : List Char :=
  if c.val < 0x80 then [c.toUpper] else otherCase upperRuns upperExpansions c

/-- Whether a character is upper case, lower case or title case. -/
def isCased (c : Char) : Bool :=
  if c.val < 0x80 then c.isAlpha else casedTable.holds c

/-- Whether the search for a neighbouring cased character passes over this one. -/
def isCaseIgnorable (c : Char) : Bool :=
  if c.val < 0x80 then c == '\x27' || c == '.' || c == ':' || c == '^' || c == '\x60'
  else caseIgnorableTable.holds c

/-- Whether the first character that is not passed over has case. -/
def startsCased (cs : List Char) : Bool :=
  match cs.dropWhile isCaseIgnorable with
  | [] => false
  | c :: _ => isCased c

/-- Lower case of the characters that follow `before`, which is held in reverse. A capital sigma
behind a cased character and not in front of one is a final one. -/
def lowerFrom (before : List Char) : List Char → List Char
  | [] => []
  | c :: rest =>
    -- a capital sigma
    let low := if c.toNat == 0x3a3 then
        [Char.ofNat (if startsCased before && !startsCased rest then 0x3c2 else 0x3c3)]
      else lowerChar c
    low ++ lowerFrom (c :: before) rest

/-- The text in lower case. -/
def lower (s : String) : String := String.ofList (lowerFrom [] s.toList)

/-- The text in upper case. -/
def upper (s : String) : String := String.ofList (s.toList.flatMap upperChar)

end RequestPipeline.Text
