import RequestPipeline.Settings.Pattern
import RequestPipeline.Text.Bytes
import RequestPipeline.Text.Split

/-!
# Log directives

The level of a log is given by directives with commas between them. A directive is a level, a
target, or a target with a level of its own; a target may name a span and a field in it, and the
field may have a number or a pattern for its values.
-/

namespace RequestPipeline.Directive

open Text

/-- The names of levels. -/
def levelNames : List String := ["off", "error", "warn", "info", "debug", "trace"]

/-- The number that a sequence of decimal digits writes behind the number `n`. -/
def decimal? : Nat → List Char → Option Nat
  | n, [] => some n
  | n, c :: rest => if c.isDigit then decimal? (n * 10 + (c.toNat - 0x30)) rest else none

/-- The natural number that a text writes, with or without a plus sign. -/
def natural? (cs : List Char) : Option Nat :=
  match cs with
  | [] => none
  | ['+'] => none
  | '+' :: rest => decimal? 0 rest
  | cs => decimal? 0 cs

/-- Whether a text is a level: a name in any letter case, or a number from 0 to 5. -/
def isLevel (cs : List Char) : Bool :=
  ((natural? cs).any fun n => n ≤ 5) || levelNames.contains (String.ofList (cs.map Char.toLower))

/-- The exponent of a number, or nothing. -/
def isExponent : List Char → Bool
  | [] => true
  | c :: rest =>
    let digits := if rest.head? == some '+' || rest.head? == some '-' then rest.drop 1 else rest
    (c == 'e' || c == 'E') && !digits.isEmpty && digits.all Char.isDigit

/-- Whether a text is a number: digits with or without a point and an exponent, an infinity, or no
number at all. -/
def isNumber (cs : List Char) : Bool :=
  let cs := if cs.head? == some '+' || cs.head? == some '-' then cs.drop 1 else cs
  let whole := cs.takeWhile Char.isDigit
  let (places, rest) :=
    match cs.dropWhile Char.isDigit with
    | '.' :: rest => (rest.takeWhile Char.isDigit, rest.dropWhile Char.isDigit)
    | rest => ([], rest)
  ["inf", "infinity", "nan"].contains (String.ofList (cs.map Char.toLower)) ||
    !(whole ++ places).isEmpty && isExponent rest

/-- Whether a text is a field. What stands between its first two equals signs is a number, a truth
value or a pattern, and each truth value is a pattern too. -/
def isField (cs : List Char) : Bool :=
  match splitChars '=' cs with
  | _ :: value :: _ => isNumber value || Pattern.isPattern value
  | _ => true

/-- What part of a directive is being read. -/
inductive Part where
  | start
  /-- A word that may turn out to be a target or a level. -/
  | word
  /-- A span inside brackets. -/
  | span
  /-- A field of a span, and its first position. -/
  | field (first : Nat)
  /-- What may follow the field. -/
  | behindField
  /-- What may follow the span. -/
  | behindSpan
  /-- The level behind an equals sign, and its first position. -/
  | level (first : Nat)

/-- The part that a character at a position leads to in a text. -/
def Part.next (text : List Char) (i : Nat) (c : Char) : Part → Option Part
  | .start =>
    if c == '[' then some .span
    else if c == '-' || c == ':' || c == '_' || isAlphanumeric c then some .word
    else none
  | .word =>
    if c == '=' then some (.level (i + 1)) else if c == '[' then some .span else some .word
  | .span =>
    if c == ']' then some .behindSpan
    else if c == '\x7b' then some (.field (i + 1))
    else some .span
  | .field first =>
    if c == '\x7d' then
      if i = first || !isField (takeBytes (i - first) (dropBytes first text)) then none
      else some .behindField
    else some (.field first)
  | .behindField => if c == ']' then some .behindSpan else none
  | .behindSpan => if c == '=' then some (.level (i + 1)) else none
  | .level first => some (.level first)

/-- The part that the characters from a position on lead to. -/
def Part.walk (text : List Char) : Nat → List Char → Part → Option Part
  | _, [], p => some p
  | i, c :: rest, p => (p.next text i c).bind (walk text (i + c.utf8Size) rest)

/-- Whether a text is one directive. Blanks around it are passed over, but where a field or a level
starts is counted in bytes from the first of them. -/
def isDirective (cs : List Char) : Bool :=
  match Part.walk cs 0 (trimChars cs) .start with
  | some .word => true
  | some .behindSpan => true
  | some (.level first) => let text := dropBytes first cs; text.isEmpty || isLevel text
  | _ => false

/-- Whether a text is a list of directives; empty ones are passed over. -/
def isValid (s : String) : Bool :=
  ((splitChars ',' s.toList).filter fun part => !part.isEmpty).all isDirective

end RequestPipeline.Directive
