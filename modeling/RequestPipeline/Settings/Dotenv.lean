import RequestPipeline.Settings.Environment
import RequestPipeline.Text.Letters

/-!
# Variables from a file

A file of variables has one a line, with quotes, escapes, comments and references to other
variables. A quoted value may run over several lines. A variable that is set already keeps its
value.
-/

namespace RequestPipeline.Dotenv

open Text

/-! ## Logical lines -/

/-- What the reader of lines is inside of. -/
inductive Quoting where
  | plain
  /-- Behind a blank, where a comment may begin. -/
  | blank
  | escape
  | strong
  | strongEscape
  | weak
  | weakEscape
  deriving DecidableEq

/-- What a character leads to where quotes may open. -/
def Quoting.opened (c : Char) : Quoting :=
  if c == '\\' then .escape else if c == '"' then .weak else if c == '\x27' then .strong else .plain

/-- What a character leads to. -/
def Quoting.next (c : Char) : Quoting → Quoting
  | .plain => if isBlank c && c != '\n' && c != '\r' then .blank else .opened c
  | .blank => .opened c
  | .escape => .plain
  | .strong =>
    if c == '\\' then .strongEscape else if c == '\x27' then .plain else .strong
  | .strongEscape => .strong
  | .weak => if c == '\\' then .weakEscape else if c == '"' then .plain else .weak
  | .weakEscape => .weak

/-- The characters in front of a comment, and what their end is inside of, or nothing if a comment
follows. -/
def scan : Quoting → List Char → List Char × Option Quoting
  | q, [] => ([], some q)
  | q, c :: rest =>
    if q == .blank && c == '#' then ([], none)
    else
      let (kept, state) := scan (q.next c) rest
      (c :: kept, state)

/-- The lines of a text, each with its end. -/
def physicalLines : List Char → List (List Char)
  | [] => []
  | c :: rest =>
    if c == '\n' then ['\n'] :: physicalLines rest
    else
      match physicalLines rest with
      | [] => [[c]]
      | line :: lines => (c :: line) :: lines

/-- A line without its end. -/
def stripEnd (cs : List Char) : List Char :=
  if cs.getLast? == some '\n' then
    let cs := cs.dropLast
    if cs.getLast? == some '\r' then cs.dropLast else cs
  else cs

/-- The logical lines of physical ones, of which `held` have been read inside of something; nothing
stands for a line that never ends. A line that is a comment is empty, and where a comment follows
what runs over several lines, the position of the comment in its own line cuts all of them. -/
def logicalLines (held : List Char) (q : Quoting) : List (List Char) → List (Option (List Char))
  | [] => if q == .plain then [] else [none]
  | line :: rest =>
    let all := held ++ line
    if (trimLeft all).head? == some '#' then some [] :: logicalLines [] .plain rest
    else
      match scan q line with
      -- a comment ends the line, of which as much is kept as stands in front of it here
      | (kept, none) => some (takeBytes (byteLength kept) all) :: logicalLines [] .plain rest
      | (_, some .plain) => some (stripEnd all) :: logicalLines [] .plain rest
      -- the line goes on behind its end
      | (_, some q) => logicalLines all q rest

/-! ## Values -/

/-- The variables of the file read so far. -/
abbrev Known := List (String × String)

/-- How a reference to a variable is being read. -/
inductive Reference where
  | none
  | bare
  | braced
  deriving DecidableEq

/-- A value being read. -/
structure Draft where
  strong : Bool := false
  weak : Bool := false
  escaped : Bool := false
  ended : Bool := false
  reference : Reference := .none
  name : List Char := []
  output : List Char := []

/-- The value of a variable that is referred to: that of the environment comes first. -/
def resolve (env : Environment) (known : Known) (name : List Char) : List Char :=
  let name := String.ofList name
  match env.value? name with
  | some value => value
  | none => ((known.lookup name).getD "").toList

/-- The draft with the reference at its end resolved. -/
def Draft.refer (d : Draft) (env : Environment) (known : Known) : Draft :=
  { d with output := d.output ++ resolve env known d.name, name := [], reference := .none }

/-- The draft with one more character in its output. -/
def Draft.push (d : Draft) (c : Char) : Draft := { d with output := d.output ++ [c] }

/-- One more character of an unfinished reference. -/
def Draft.readReference (d : Draft) (env : Environment) (known : Known) (c : Char) : Draft :=
  if isAlphanumeric c then { d with name := d.name ++ [c] }
  else if d.reference == .braced then
    if c == '\x7d' then d.refer env known else { d with name := d.name ++ [c] }
  else if c == '\x7b' && d.name.isEmpty then { d with reference := .braced }
  else
    let d := d.refer env known
    if c == '$' then { d with reference := .bare } else d.push c

/-- One more character outside of references. -/
def Draft.readChar (d : Draft) (c : Char) : Draft :=
  if c == '$' then { d with reference := .bare }
  else if d.weak then
    if c == '"' then { d with weak := false }
    else if c == '\\' then { d with escaped := true }
    else d.push c
  else if c == '\x27' then { d with strong := true }
  else if c == '"' then { d with weak := true }
  else if c == '\\' then { d with escaped := true }
  else if c == ' ' || c == '\t' then { d with ended := true }
  else d.push c

/-- The character of an escape. -/
def escape? (c : Char) : Option Char :=
  if c == '\\' || c == '\x27' || c == '"' || c == '$' || c == ' ' then some c
  else if c == 'n' then some '\n'
  else none

/-- Reads the characters of a value. Behind a blank outside of quotes only a comment may come, and
an escape stands for one of a few characters. -/
def readValue (env : Environment) (known : Known) : List Char → Draft → Option Draft
  | [], d => some d
  | c :: rest, d =>
    if d.ended then
      if c == ' ' || c == '\t' then readValue env known rest d
      else if c == '#' then some d
      else none
    else if d.escaped then
      (escape? c).bind fun e => readValue env known rest { d.push e with escaped := false }
    else if d.strong then
      readValue env known rest (if c == '\x27' then { d with strong := false } else d.push c)
    else if d.reference != .none then readValue env known rest (d.readReference env known c)
    else readValue env known rest (d.readChar c)

/-- The value that characters write. -/
def value? (env : Environment) (known : Known) (cs : List Char) : Option String :=
  (readValue env known cs {}).bind fun d =>
    if d.reference == .braced || d.strong || d.weak then none
    else some (String.ofList (d.refer env known).output)

/-! ## Lines -/

/-- Whether a character may begin a name. -/
def isNameStart (c : Char) : Bool := c.isAlpha || c == '_'

/-- Whether a character may continue a name. -/
def isNameChar (c : Char) : Bool := c.isAlphanum || c == '_' || c == '.'

/-- Reads a name. -/
def name? (cs : List Char) : Option (String × List Char) :=
  match cs with
  | c :: _ =>
    if isNameStart c then
      some (String.ofList (cs.takeWhile isNameChar), cs.dropWhile isNameChar)
    else none
  | [] => none

/-- The characters behind an equals sign. -/
def behindEquals? : List Char → Option (List Char)
  | '=' :: rest => some rest
  | _ => none

/-- Reads the name in front of an equals sign; the word `export` may stand before it. -/
def assigned? (cs : List Char) : Option (String × List Char) := do
  let (name, rest) ← name? cs
  match behindEquals? (trimLeft rest) with
  | some rest => return (name, trimLeft rest)
  | none =>
    if name == "export" then
      let (name, rest) ← name? (trimLeft rest)
      let rest ← behindEquals? (trimLeft rest)
      return (name, trimLeft rest)
    else none

/-- The variable of a line, if it has one; the outer option is empty for a line that cannot be read.
-/
def binding? (env : Environment) (known : Known) (line : List Char) :
    Option (Option (String × String)) :=
  let cs := trimChars line
  if cs.isEmpty || cs.head? == some '#' then some none
  else
    (assigned? cs).bind fun (name, rest) =>
      if rest.isEmpty || rest.head? == some '#' then some (some (name, ""))
      else (value? env known rest).map fun value => some (name, value)

/-- The environment with the variables of lines added. -/
def loadLines : List (Option (List Char)) → Environment → Known → Option Environment
  | [], env, _ => some env
  | none :: _, _, _ => none
  | some line :: rest, env, known =>
    match binding? env known line with
    | none => none
    | some none => loadLines rest env known
    | some (some (name, value)) =>
      loadLines rest (env.addMissing name value) ((name, value) :: known)

/-- The environment with the variables of a file added; a byte order mark in front is passed over.
-/
def load (content : String) (env : Environment) : Option Environment :=
  let cs :=
    match content.toList with
    | '\ufeff' :: rest => rest
    | cs => cs
  loadLines (logicalLines [] .plain (physicalLines cs)) env []

end RequestPipeline.Dotenv
