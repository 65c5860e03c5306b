/-!
# Request targets

A target is a path with a query, an authority alone, an asterisk, or a scheme with an authority and
a path. It prints in a normal form: the common schemes in lower case, a path even where none was
written, and no fragment.
-/

namespace RequestPipeline.Http

/-- Characters of a scheme. -/
def isSchemeChar (c : Char) : Bool :=
  c.isAlphanum || c == '+' || c == '-' || c == '.' || c == ':' || c == '~'

/-- Characters of an authority that need no escape. -/
def isAuthorityChar (c : Char) : Bool :=
  c.isAlphanum || c == '!' || c == '$' || c == '&' || c == '\x27' || c == '(' || c == ')' ||
    c == '*' || c == '+' || c == ',' || c == '-' || c == '.' || c == ';' || c == '=' || c == '_' ||
    c == '~'

/-- Characters of a path: what the standard allows, quotes and braces, and whatever is not ASCII. -/
def isPathChar (c : Char) : Bool :=
  let n := c.toNat
  n == 0x21 || (0x24 ≤ n && n ≤ 0x3b) || n == 0x3d || (0x40 ≤ n && n ≤ 0x5f) ||
    (0x61 ≤ n && n ≤ 0x7e) || n ≥ 0x80 || n == 0x22

/-- Characters of a query: whatever is neither a control, a blank, a double quote, an angle bracket
nor a number sign. -/
def isQueryChar (c : Char) : Bool :=
  let n := c.toNat
  n == 0x21 || (0x24 ≤ n && n ≤ 0x3b) || n == 0x3d || (0x3f ≤ n && n ≠ 0x7f)

/-- A request target: the scheme as it prints, the authority, and the path with the query. -/
structure Uri where
  scheme : Option String
  authority : String
  path : String
  query : Option String
  deriving DecidableEq, Repr

namespace Uri

/-- What has been seen of an authority so far: colons and percent signs since the last delimiter,
brackets, and whether the last character was an at sign. -/
structure AuthorityScan where
  colons : Nat
  opened : Bool
  closed : Bool
  percent : Bool
  afterAt : Bool

/-- Splits an authority from the path, query or fragment behind it. A bracketed host may hold up to
eight colons, any other part behind the user information at most one, and a percent sign belongs to
the user information or to a bracketed host. -/
def scanAuthority : AuthorityScan → List Char → Option (List Char × List Char)
  | scan, [] => finish scan []
  | scan, c :: rest =>
    if c == '/' || c == '?' || c == '#' then finish scan (c :: rest)
    else
      (step scan c).bind fun next =>
        (scanAuthority next rest).map fun (taken, tail) => (c :: taken, tail)
where
  /-- The end of the authority. -/
  finish (scan : AuthorityScan) (rest : List Char) : Option (List Char × List Char) :=
    if scan.opened != scan.closed || scan.colons > 1 || scan.afterAt || scan.percent then none
    else some ([], rest)
  /-- One character of the authority. -/
  step (scan : AuthorityScan) (c : Char) : Option AuthorityScan :=
    if c == ':' then
      if scan.colons ≥ 8 then none
      else some { scan with colons := scan.colons + 1, afterAt := false }
    else if c == '[' then
      if scan.percent || scan.opened then none
      else some { scan with opened := true, afterAt := false }
    else if c == ']' then
      if !scan.opened || scan.closed then none
      else some { scan with closed := true, colons := 0, percent := false, afterAt := false }
    else if c == '@' then some { scan with colons := 0, percent := false, afterAt := true }
    else if c == '%' then some { scan with percent := true, afterAt := false }
    else if isAuthorityChar c then some { scan with afterAt := false }
    else none

/-- Splits an authority from what follows it. -/
def authority? (cs : List Char) : Option (List Char × List Char) :=
  scanAuthority ⟨0, false, false, false, false⟩ cs

/-- The path and the query of the characters behind an authority; a fragment is dropped. -/
def pathAndQuery? (cs : List Char) : Option (List Char × Option (List Char)) :=
  let path := cs.takeWhile fun c => c != '?' && c != '#'
  let rest := cs.dropWhile fun c => c != '?' && c != '#'
  if !path.all isPathChar then none
  else
    match rest with
    | '?' :: rest =>
      let query := rest.takeWhile (· != '#')
      if query.all isQueryChar then some (path, some query) else none
    | _ => some (path, none)

/-- The length of a scheme in front of its colon and two slashes, if there is one of up to 64
characters; the outer option is empty when the scheme is too long. -/
def schemeLength? (cs : List Char) : Option (Option Nat) :=
  if cs.length ≤ 3 then some none
  else
    let scheme := cs.takeWhile fun c => isSchemeChar c && c != ':'
    match cs.drop scheme.length with
    | ':' :: '/' :: '/' :: _ => if scheme.length > 64 then none else some (some scheme.length)
    | _ => some none

/-- A scheme as it prints: the two common ones in lower case. -/
def schemeText (cs : List Char) : String :=
  let low := String.ofList (cs.map Char.toLower)
  if low == "http" || low == "https" then low else String.ofList cs

/-- The path of a target: never empty where there is a query or something in front of it. -/
def pathText (cs : List Char) : String := if cs.isEmpty then "/" else String.ofList cs

/-- Reads a target of up to 65534 bytes. -/
def ofText? (s : String) : Option Uri :=
  if s.utf8ByteSize > 65534 then none
  else
    match s.toList with
    | [] => none
    | ['*'] => some ⟨none, "", "*", none⟩
    | '/' :: rest =>
      (pathAndQuery? ('/' :: rest)).map fun (path, query) =>
        ⟨none, "", pathText path, query.map String.ofList⟩
    | cs => do
      match ← schemeLength? cs with
      | none =>
        let (authority, rest) ← authority? cs
        if rest.isEmpty && !authority.isEmpty then
          return ⟨none, String.ofList authority, "", none⟩
        else none
      | some n =>
        let (authority, rest) ← authority? (cs.drop (n + 3))
        if authority.isEmpty then none
        else
          let (path, query) ← pathAndQuery? rest
          return ⟨some (schemeText (cs.take n)), String.ofList authority, pathText path,
            query.map String.ofList⟩

/-- The root path. -/
def root : Uri := ⟨none, "", "/", none⟩

/-- The target as a text. -/
def text (u : Uri) : String :=
  (match u.scheme with
    | some scheme => scheme ++ "://"
    | none => "") ++ u.authority ++ u.path ++
    match u.query with
    | some query => "?" ++ query
    | none => ""

end Uri

end RequestPipeline.Http
