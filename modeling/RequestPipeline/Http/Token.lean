/-!
# Tokens

Header names and request methods are tokens: one or more visible characters of ASCII that are no
delimiters.
-/

namespace RequestPipeline.Http

/-- The characters of a token. -/
def isTokenChar (c : Char) : Bool :=
  ('a' ≤ c && c ≤ 'z') || ('A' ≤ c && c ≤ 'Z') || ('0' ≤ c && c ≤ '9') || c == '!' || c == '#' ||
    c == '$' || c == '%' || c == '&' || c == '\x27' || c == '*' || c == '+' || c == '-' ||
    c == '.' ||
    c == '^' || c == '_' || c == '\x60' || c == '|' || c == '~'

/-- Whether a text is a token. -/
def isToken (s : String) : Bool := !s.isEmpty && s.toList.all isTokenChar

/-- A request method: any token, and letter case counts. -/
structure Method where
  name : String
  token : isToken name = true := by decide
  deriving DecidableEq

namespace Method

/-- The method of a name, if the name is a token. -/
def ofName? (name : String) : Option Method :=
  if token : isToken name = true then some ⟨name, token⟩ else none

/-- The method of a request that only reads. -/
def get : Method := { name := "GET" }
/-- The method of a request for the header section alone. -/
def head : Method := { name := "HEAD" }
/-- The method of a request that submits. -/
def post : Method := { name := "POST" }
/-- The method of a request that stores. -/
def put : Method := { name := "PUT" }
/-- The method of a request that deletes. -/
def delete : Method := { name := "DELETE" }
/-- The method of a request that changes a part. -/
def patch : Method := { name := "PATCH" }
/-- The method of a request about what is allowed. -/
def options : Method := { name := "OPTIONS" }

/-- A method is determined by its name. -/
theorem ofName?_eq_some_iff {name : String} {m : Method} :
    ofName? name = some m ↔ m.name = name := by
  unfold ofName?
  split
  · constructor
    · rintro h
      cases h
      rfl
    · rintro rfl
      rfl
  · next h =>
    constructor
    · intro h'
      cases h'
    · rintro rfl
      exact absurd m.token h

end Method

end RequestPipeline.Http
