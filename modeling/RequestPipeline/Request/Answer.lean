import RequestPipeline.Http.Header
import RequestPipeline.Http.Status
import RequestPipeline.Json.Basic
import RequestPipeline.Request.Action

/-!
# Answers

An answer is what a request comes to before it is written out: a status, header fields and a body.
An action produces an answer, a value or nothing, and each of these comes to an answer.
-/

namespace RequestPipeline

open Http

/-- The body of an answer. -/
inductive Body where
  | none
  | text (content : String)
  | json (value : Json)
  deriving Repr, Inhabited

/-- What a request comes to. -/
structure Answer where
  status : Status
  headers : Headers
  body : Body
  deriving Inhabited

namespace Answer

/-- An answer without header fields. -/
def plain (status : Status) (body : Body) : Answer := ⟨status, .empty, body⟩

/-- A successful answer without a body. -/
def empty : Answer := plain .ok .none

/-- An answer without a body. -/
def bare (status : Status) : Answer := plain status .none

/-- An answer whose body is a text. -/
def text (status : Status) (content : String) : Answer := plain status (.text content)

/-- An answer whose body is a value. -/
def json (status : Status) (value : Json) : Answer := plain status (.json value)

/-- An answer that reports an error by its code and message. -/
def error (status : Status) (code message : String) : Answer :=
  json status (.obj [("error", .obj [("code", .str code), ("message", .str message)])])

/-- The content of a text body. -/
def bodyText? (a : Answer) : Option String :=
  match a.body with
  | .text content => some content
  | _ => Option.none

/-- The value of a JSON body. -/
def bodyJson? (a : Answer) : Option Json :=
  match a.body with
  | .json value => some value
  | _ => Option.none

/-- The answer with a header field that replaces those of its name. -/
def withHeader (a : Answer) (name : HeaderName) (value : HeaderValue) : Answer :=
  { a with headers := a.headers.insert name value }

end Answer

/-- What an action produces. -/
inductive Output where
  | result (answer : Answer)
  | value (value : Json)
  | unit
  deriving Inhabited

namespace Output

/-- The kind of an output. -/
def kind : Output → ReturnKind
  | .result _ => .result
  | .value _ => .value
  | .unit => .unit

/-- The answer that an output comes to. -/
def toAnswer : Output → Answer
  | .result answer => answer
  | .value v => .json .ok v
  | .unit => .empty

end Output

end RequestPipeline
