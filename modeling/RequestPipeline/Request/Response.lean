import RequestPipeline.Json.Writer
import RequestPipeline.Request.Answer
import RequestPipeline.Request.Id

/-!
# Responses

A response is an answer written out: its body is a text, which has a content type, and it names the
request that it belongs to. What the answer says about either is kept.
-/

namespace RequestPipeline

open Http

/-- An answer written out. -/
structure Response where
  status : Status
  headers : Headers
  body : String
  deriving DecidableEq

/-- The text of a body. -/
def Body.written : Body → String
  | .none => ""
  | .text content => content
  | .json value => value.compact

/-- The name of the field that says what a body holds. -/
def contentType : HeaderName := { text := "content-type" }

/-- The name of the field that names the request. -/
def requestIdName : HeaderName := { text := "x-request-id" }

/-- What a body holds, unless it is empty by kind. -/
def Body.contentType? : Body → Option HeaderValue
  | .none => Option.none
  | .text _ => some (.ofAscii "text/plain; charset=utf-8")
  | .json _ => some (.ofAscii "application/json")

namespace Response

/-- A field added unless the name has one already. -/
def addMissing (h : Headers) (name : HeaderName) : Option HeaderValue → Headers
  | some value => h.insertIfMissing name value
  | none => h

/-- The response of an answer, which does not name a request yet. Its header section starts without
fields and takes over those of the answer. -/
def ofAnswer (a : Answer) : Response :=
  ⟨a.status, addMissing (Headers.empty.takeOver a.headers.grouped) contentType a.body.contentType?,
    a.body.written⟩

/-- The response of an answer to a request. -/
def render (id : RequestId) (a : Answer) : Response :=
  let r := ofAnswer a
  { r with headers := addMissing r.headers requestIdName (HeaderValue.ofText? id.text) }

end Response

/-- The place where a rendered response waits to be taken. -/
structure ResponseSlot where
  response : Option Response := none

namespace ResponseSlot

/-- Renders an answer; the response replaces one that was not taken. -/
def put (_ : ResponseSlot) (id : RequestId) (a : Answer) : ResponseSlot := ⟨some (.render id a)⟩

/-- Whether a response waits. -/
def holds (s : ResponseSlot) : Bool := s.response.isSome

/-- The waiting response and the emptied place. -/
def take (s : ResponseSlot) : Option Response × ResponseSlot := (s.response, ⟨none⟩)

end ResponseSlot

end RequestPipeline
