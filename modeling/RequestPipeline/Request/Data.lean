import RequestPipeline.Request.Call
import RequestPipeline.Request.Response

/-!
# Requests as data

Answers, responses, faults and arguments as data, for whoever keeps a record of them. A fault tells
its chain of messages only if there is a context around its cause.
-/

namespace RequestPipeline

open Http

/-- Header fields as pairs, in order. -/
def Http.Headers.toJson (h : Headers) : Json :=
  .arr (h.fields.map fun f => .arr [.str f.name.text, .str f.value.text])

/-- A body as data. -/
def Body.toJson : Body → Json
  | .none => .null
  | .text content => .obj [("text", .str content)]
  | .json value => .obj [("json", value)]

/-- An answer as data. -/
def Answer.toJson (a : Answer) : Json :=
  .obj [("body", a.body.toJson), ("headers", a.headers.toJson), ("status", .ofNat a.status.code)]

/-- A response as data. -/
def Response.toJson (r : Response) : Json :=
  .obj [("body", .str r.body), ("headers", r.headers.toJson), ("status", .ofNat r.status.code)]

namespace Cause

/-- The name of the kind of a cause. -/
def kind : Cause → String
  | plain _ => "plain"
  | service .. => "service"
  | cancelled _ => "cancelled"
  | contract .. => "contract"

/-- What a cause holds, unless it has a message only. -/
def detail? : Cause → Option Json
  | plain _ => none
  | service category message =>
    some (.arr [.str category.word, .str message, .ofNat category.status.code])
  | cancelled id => some (.str id.text)
  | contract action declared produced =>
    some (.arr [.str action, .str declared.word, .str produced.word])

end Cause

/-- A fault as data. -/
def Fault.toJson (f : Fault) : Json :=
  .ofPresent
    [("chain", if f.contexts.isEmpty then none else some (.ofStrings f.chain)),
      ("detail", f.cause.detail?),
      ("kind", some (.str f.cause.kind)),
      ("message", some (.str f.message))]

/-- Arguments as pairs, in order. -/
def Arguments.pairs (as : Arguments) : Json := .arr (as.map fun a => .arr [.str a.1, a.2])

end RequestPipeline
