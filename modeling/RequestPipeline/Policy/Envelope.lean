import RequestPipeline.Filter.Basic

/-!
# Error envelopes

A fault is answered by an envelope with a code, a message and the request. What a service error says
about the request is passed on; what went wrong inside is kept from callers unless it is exposed.
-/

namespace RequestPipeline

/-- How faults are put into envelopes. -/
structure Envelope where
  exposesInternal : Bool := false
  /-- What is said about faults whose message is kept back. -/
  internalMessage : String := "An internal error occurred"
  order : Int := 0
  deriving DecidableEq

namespace Envelope

/-- The envelope of a category and a message. -/
def compose (category : Category) (message : String) (id : RequestId) : Answer :=
  .json category.status
    (.obj [("error",
      .obj [("code", .str category.code), ("message", .str message),
        ("request_id", .str id.text)])])

/-- The category and the message of the envelope of a fault. -/
def content (e : Envelope) (f : Fault) : Category × String :=
  match f.cause with
  | .cancelled _ => (.timeout, "Request was cancelled")
  | .service category message =>
    (category, if category != .internal || e.exposesInternal then message else e.internalMessage)
  | _ => (.internal, if e.exposesInternal then f.message else e.internalMessage)

/-- The envelope of a fault. -/
def answer (e : Envelope) (f : Fault) (id : RequestId) : Answer :=
  compose (e.content f).1 (e.content f).2 id

/-- Answers a fault that nobody has handled yet. -/
def onException (e : Envelope) : Behaviour := fun v =>
  if v.state.handled || !v.isEffective .errorEnvelope then {}
  else
    match v.state.pending with
    | none => {}
    | some p =>
      let answer := e.answer p.fault v.state.call.id
      { result := some answer
        handled := true
        remarks := [.enveloped answer.status p.fault] }

/-- The filter that puts faults into envelopes. -/
def toFilter (e : Envelope) : Filter where
  name := "error-envelope"
  order := some e.order
  policies := [.errorEnvelope]
  exception := some e.onException

end Envelope

end RequestPipeline
