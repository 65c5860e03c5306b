import RequestPipeline.Request.Data
import RequestPipeline.Run.Dispatcher
import RequestPipeline.Run.Observation

/-!
# Transcripts

What happened on behalf of requests as data: the filters that took part, what each of them saw, what
was invoked and rendered, and what it came to.
-/

namespace RequestPipeline

/-- Markers by name. -/
def Marker.names (ms : List Marker) : Json := .ofStrings (ms.map (·.name))

/-- Where a filter comes from, as data. -/
def Source.toJson : Source → Json
  | .shared f => .arr [.str "instance", .str f.name, .ofOption .ofInt f.order]
  | .factory _ => .arr [.str "factory"]

/-- A registration as data. -/
def Registration.toJson (r : Registration) : Json :=
  let l := r.listing
  .obj [("capabilities", .str l.capabilities.text), ("name", .str l.name),
    ("order", .ofInt l.order), ("policies", Marker.names l.policies), ("scope", .str l.scope.word),
    ("source", r.source.toJson)]

/-- The place of a listing in a plan, as data. -/
def Listing.placing (l : Listing) : Json := .arr [.str l.name, .ofInt l.order, .str l.scope.word]

namespace Failure

/-- The name of the kind of a failure. -/
def kind : Failure → String
  | unhandled .. => "Unhandled"
  | capabilityMismatch .. => "CapabilityMismatch"
  | noEffectivePolicy _ => "NoEffectivePolicy"
  | factoryFailed .. => "FactoryFailed"
  | contextReused _ => "ContextReused"

/-- A failure as data. -/
def toJson (e : Failure) : Json :=
  .ofPresent
    [("error", some (.str e.kind)), ("fault", e.fault?.map Fault.toJson),
      ("message", some (.str e.message)), ("misuse", some (.bool e.isMisuse))]

end Failure

/-- What a run came to, as data. -/
def Outcome.toJson (o : Outcome) : Json :=
  .obj [("canceled", .bool o.canceled), ("recovered", .bool o.recovered),
    ("render_suppressed", .bool o.suppressed), ("rendered", .bool o.rendered),
    ("result", .ofOption Answer.toJson o.result)]

/-- What a request came to, as data. -/
def outcomeToJson : Except Failure Outcome → Json
  | .ok o => o.toJson
  | .error e => e.toJson

/-- Why a request came to no response, as data. -/
def DispatchError.toJson (e : DispatchError) : Json :=
  let told : String × Json := match e with
    | .pipeline failure => ("Pipeline", failure.toJson)
    | .notRendered _ => ("NotRendered", .bool false)
  .obj [("error", .str told.1), ("message", .str e.message), ("pipeline", told.2)]

/-- The fault in flight as data. -/
def State.faultToJson (s : State) : Json := .ofOption (fun p => p.fault.toJson) s.pending

/-- A context as data. -/
def Context.toJson (c : Context) : Json :=
  let s := c.state
  .obj [("args", s.call.arguments.pairs), ("canceled", .bool s.canceled),
    ("executed", .bool s.executed), ("fault", s.faultToJson), ("filters", .ofNat c.places.length),
    ("handled", .bool s.handled), ("recovered", .bool s.recovered), ("rendered", .bool s.rendered),
    ("result", .ofOption Answer.toJson s.result), ("suppressed", .bool s.suppressed)]

/-- What a moment shows of the state of a run, besides the result. -/
def Callback.shown (callback : Callback) (s : State) : List (String × Json) :=
  let fault := ("fault", s.faultToJson)
  let handled := ("handled", Json.bool s.handled)
  let canceled := ("canceled", Json.bool s.canceled)
  let rendered := ("rendered", Json.bool s.rendered)
  let suppressed := ("suppressed", Json.bool s.suppressed)
  match callback with
  | .authorization | .resourceBefore => []
  | .actionBefore => [("args", s.call.arguments.pairs)]
  | .resultBefore => [suppressed]
  | .exception => [fault, handled]
  | .actionAfter => [fault, handled, canceled]
  | .resourceAfter => [fault, handled, canceled, rendered]
  | .resultAfter => [fault, handled, canceled, rendered, suppressed]

namespace Sight

/-- The place of the filter that sees. -/
def placing (s : Sight) : Json :=
  .arr [.ofNat s.index, .ofOption (fun l => .str l.name) s.listing,
    .ofOption (fun l => .str l.scope.word) s.listing]

/-- The policies that the filter asked about. -/
def asked (s : Sight) : List (String × Json) :=
  if s.policies.isEmpty then []
  else
    [("policies", .arr (s.policies.map fun p =>
      .arr [.str p.1.name, .bool p.2.1, .ofOption .str p.2.2]))]

/-- What a filter saw, as data. -/
def toJson (s : Sight) : Json :=
  .obj [("at", .str s.callback.word), ("in", .str s.filter),
    ("see", .obj (("filter", s.placing) :: ("result", .ofOption Answer.toJson s.state.result) ::
      (s.asked ++ s.callback.shown s.state)))]

end Sight

/-- What a filter tells whoever made it, as data. What it tells for the log is not part of it. -/
def Remark.toJson? : Remark → Option Json
  | .sight s => some s.toJson
  | .note value => some (.obj [("note", value)])
  | .report text => some (.obj [("debug", .str text)])
  | .denied .. | .enveloped .. => none

/-- What a transcript tells of an event. -/
def Event.transcript : Event → List Json
  | .sought registration => [.obj [("at", .str "resolve"), ("in", .str registration)]]
  | .constructed registration action =>
    [.obj [("action", .str action), ("at", .str "factory"), ("in", .str registration)]]
  | .called _ _ _ _ reply => reply.remarks.filterMap Remark.toJson?
  | .invoked c =>
    [.obj [("args", c.arguments.pairs), ("at", .str "invoke"), ("in", .str c.action.displayName)]]
  | .rendered answer => [.obj [("at", .str "render"), ("result", answer.toJson)]]
  | _ => []

/-- The transcript of a list of events. -/
def transcript (es : List Event) : Json := .arr (es.flatMap Event.transcript)

/-- Named values with an equals sign between name and value. -/
def labelTexts (labels : List (String × String)) : Json :=
  .ofStrings (labels.map fun l => l.1 ++ "=" ++ l.2)

/-- A measurement as data. -/
def Metric.toJson : Metric → Json
  | .counter name labels increment => .arr [.str name, labelTexts labels, .ofNat increment]
  | .duration name labels => .arr [.str name, labelTexts labels]

/-- Named values as an object. -/
def fieldValues (fields : List (String × String)) : Json :=
  .obj (fields.map fun f => (f.1, .str f.2))

/-- An entry of the log as data. -/
def LogEntry.toJson : LogEntry → Json
  | .span name fields => .arr [.str "SPAN", .str name, fieldValues fields]
  | .line level message fields => .arr [.str level.word, .str message, fieldValues fields]

end RequestPipeline
