import RequestPipeline.Run.Execution
import RequestPipeline.Text.Record

/-!
# Summaries

What people read about filters, contexts and pipelines while looking into a run.
-/

namespace RequestPipeline

open Text

/-- A summary of a policy marker. -/
def Marker.summary (m : Marker) : String := wrapped "PolicyMarker" (quoted m.name)

/-- A summary of a list of markers. -/
def Marker.summaries (ms : List Marker) : String := bracketed (ms.map Marker.summary)

/-- A summary of a filter. -/
def Filter.summary (f : Filter) : String :=
  record "Filter"
    [("name", quoted f.name), ("order", optional (f.order.map toString)),
      ("policies", Marker.summaries f.policies), ("capabilities", quoted f.capabilities.text)]

/-- A summary of where a filter comes from. -/
def Source.summary : Source → String
  | .shared f => wrapped "Instance" (quoted f.name)
  | .factory _ => "Factory"

/-- A summary of the state of a run with a number of filters. -/
def State.summary (s : State) (filters : Nat) : String :=
  record "PipelineContext"
    [("request_id", wrapped "RequestId" s.call.id.text),
      ("action", quoted s.call.action.displayName),
      ("filters", toString filters),
      ("result", optional (s.result.map fun a => toString a.status.code)),
      ("exception", optional (s.pending.map fun p => quoted p.fault.message)),
      ("exception_handled", truth s.handled),
      ("canceled", truth s.canceled),
      ("rendered", truth s.rendered)]

/-- A summary of a context. -/
def Context.summary (c : Context) : String := c.state.summary c.places.length

/-- The name under which a moment is reported. -/
def Callback.summaryName : Callback → String
  | .authorization => "AuthorizationContext"
  | .resourceBefore => "ResourceExecutingContext"
  | .resourceAfter => "ResourceExecutedContext"
  | .actionBefore => "ActionExecutingContext"
  | .actionAfter => "ActionExecutedContext"
  | .exception => "ExceptionContext"
  | .resultBefore => "ResultExecutingContext"
  | .resultAfter => "ResultExecutedContext"

/-- A summary of what a filter sees at a moment. -/
def View.summary (v : View) (callback : Callback) : String :=
  record callback.summaryName [("pipeline", v.state.summary v.listings.length)]

/-- A summary of options. -/
def Options.summary (o : Options) : String :=
  record "PipelineOptions"
    [("trace_filters", truth o.traceFilters), ("record_metrics", truth o.recordMetrics),
      ("required_policies", Marker.summaries o.requiredPolicies)]

/-- A summary of a pipeline. -/
def Pipeline.summary (p : Pipeline) : String :=
  partialRecord "Pipeline" [("options", p.options.summary)]

end RequestPipeline
