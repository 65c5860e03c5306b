import RequestPipeline.Run.Execution

/-!
# What is observed of a run

The log and the metrics are read off the events of a run. Options decide how much is read; they have
no say in what happens.
-/

namespace RequestPipeline

/-- How important a line of the log is. -/
inductive Level where
  | debug
  | info
  | warn
  | error
  deriving DecidableEq, Repr

/-- The name of a level. -/
def Level.word : Level → String
  | .debug => "DEBUG"
  | .info => "INFO"
  | .warn => "WARN"
  | .error => "ERROR"

/-- An entry of the log, with named values. -/
inductive LogEntry where
  /-- Something that lasts begins. -/
  | span (name : String) (fields : List (String × String))
  /-- Something happens. -/
  | line (level : Level) (message : String) (fields : List (String × String))
  deriving DecidableEq

/-- A measurement, with its labels in order. -/
inductive Metric where
  /-- Something is counted. -/
  | counter (name : String) (labels : List (String × String)) (increment : Nat)
  /-- A duration is taken. -/
  | duration (name : String) (labels : List (String × String))
  deriving DecidableEq

/-- The log of a remark: what people watch for goes there, the rest is for whoever made the filter.
-/
def Remark.log : Remark → List LogEntry
  | .denied action status =>
    [.line .info "request denied" [("action", action), ("status", toString status.code)]]
  | .enveloped status fault =>
    [.line .warn "fault converted to error envelope"
      [("status", toString status.code), ("error", fault.message)]]
  | _ => []

/-- Entries that are logged only on demand. -/
def Options.traced (o : Options) (entry : LogEntry) : List LogEntry :=
  if o.traceFilters then [entry] else []

/-- The log of an event. -/
def Event.log (o : Options) : Event → List LogEntry
  | .opened id action filters =>
    [.span "filter_pipeline"
      [("request_id", id.text), ("action", action), ("filters", toString filters)]]
  | .called callback _ listing _ reply =>
    o.traced (.line .debug "invoking filter"
      [("filter", listing.name), ("phase", callback.logWord), ("order", toString listing.order),
        ("scope", listing.scope.word)]) ++ reply.remarks.flatMap Remark.log
  | .shortCircuited registration phase =>
    [.line .info "filter short-circuited the pipeline"
      [("filter", registration), ("phase", phase.word)]]
  | .raised phase fault =>
    o.traced (.line .debug "fault raised" [("phase", phase.word), ("error", fault.message)])
  | .invoking => o.traced (.line .debug "invoking action" [])
  | .renderingDirectly => o.traced (.line .debug "rendering outside the result phase" [])
  | .settled phase _ => [.line .warn "fault handled by filter" [("phase", phase.word)]]
  | .abandoned phase fault =>
    [.line .error "unhandled fault" [("phase", phase.word), ("error", fault.message)]]
  | .registered action => [.line .debug "registering action filters" [("action", action)]]
  | .planKept action filters =>
    [.line .debug "caching filter plan" [("action", action), ("filters", toString filters)]]
  | .sought .. | .constructed .. | .invoked .. | .rendered .. | .finished .. => []

/-- The count of faults that left a run. -/
def Metric.fault (phase : Phase) (handled : Bool) : Metric :=
  .counter "bastion_faults_total"
    [("handled", if handled then "true" else "false"), ("phase", phase.word)] 1

/-- The measurements that an event gives rise to. -/
def Event.measure : Event → List Metric
  | .shortCircuited _ phase => [.counter "bastion_short_circuits_total" [("phase", phase.word)] 1]
  | .settled phase _ => [.fault phase true]
  | .abandoned phase _ => [.fault phase false]
  | .finished action ending =>
    [.counter "bastion_pipeline_executions_total" [("action", action), ("outcome", ending.word)] 1,
      .duration "bastion_pipeline_duration_seconds" [("action", action)]]
  | _ => []

/-- The log of a list of events. -/
def Options.log (o : Options) (es : List Event) : List LogEntry := es.flatMap (Event.log o)

/-- The measurements of a list of events. -/
def Options.metrics (o : Options) (es : List Event) : List Metric :=
  if o.recordMetrics then es.flatMap Event.measure else []

end RequestPipeline
