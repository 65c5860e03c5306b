import RequestPipeline.Run.Step

/-!
# Runs

A request passes authorization, then enters the filters around everything else, then the action with
the filters around it, then rendering with the filters around that. A fault raised in the last two
is shown to the filters that handle faults. Whatever happens, every filter that was entered is left,
the innermost first, and a result is rendered at most once.
-/

namespace RequestPipeline

/-- What invoking an action comes to. -/
structure Invocation where
  outcome : Except Fault Output
  /-- The request is cancelled meanwhile. -/
  cancel : Bool := false

/-- What rendering comes to. -/
structure Rendering where
  fault : Option Fault := none
  /-- The request is cancelled meanwhile. -/
  cancel : Bool := false

/-- What a run works with besides its filters: what carries out the action and what writes the
result out. -/
structure Ends where
  invoke : Call → Invocation
  render : Call → Answer → Rendering

/-- The state at the end of a successful run. -/
structure Outcome where
  result : Option Answer
  canceled : Bool
  rendered : Bool
  suppressed : Bool
  recovered : Bool

/-- The result of an output, if it is of the declared kind. -/
def Output.honour (action : Action) (o : Output) : Except Fault Answer :=
  if o.kind = action.returns then .ok o.toAnswer
  else .error { cause := .contract action.displayName action.returns o.kind }

/-- Invokes the action, unless the request has been cancelled. -/
def Ends.perform (ends : Ends) (s : State) : Step :=
  match s.call.interruption? with
  -- too late: the action does not run, and what surrounds it sees a fault
  | some fault =>
    let t := Step.raise fault .action s
    ⟨t.state, .invoking :: t.events⟩
  | none =>
    let i := ends.invoke s.call
    let s' := if i.cancel then { s with call := s.call.cancel } else s
    let t :=
      match i.outcome with
      | .error fault => Step.raise fault .action s'
      | .ok output =>
        match output.honour s.call.action with
        | .error fault => Step.raise fault .action s'
        | .ok answer => .stay { s' with result := some answer }
    ⟨t.state, .invoking :: .invoked s.call :: t.events⟩

/-- Renders the result, or the empty one if there is none. -/
def Ends.write (ends : Ends) (s : State) : Step :=
  let answer := s.result.getD .empty
  let r := ends.render s.call answer
  let s' :=
    { s with
      rendered := true
      result := some answer
      call := if r.cancel then s.call.cancel else s.call }
  let t :=
    match r.fault with
    | some fault => Step.raise fault .render s'
    | none => .stay s'
  ⟨t.state, .rendered answer :: t.events⟩

/-- Renders the result past the filters around rendering. -/
def Ends.writeDirectly (ends : Ends) (s : State) : Step :=
  (Step.mk s [.renderingDirectly]).andThen ends.write |>.andThen .settle

/-- Renders the result past those filters if nothing is in flight and it is not done. -/
def Ends.writeMissing (ends : Ends) (s : State) : Step :=
  if s.pending.isNone && !s.renderDone then ends.writeDirectly s else .stay s

/-- A phase around something inner. -/
def Layer.surround (l : Layer) (ps : List Place) (inner : State → Step) (s : State) : Step :=
  let d := l.descend ps (l.members ps) s
  -- the filters that were entered are left even if the inner part was skipped
  ((d.step.andThen fun s => if d.proceeds then inner s else .stay s).andThen
    (l.ascend ps d.entered)).andThen .settle

/-- The action and the filters around it. -/
def Ends.actionPhase (ends : Ends) (ps : List Place) : State → Step :=
  Layer.action.surround ps ends.perform

/-- Rendering and the filters around it, unless a fault is in flight. -/
def Ends.resultPhase (ends : Ends) (ps : List Place) (s : State) : Step :=
  if s.pending.isNone then Layer.result.surround ps ends.write s else .stay s

/-- A fault in flight is shown to the filters that handle faults. Once it is handled, the result is
rendered if it has not been. -/
def Ends.exceptionPhase (ends : Ends) (ps : List Place) (s : State) : Step :=
  if s.pending.isSome then
    ((showFault ps (Place.handlers ps) s).andThen .settle).andThen ends.writeMissing
  else .stay s

/-- The part of a run whose faults are shown to filters. -/
def Ends.core (ends : Ends) (ps : List Place) (s : State) : Step :=
  ((ends.actionPhase ps s).andThen (ends.resultPhase ps)).andThen (ends.exceptionPhase ps)

/-- What lies inside the outermost filters: their own answer, if one of them gave it, or the core.
-/
def Ends.inside (ends : Ends) (ps : List Place) (s : State) : Step :=
  if s.pending.isSome then .stay s
  else if s.canceled then ends.writeDirectly s
  else ends.core ps s

/-- Everything behind authorization. -/
def Ends.resourcePhase (ends : Ends) (ps : List Place) (s : State) : Step :=
  let d := Layer.resource.descend ps (Layer.resource.members ps) s
  (((d.step.andThen (ends.inside ps)).andThen (Layer.resource.ascend ps d.entered)).andThen
    .settle).andThen ends.writeMissing

/-- A run up to its last state. -/
def Ends.proceed (ends : Ends) (ps : List Place) (s : State) : Step :=
  match s.call.interruption? with
  | some fault => .raise fault .authorization s
  | none =>
    let a := authorize ps (Place.authorizers ps) s
    match a.verdict with
    -- no filter handles a fault raised here, and nothing has been entered
    | .faulted => a.step
    | .refused => a.step.andThen ends.writeDirectly
    | .admitted => a.step.andThen (ends.resourcePhase ps)

/-- What a run leads to. -/
structure Report where
  state : State
  events : List Event
  outcome : Except Failure Outcome

/-- What a state shows of a run that ended in it. -/
def State.outcome (s : State) : Outcome :=
  ⟨s.result, s.canceled, s.rendered, s.suppressed, s.recovered⟩

/-- The end of a run: a fault that is still in flight makes it fail. -/
def Step.finish (t : Step) : Report :=
  match t.state.pending with
  | some p =>
    { state := { t.state with pending := none }
      events := t.events ++ [.abandoned p.phase p.fault]
      outcome := .error (.unhandled t.state.call.action.displayName p.fault) }
  | none => { state := t.state, events := t.events, outcome := .ok t.state.outcome }

/-- How a run ended. -/
def Ending.of : Except Failure Outcome → Ending
  | .error _ => .unhandled
  | .ok o => if o.canceled then .shortCircuited else if o.recovered then .recovered else .rendered

/-- Runs a request through filters. A state that has been run is refused. -/
def run (ends : Ends) (ps : List Place) (s : State) : Report :=
  -- a refused run leaves no trace, not even in the state
  if s.executed then { state := s, events := [], outcome := .error (.contextReused s.call.id) }
  else
    let action := s.call.action.displayName
    let r := (ends.proceed ps { s with executed := true }).finish
    { r with
      events :=
        .opened s.call.id action ps.length :: r.events ++ [.finished action (.of r.outcome)] }

/-- A request with its filters in their places. -/
structure Context where
  places : List Place
  state : State

namespace Context

/-- Runs the request. -/
def run (c : Context) (ends : Ends) : Report × Context :=
  let r := RequestPipeline.run ends c.places c.state
  (r, { c with state := r.state })

/-- Makes the context ready for another run. -/
def reset (c : Context) : Context := { c with state := c.state.reset }

/-- Cancels the request. -/
def cancel (c : Context) : Context :=
  { c with state := { c.state with call := c.state.call.cancel } }

end Context

/-- What is observed of runs, and what every plan has to provide. -/
structure Options where
  traceFilters : Bool := true
  recordMetrics : Bool := true
  requiredPolicies : List Marker := []
  deriving DecidableEq

/-- What runs requests. -/
structure Pipeline where
  options : Options := {}
  resolver : Resolver := .standard

/-- What came of preparing a request. -/
structure Preparation where
  events : List Event
  outcome : Except Failure Context

namespace Pipeline

/-- Prepares a request: the policies that are required come first, then the filters are resolved. -/
def prepare (p : Pipeline) (plan : Plan) (call : Call) : Preparation :=
  match plan.require p.options.requiredPolicies with
  | .error e => ⟨[], .error e⟩
  | .ok () =>
    let placed := plan.instantiate p.resolver call
    ⟨placed.events, placed.outcome.map fun ps => ⟨ps, .initial call⟩⟩

/-- Prepares and runs a request. -/
def execute (p : Pipeline) (plan : Plan) (call : Call) (ends : Ends) :
    List Event × Except Failure Outcome :=
  let prepared := p.prepare plan call
  match prepared.outcome with
  | .error e => (prepared.events, .error e)
  | .ok c =>
    let r := run ends c.places c.state
    (prepared.events ++ r.events, r.outcome)

end Pipeline

end RequestPipeline
