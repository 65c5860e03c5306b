import RequestPipeline.Run.Summary
import RequestPipeline.Request.Response
import RequestPipeline.Settings.Basic

/-!
# Dispatchers

A dispatcher holds the filters that are registered for every action, those declared for single
actions, and the plans made of them. Plans are kept up to a limit; registering the filters of an
action drops its plan, so a kept plan is always the one that would be made anew.
-/

namespace RequestPipeline

/-- A plan that was made, with its number among those made. -/
structure IssuedPlan where
  serial : Nat
  plan : Plan

/-- What runs the actions of an application. -/
structure Dispatcher where
  pipeline : Pipeline := {}
  catalog : Catalog := {}
  capacity : Nat := 1024
  /-- What is declared for actions, by display name. -/
  declarations : List (String × Declaration) := []
  /-- The plans that are kept, by display name. -/
  plans : List (String × IssuedPlan) := []
  /-- How many plans have been made. -/
  issued : Nat := 0

/-- Why a request came to no response. -/
inductive DispatchError where
  | pipeline (failure : Failure)
  /-- A filter kept the result from being rendered. -/
  | notRendered (action : String)

/-- The message of an error. -/
def DispatchError.message : DispatchError → String
  | .pipeline failure => failure.message
  | .notRendered action => "a result filter suppressed rendering for action '" ++ action ++ "'"

/-- The response that was rendered last. -/
def lastResponse (id : RequestId) : List Event → Option Response
  | [] => none
  | e :: es =>
    match lastResponse id es with
    -- a later response has taken the place of this one
    | some r => some r
    | none =>
      match e with
      | .rendered answer => some (.render id answer)
      | _ => none

/-- What settings say about running requests. -/
def PipelineSettings.options (s : PipelineSettings) : Options where
  traceFilters := s.traceFilters
  recordMetrics := s.recordMetrics
  requiredPolicies := s.markers

namespace Dispatcher

/-- The dispatcher that settings describe, with filters for every action. -/
def ofSettings (s : Settings) (catalog : Catalog) (resolver : Resolver) : Dispatcher where
  pipeline := ⟨s.pipeline.options, resolver⟩
  catalog := catalog
  capacity := s.pipeline.planCapacity.toNat

/-- Declares the filters of an action in place of those declared before. -/
def register (d : Dispatcher) (action : Action) (declared : Declaration) :
    Dispatcher × List Event :=
  let key := action.displayName
  ({ d with
      declarations := (key, declared) :: d.declarations.filter fun e => e.1 ≠ key
      plans := d.plans.filter fun e => e.1 ≠ key },
    [.registered key])

/-- What is declared for an action. -/
def declared (d : Dispatcher) (action : Action) : Declaration :=
  (d.declarations.lookup action.displayName).getD .empty

/-- The plan that the declarations of an action make. -/
def freshPlan (d : Dispatcher) (action : Action) : Plan :=
  .resolve (d.catalog.collect (d.declared action))

/-- What asking for a plan leads to. -/
structure Planned where
  dispatcher : Dispatcher
  events : List Event
  plan : IssuedPlan

/-- The plan of an action: the one that is kept, or a new one, which is kept if there is room. -/
def plan (d : Dispatcher) (action : Action) : Planned :=
  let key := action.displayName
  match d.plans.lookup key with
  | some kept => ⟨d, [], kept⟩
  | none =>
    let made : IssuedPlan := ⟨d.issued, d.freshPlan action⟩
    let d := { d with issued := d.issued + 1 }
    -- a plan that finds no room serves this request only
    if d.plans.length < d.capacity then
      ⟨{ d with plans := (key, made) :: d.plans }, [.planKept key made.plan.size], made⟩
    else ⟨d, [], made⟩

/-- Forgets every plan. -/
def clear (d : Dispatcher) : Dispatcher := { d with plans := [] }

/-- The number of actions with declared filters. -/
def registeredActions (d : Dispatcher) : Nat := d.declarations.length

/-- The number of plans that are kept. -/
def keptPlans (d : Dispatcher) : Nat := d.plans.length

/-- Runs a request. -/
def execute (d : Dispatcher) (call : Call) (ends : Ends) :
    Dispatcher × List Event × Except Failure Outcome :=
  let planned := d.plan call.action
  let (events, outcome) := d.pipeline.execute planned.plan.plan call ends
  (planned.dispatcher, planned.events ++ events, outcome)

/-- Runs a request and takes the response that was rendered. -/
def invoke (d : Dispatcher) (call : Call) (invoker : Call → Invocation) :
    Dispatcher × List Event × Except DispatchError Response :=
  let (d, events, outcome) := d.execute call ⟨invoker, fun _ _ => {}⟩
  (d, events,
    match outcome with
    | .error failure => .error (.pipeline failure)
    | .ok _ =>
      match lastResponse call.id events with
      | some response => .ok response
      | none => .error (.notRendered call.action.displayName))

open Text in
/-- A summary of a dispatcher. -/
def summary (d : Dispatcher) : String :=
  record "FilterRuntime"
    [("pipeline", d.pipeline.summary), ("global_filters", toString d.catalog.global.length),
      ("registered_actions", toString d.registeredActions),
      ("cached_plans", toString d.keptPlans),
      ("plan_cache_capacity", toString d.capacity)]

end Dispatcher

end RequestPipeline
