import RequestPipeline.Run.State

/-!
# Callbacks

A filter is called at up to eight moments. A call is answered by a reply, which says what the filter
does to the run; each moment grants only some of it. Setting a result ends the way inwards before
the action, and merely replaces the result on the way out.
-/

namespace RequestPipeline

/-- A moment at which a filter is called. -/
inductive Callback where
  | authorization
  | resourceBefore
  | resourceAfter
  | actionBefore
  | actionAfter
  | exception
  | resultBefore
  | resultAfter
  deriving DecidableEq, Repr

namespace Callback

/-- Every moment. -/
def all : List Callback :=
  [.authorization, .resourceBefore, .resourceAfter, .actionBefore, .actionAfter, .exception,
    .resultBefore, .resultAfter]

/-- The name of a moment. -/
def word : Callback → String
  | .authorization => "authorization"
  | .resourceBefore => "resource.before"
  | .resourceAfter => "resource.after"
  | .actionBefore => "action.before"
  | .actionAfter => "action.after"
  | .exception => "exception"
  | .resultBefore => "result.before"
  | .resultAfter => "result.after"

/-- The name of a moment in the log. -/
def logWord : Callback → String
  | .authorization => "on_authorization"
  | .resourceBefore => "on_resource_executing"
  | .resourceAfter => "on_resource_executed"
  | .actionBefore => "on_action_executing"
  | .actionAfter => "on_action_executed"
  | .exception => "on_exception"
  | .resultBefore => "on_result_executing"
  | .resultAfter => "on_result_executed"

/-- The capability that a filter needs to be called. -/
def capability : Callback → Capability
  | .authorization => .authorization
  | .resourceBefore => .resource
  | .resourceAfter => .resource
  | .actionBefore => .action
  | .actionAfter => .action
  | .exception => .exception
  | .resultBefore => .result
  | .resultAfter => .result

/-- Where a fault of the filter counts as raised. -/
def phase : Callback → Phase
  | .authorization => .authorization
  | .resourceBefore => .resource
  | .resourceAfter => .resource
  | .actionBefore => .action
  | .actionAfter => .action
  | .exception => .exception
  | .resultBefore => .result
  | .resultAfter => .result

/-- Whether setting a result ends the way inwards. -/
def endsWithResult : Callback → Bool
  | .authorization | .resourceBefore | .actionBefore => true
  | _ => false

/-- Whether the filter sees the fault in flight and may mark it as handled. -/
def seesFault : Callback → Bool
  | .resourceAfter | .actionAfter | .exception | .resultAfter => true
  | _ => false

/-- Whether the filter may change the arguments. -/
def changesArguments : Callback → Bool
  | .actionBefore => true
  | _ => false

/-- Whether the filter may edit the result in place and keep it from being rendered. -/
def changesResult : Callback → Bool
  | .resultBefore => true
  | _ => false

end Callback

/-- What a filter saw when it was called, with the policies that it asked about: whether it is in
charge of each, and the registration that is. -/
structure Sight where
  callback : Callback
  filter : String
  index : Nat
  listing : Option Listing
  policies : List (Marker × Bool × Option String)
  state : State

/-- Something that a filter lets others know while it is called. -/
inductive Remark where
  /-- What it saw. -/
  | sight (sight : Sight)
  /-- A value of its own. -/
  | note (value : Json)
  /-- A report on the run. -/
  | report (text : String)
  /-- It refused a request. -/
  | denied (action : String) (status : Http.Status)
  /-- It turned a fault into an error envelope. -/
  | enveloped (status : Http.Status) (fault : Fault)

/-- What a filter does to the run when it is called. -/
structure Reply where
  /-- The result that it sets. -/
  result : Option Answer := none
  /-- It marks the fault in flight as handled. -/
  handled : Bool := false
  /-- It keeps the result from being rendered. -/
  suppress : Bool := false
  /-- The arguments that it leaves. -/
  arguments : Option Arguments := none
  /-- It cancels the request. -/
  cancel : Bool := false
  /-- What it lets others know. -/
  remarks : List Remark := []
  /-- The fault that it raises. -/
  fault : Option Fault := none

/-- How a filter behaves at one moment. -/
abbrev Behaviour := View → Reply

/-- The behaviour of a filter that does nothing. -/
def Behaviour.idle : Behaviour := fun _ => {}

/-- The effect of a reply on the call. -/
def Call.grant (c : Call) (callback : Callback) (r : Reply) : Call :=
  { c with
    arguments := if callback.changesArguments then r.arguments.getD c.arguments else c.arguments
    cancelled := c.cancelled || r.cancel }

/-- The effect of a reply on the fault in flight. -/
def Pending.grant (p : Pending) (callback : Callback) (r : Reply) : Pending :=
  { p with
    handled := p.handled || (callback.seesFault && r.handled) ||
      (callback == .exception && r.result.isSome) }

/-- The effect of a reply on the run, its fault apart: as much of it as the moment grants. -/
def State.grant (s : State) (callback : Callback) (r : Reply) : State :=
  { s with
    call := s.call.grant callback r
    result := r.result.or s.result
    pending := s.pending.map fun p => p.grant callback r
    canceled := s.canceled || (callback.endsWithResult && r.result.isSome)
    suppressed := s.suppressed || (callback.changesResult && r.suppress) }

end RequestPipeline
