import RequestPipeline.Filter.Authority
import RequestPipeline.Request.Answer
import RequestPipeline.Request.Call

/-!
# The state of a run

A run carries a call to an answer. A fault that was raised stays in flight until a filter marks it
as handled and the run settles it; a later fault takes the place of an earlier one.
-/

namespace RequestPipeline

/-- Where a fault was raised. -/
inductive Phase where
  | authorization
  | resource
  | action
  | result
  | render
  | exception
  deriving DecidableEq, Repr

/-- The name of a phase. -/
def Phase.word : Phase → String
  | .authorization => "authorization"
  | .resource => "resource"
  | .action => "action"
  | .result => "result"
  | .render => "render"
  | .exception => "exception"

/-- A fault in flight. -/
structure Pending where
  fault : Fault
  phase : Phase
  handled : Bool := false

/-- What a run has come to so far. -/
structure State where
  call : Call
  /-- The result as it stands. -/
  result : Option Answer := none
  /-- The fault in flight. -/
  pending : Option Pending := none
  /-- A filter answered in place of what lies further in. -/
  canceled : Bool := false
  /-- A filter kept the result from being rendered. -/
  suppressed : Bool := false
  /-- The renderer was called. -/
  rendered : Bool := false
  /-- A fault was handled. -/
  recovered : Bool := false
  /-- The run has begun. -/
  executed : Bool := false
  /-- The position of the filter that is being called. -/
  current : Option Nat := none

namespace State

/-- The state before a run. -/
def initial (call : Call) : State := { call }

/-- What a run leaves behind is cleared for the next one: the call stays as the run left it. -/
def reset (s : State) : State :=
  { s with
    result := none
    pending := none
    canceled := false
    suppressed := false
    rendered := false
    recovered := false
    executed := false
    current := none }

/-- Nothing but the call is left of a run. -/
theorem reset_eq (s : State) : s.reset = initial s.call := rfl

/-- A fault is raised: it takes the place of one in flight. -/
def raise (s : State) (fault : Fault) (phase : Phase) : State :=
  { s with pending := some { fault, phase } }

/-- Whether the fault in flight is marked as handled. -/
def handled (s : State) : Bool := s.pending.any Pending.handled

/-- Whether nothing is left to render. -/
def renderDone (s : State) : Bool := s.rendered || s.suppressed

end State

/-- What a filter sees while it is called: the listings of the run and its state. -/
structure View where
  listings : List Listing
  state : State

namespace View

/-- The listing of the filter that is being called. -/
def listing? (v : View) : Option Listing := v.state.current.bind fun i => v.listings[i]?

/-- Whether the filter that is being called is in charge of a policy. -/
def isEffective (v : View) (m : Marker) : Bool :=
  v.state.current.any fun i => ((Listing.authority v.listings).policies i).contains m

/-- The listing of the filter in charge of a policy. -/
def effective? (v : View) (m : Marker) : Option Listing :=
  ((Listing.authority v.listings).holder? m).bind fun i => v.listings[i]?

end View

end RequestPipeline
