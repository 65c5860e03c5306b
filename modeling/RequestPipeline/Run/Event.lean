import RequestPipeline.Run.Callback
import RequestPipeline.Run.Failure

/-!
# Events

Everything that happens on behalf of a request, in order, is a list of events. What is logged,
counted or shown to whoever watches is read off this list.
-/

namespace RequestPipeline

/-- How a run ends, for whoever counts runs. -/
inductive Ending where
  | unhandled
  | shortCircuited
  | recovered
  | rendered
  deriving DecidableEq, Repr

/-- The name of an ending. -/
def Ending.word : Ending → String
  | .unhandled => "unhandled"
  | .shortCircuited => "short_circuited"
  | .recovered => "recovered"
  | .rendered => "rendered"

/-- Something that happens on behalf of a request. -/
inductive Event where
  /-- The resolver says that it looks for the filter of a registration. -/
  | sought (registration : String)
  /-- A factory is asked for a filter. -/
  | constructed (registration action : String)
  /-- A run begins. -/
  | opened (id : RequestId) (action : String) (filters : Nat)
  /-- A filter is called in a state of the run and replies. -/
  | called (callback : Callback) (index : Nat) (listing : Listing) (before : State) (reply : Reply)
  /-- A filter ended the way inwards. -/
  | shortCircuited (registration : String) (phase : Phase)
  /-- A fault is raised. -/
  | raised (phase : Phase) (fault : Fault)
  /-- The action is about to be invoked. -/
  | invoking
  /-- The action is invoked. -/
  | invoked (call : Call)
  /-- A result is about to be rendered past the filters around rendering. -/
  | renderingDirectly
  /-- A result is rendered. -/
  | rendered (answer : Answer)
  /-- A handled fault is dropped. -/
  | settled (phase : Phase) (fault : Fault)
  /-- A fault is left at the end. -/
  | abandoned (phase : Phase) (fault : Fault)
  /-- A run ends. -/
  | finished (action : String) (ending : Ending)
  /-- The filters of an action are registered. -/
  | registered (action : String)
  /-- The plan of an action is kept. -/
  | planKept (action : String) (filters : Nat)

end RequestPipeline
