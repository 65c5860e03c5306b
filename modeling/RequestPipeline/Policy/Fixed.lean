import RequestPipeline.Filter.Registration
import RequestPipeline.Run.Execution

/-!
# Fixed ends

Actions, renderers and factories that treat every request alike. With them filters can be tried out
before anything real is behind them.
-/

namespace RequestPipeline

/-- An action that treats every request alike. -/
inductive FixedAction where
  | fail (fault : Fault)
  | produce (output : Output)
  /-- It returns the arguments of the request. -/
  | echo

/-- Carries out a fixed action. -/
def FixedAction.invoke : FixedAction → Call → Invocation
  | fail fault, c => { outcome := .error (fault.forRequest c.id) }
  | produce output, _ => { outcome := .ok output }
  | echo, c => { outcome := .ok (.value c.arguments.toJson) }

/-- A renderer that writes every result out, or raises a fault after each. -/
structure FixedRenderer where
  fault : Option Fault := none

/-- Writes a result out. -/
def FixedRenderer.render (r : FixedRenderer) (c : Call) (_ : Answer) : Rendering :=
  { fault := r.fault.map fun f => f.forRequest c.id }

/-- A factory that makes the same filter for every request, or fails every time. -/
structure FixedFactory where
  filter : Filter
  fault : Option Fault := none

/-- Makes the filter for a request. -/
def FixedFactory.make (f : FixedFactory) (c : Call) : Except Fault Filter :=
  match f.fault with
  | some fault => .error (fault.forRequest c.id)
  | none => .ok f.filter

/-- The ends of a run whose action and renderer are fixed. -/
def Ends.fixed (action : FixedAction) (renderer : FixedRenderer) : Ends :=
  ⟨action.invoke, renderer.render⟩

end RequestPipeline
