import RequestPipeline.Run.Callback

/-!
# Filters

A filter has a name, may ask for an order, carries policies, and behaves in some way in each phase
that it takes part in. A phase that surrounds others is entered before and left after them.
-/

namespace RequestPipeline

/-- How a filter behaves in a phase that surrounds others. -/
structure Around where
  before : Behaviour
  after : Behaviour

/-- A filter. -/
structure Filter where
  name : String
  order : Option Int := none
  policies : List Marker := []
  authorization : Option Behaviour := none
  resource : Option Around := none
  exception : Option Behaviour := none
  action : Option Around := none
  result : Option Around := none

namespace Filter

/-- The phases that a filter takes part in. -/
def capabilities (f : Filter) : Capabilities where
  authorization := f.authorization.isSome
  resource := f.resource.isSome
  exception := f.exception.isSome
  action := f.action.isSome
  result := f.result.isSome

/-- Whether a filter carries a policy. -/
def carries (f : Filter) (m : Marker) : Bool := f.policies.contains m

end Filter

/-- The behaviour in a surrounding phase of a filter that does nothing. -/
def Around.idle : Around := ⟨.idle, .idle⟩

end RequestPipeline
