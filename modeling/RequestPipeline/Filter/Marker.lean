/-!
# Policy markers

Several filters may carry out the same policy, say a default for every action and an exception for
one. They share a marker, and only the filter closest to the action acts on it.
-/

namespace RequestPipeline

/-- The name of a policy of which one filter is in charge at a time. -/
structure Marker where
  name : String
  deriving DecidableEq, Repr

namespace Marker

/-- The policy on requests from other origins. -/
def crossOrigin : Marker := ⟨"cross-origin"⟩

/-- The policy on turning faults into error envelopes. -/
def errorEnvelope : Marker := ⟨"error-envelope"⟩

/-- The markers with one more, unless it is among them. -/
def add (ms : List Marker) (m : Marker) : List Marker := if ms.contains m then ms else ms ++ [m]

/-- A list of markers without repetitions, in order of first occurrence. -/
def distinct (ms : List Marker) : List Marker := ms.foldl add []

end Marker

end RequestPipeline
