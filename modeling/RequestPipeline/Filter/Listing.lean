import RequestPipeline.Filter.Capability
import RequestPipeline.Filter.Marker
import RequestPipeline.Filter.Scope

/-!
# Listings

A listing is what is known of a filter before any request: its name, where it is declared, its
order, the phases that it takes part in and the policies that it carries.
-/

namespace RequestPipeline

/-- What is known of a registered filter. -/
structure Listing where
  name : String
  scope : Scope
  order : Int
  capabilities : Capabilities
  policies : List Marker
  deriving DecidableEq

namespace Listing

/-- Whether a listing carries a policy. -/
def carries (l : Listing) (m : Marker) : Bool := l.policies.contains m

/-- Whether a listing may stand in front of another: by order, then from broad to narrow. -/
def precedes (a b : Listing) : Bool :=
  a.order < b.order || (a.order == b.order && a.scope.rank ≤ b.scope.rank)

end Listing

end RequestPipeline
