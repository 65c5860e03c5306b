import RequestPipeline.Filter.Basic

/-!
# Registrations

A filter is registered as it is, to be shared by all requests, or by a factory that makes one for
each request. A factory has to declare beforehand what its filters will take part in.
-/

namespace RequestPipeline

/-- Where the filter of a registration comes from. -/
inductive Source where
  /-- The filter itself. -/
  | shared (filter : Filter)
  /-- What makes a filter for a request, or fails. -/
  | factory (make : Call → Except Fault Filter)

/-- A registered filter. -/
structure Registration where
  listing : Listing
  source : Source

namespace Registration

/-- Registers a filter as it is; it is listed with its own order, or zero. -/
def shared (scope : Scope) (f : Filter) : Registration where
  listing :=
    { name := f.name, scope, order := f.order.getD 0, capabilities := f.capabilities,
      policies := f.policies }
  source := .shared f

/-- Registers a factory under a name. -/
def factory (name : String) (scope : Scope) (capabilities : Capabilities)
    (make : Call → Except Fault Filter) : Registration where
  listing := { name, scope, order := 0, capabilities, policies := [] }
  source := .factory make

/-- The registration with another order. -/
def withOrder (r : Registration) (order : Int) : Registration :=
  { r with listing := { r.listing with order } }

/-- The registration with another scope. -/
def withScope (r : Registration) (scope : Scope) : Registration :=
  { r with listing := { r.listing with scope } }

/-- The registration with one more policy. -/
def withPolicy (r : Registration) (m : Marker) : Registration :=
  { r with listing := { r.listing with policies := Marker.add r.listing.policies m } }

end Registration

/-- The filters that are registered for every action. -/
structure Catalog where
  global : List Registration := []

/-- The filters that are declared with an action and its controller. -/
structure Declaration where
  controller : List Registration := []
  action : List Registration := []

namespace Declaration

/-- Nothing declared. -/
def empty : Declaration := {}

/-- Whether nothing is declared. -/
def isEmpty (d : Declaration) : Bool := d.controller.isEmpty && d.action.isEmpty

end Declaration

namespace Catalog

/-- The catalog of registrations, each made global. -/
def ofList (rs : List Registration) : Catalog := ⟨rs.map (·.withScope .global)⟩

/-- Every registration that concerns an action, from the broadest declaration to the narrowest.
Where a filter is declared decides its scope. -/
def collect (c : Catalog) (d : Declaration) : List Registration :=
  c.global.map (·.withScope .global) ++ d.controller.map (·.withScope .controller) ++
    d.action.map (·.withScope .action)

end Catalog

end RequestPipeline
