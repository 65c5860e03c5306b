import RequestPipeline.Filter.Registration
import RequestPipeline.Run.Event

/-!
# Plans

A plan is the order in which the registrations for an action run: by their order, of equal order
from the broadest scope to the narrowest, and otherwise as they were declared. A plan can be kept
and used for any request; for a request its registrations are resolved to filters.
-/

namespace RequestPipeline

/-- The registrations for an action in the order in which they run. -/
structure Plan where
  registrations : List Registration

/-- A filter in its place in a run. It takes part in exactly what its registration declares. -/
structure Place where
  index : Nat
  registration : Registration
  filter : Filter
  agrees : filter.capabilities = registration.listing.capabilities

/-- The name of the registration in a place. -/
def Place.name (p : Place) : String := p.registration.listing.name

/-- What a resolver does about a registration. -/
structure Resolution where
  events : List Event := []
  outcome : Except Failure Filter

/-- Finds the filter of a registration for a request. -/
abbrev Resolver := Registration → Call → Resolution

namespace Resolver

/-- Takes shared filters as they are and asks factories. -/
def standard : Resolver := fun r call =>
  match r.source with
  | .shared f => { outcome := .ok f }
  | .factory make =>
    { events := [.constructed r.listing.name call.action.displayName]
      outcome :=
        match make call with
        | .ok f => .ok f
        | .error fault => .error (.factoryFailed r.listing.name fault.message) }

/-- Says what it looks for, and refuses the registrations with given names. -/
def refusing (names : List String) : Resolver := fun r call =>
  if names.contains r.listing.name then
    { events := [.sought r.listing.name]
      outcome := .error (.factoryFailed r.listing.name "refused by resolver") }
  else
    let found := standard r call
    { found with events := .sought r.listing.name :: found.events }

end Resolver

/-- What came of resolving registrations. -/
structure Placement where
  events : List Event
  outcome : Except Failure (List Place)

namespace Plan

/-- The plan of registrations in the order of their declaration. -/
def resolve (rs : List Registration) : Plan :=
  ⟨rs.mergeSort fun a b => a.listing.precedes b.listing⟩

/-- What is known of the filters of a plan. -/
def listings (p : Plan) : List Listing := p.registrations.map (·.listing)

/-- The number of registrations. -/
def size (p : Plan) : Nat := p.registrations.length

/-- Whether there is no registration. -/
def isEmpty (p : Plan) : Bool := p.registrations.isEmpty

/-- The registration in charge of a policy. -/
def effective (p : Plan) (m : Marker) : Except Failure Listing :=
  match ((Listing.authority p.listings).holder? m).bind fun i => p.listings[i]? with
  | some l => .ok l
  | none => .error (.noEffectivePolicy m)

/-- Whether somebody is in charge of every policy of a list; the first that nobody carries is
reported. -/
def require (p : Plan) : List Marker → Except Failure Unit
  | [] => .ok ()
  | m :: ms =>
    match p.effective m with
    | .ok _ => p.require ms
    | .error e => .error e

/-- Resolves registrations from a position on. A filter that takes part in other phases than its
registration declares is refused. -/
def instantiateFrom (resolver : Resolver) (call : Call) : Nat → List Registration → Placement
  | _, [] => ⟨[], .ok []⟩
  | i, r :: rs =>
    let found := resolver r call
    match found.outcome with
    | .error e => ⟨found.events, .error e⟩
    | .ok f =>
      -- what runs has to be what the plan was made for
      if agrees : f.capabilities = r.listing.capabilities then
        let rest := instantiateFrom resolver call (i + 1) rs
        ⟨found.events ++ rest.events, rest.outcome.map fun ps => ⟨i, r, f, agrees⟩ :: ps⟩
      else
        ⟨found.events,
          .error (.capabilityMismatch r.listing.name r.listing.capabilities f.capabilities)⟩

/-- Resolves every registration for a request. -/
def instantiate (p : Plan) (resolver : Resolver) (call : Call) : Placement :=
  instantiateFrom resolver call 0 p.registrations

/-- A registration is resolved in front of the others only if its filter agrees with it. -/
theorem instantiateFrom_cons_eq_ok {resolver : Resolver} {call : Call} {i : Nat} {r : Registration}
    {rs : List Registration} {ps : List Place}
    (h : (instantiateFrom resolver call i (r :: rs)).outcome = .ok ps) :
    ∃ f agrees qs, (instantiateFrom resolver call (i + 1) rs).outcome = .ok qs ∧
      ps = ⟨i, r, f, agrees⟩ :: qs := by
  unfold instantiateFrom at h
  cases hf : (resolver r call).outcome with
  | error e => simp [hf] at h
  | ok f =>
    simp only [hf] at h
    split at h
    · next agrees =>
      cases hrest : (instantiateFrom resolver call (i + 1) rs).outcome with
      | error e => simp [hrest, Except.map] at h
      | ok qs =>
        simp only [hrest, Except.map, Except.ok.injEq] at h
        exact ⟨f, agrees, qs, rfl, h.symm⟩
    · simp at h

/-- Registrations that are resolved are numbered in order. -/
theorem map_index_instantiateFrom {resolver : Resolver} {call : Call} {i : Nat}
    {rs : List Registration} {ps : List Place}
    (h : (instantiateFrom resolver call i rs).outcome = .ok ps) :
    ps.map Place.index = List.range' i rs.length := by
  induction rs generalizing i ps with
  | nil =>
    obtain rfl : [] = ps := by simpa [instantiateFrom] using h
    rfl
  | cons r rs ih =>
    obtain ⟨f, agrees, qs, hqs, rfl⟩ := instantiateFrom_cons_eq_ok h
    rw [List.map_cons, ih hqs, List.length_cons, List.range'_succ]

/-- Registrations that are resolved keep their places. -/
theorem map_registration_instantiateFrom {resolver : Resolver} {call : Call} {i : Nat}
    {rs : List Registration} {ps : List Place}
    (h : (instantiateFrom resolver call i rs).outcome = .ok ps) :
    ps.map Place.registration = rs := by
  induction rs generalizing i ps with
  | nil =>
    obtain rfl : [] = ps := by simpa [instantiateFrom] using h
    rfl
  | cons r rs ih =>
    obtain ⟨f, agrees, qs, hqs, rfl⟩ := instantiateFrom_cons_eq_ok h
    rw [List.map_cons, ih hqs]

/-- Filters in the places of a plan have different positions. -/
theorem nodup_index {p : Plan} {resolver : Resolver} {call : Call} {ps : List Place}
    (h : (p.instantiate resolver call).outcome = .ok ps) : (ps.map Place.index).Nodup := by
  rw [map_index_instantiateFrom h]
  exact List.nodup_range'

end Plan

namespace Place

/-- What is known of filters in their places. -/
def listings (ps : List Place) : List Listing := ps.map (·.registration.listing)

/-- The positions of the filters with a capability. -/
def indices (ps : List Place) (c : Capability) : List Nat :=
  (ps.filter fun p => p.registration.listing.capabilities.contains c).map (·.index)

/-- The position of the filter in charge of a policy. -/
def effective? (ps : List Place) (m : Marker) : Option Nat :=
  ((Listing.authority (listings ps)).holder? m).bind fun i => ps[i]?.map (·.index)

/-- Whether the filter in a place is in charge of a policy. -/
def isEffective (ps : List Place) (p : Place) (m : Marker) : Bool :=
  ((Listing.authority (listings ps)).policies p.index).contains m

end Place

end RequestPipeline
