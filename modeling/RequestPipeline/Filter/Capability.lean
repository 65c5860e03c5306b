/-!
# Capabilities

A filter takes part in some of the five phases of a request. The set of phases that it takes part in
are its capabilities.
-/

namespace RequestPipeline

/-- One phase that a filter can take part in, from the outermost to the innermost. -/
inductive Capability where
  /-- Runs first and may refuse the request. -/
  | authorization
  /-- Surrounds everything behind authorization. -/
  | resource
  /-- Sees faults raised further in. -/
  | exception
  /-- Surrounds the invocation of the action. -/
  | action
  /-- Surrounds the rendering of the result. -/
  | result
  deriving DecidableEq, Repr

namespace Capability

/-- Every capability, in nesting order. -/
def all : List Capability := [.authorization, .resource, .exception, .action, .result]

/-- The name of a capability. -/
def word : Capability → String
  | .authorization => "authorization"
  | .resource => "resource"
  | .exception => "exception"
  | .action => "action"
  | .result => "result"

/-- The capability with a name. -/
def ofWord? (w : String) : Option Capability := all.find? fun c => c.word == w

end Capability

/-- A set of capabilities. -/
structure Capabilities where
  authorization : Bool := false
  resource : Bool := false
  exception : Bool := false
  action : Bool := false
  result : Bool := false
  deriving DecidableEq, Repr, Inhabited

namespace Capabilities

/-- No capability. -/
def empty : Capabilities := {}

/-- Every capability. -/
def full : Capabilities := ⟨true, true, true, true, true⟩

/-- Whether a capability belongs to the set. -/
def contains (s : Capabilities) : Capability → Bool
  | .authorization => s.authorization
  | .resource => s.resource
  | .exception => s.exception
  | .action => s.action
  | .result => s.result

/-- The set with a capability added. -/
def insert (s : Capabilities) : Capability → Capabilities
  | .authorization => { s with authorization := true }
  | .resource => { s with resource := true }
  | .exception => { s with exception := true }
  | .action => { s with action := true }
  | .result => { s with result := true }

/-- The set of the capabilities in a list. -/
def ofList (cs : List Capability) : Capabilities := cs.foldl insert empty

/-- The members in nesting order. -/
def toList (s : Capabilities) : List Capability := Capability.all.filter s.contains

/-- Whether the set has no member. -/
def isEmpty (s : Capabilities) : Bool := s == empty

/-- The names of the members with bars between them. -/
def text (s : Capabilities) : String :=
  if s.isEmpty then "none" else "|".intercalate (s.toList.map Capability.word)

@[simp] theorem contains_insert (s : Capabilities) (c d : Capability) :
    (s.insert c).contains d = (s.contains d || d == c) := by
  cases c <;> cases d <;> simp [insert, contains]

@[simp] theorem contains_empty (c : Capability) : empty.contains c = false := by
  cases c <;> rfl

/-- Two sets with the same members are equal. -/
theorem ext_contains {s t : Capabilities} (h : ∀ c, s.contains c = t.contains c) : s = t := by
  have h1 := h .authorization
  have h2 := h .resource
  have h3 := h .exception
  have h4 := h .action
  have h5 := h .result
  cases s
  cases t
  simp_all [contains]

end Capabilities

end RequestPipeline
