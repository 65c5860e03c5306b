/-!
# Actions

An action belongs to a controller, has a name, and declares what kind of output it returns. Whatever
is configured for an action is configured under its display name.
-/

namespace RequestPipeline

/-- What an action declares that it returns. -/
inductive ReturnKind where
  /-- An answer of its own. -/
  | result
  /-- A value to be sent as JSON. -/
  | value
  /-- Nothing. -/
  | unit
  deriving DecidableEq, Repr, Inhabited

namespace ReturnKind

/-- The name of a kind in data. -/
def word : ReturnKind → String
  | .result => "result"
  | .value => "value"
  | .unit => "unit"

/-- The name of a kind in messages. -/
def title : ReturnKind → String
  | .result => "Result"
  | .value => "Value"
  | .unit => "Unit"

/-- Every kind. -/
def all : List ReturnKind := [.result, .value, .unit]

/-- The kind with a name. -/
def ofWord? (w : String) : Option ReturnKind := all.find? fun k => k.word == w

theorem ofWord?_word (k : ReturnKind) : ofWord? k.word = some k := by
  cases k <;> rfl

end ReturnKind

/-- An action that a request selects. -/
structure Action where
  controller : String
  name : String
  returns : ReturnKind
  deriving DecidableEq, Repr, Inhabited

/-- The controller and the name with a point between them. -/
def Action.displayName (a : Action) : String := a.controller ++ "." ++ a.name

end RequestPipeline
