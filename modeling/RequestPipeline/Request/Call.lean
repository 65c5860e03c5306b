import RequestPipeline.Http.Header
import RequestPipeline.Http.Uri
import RequestPipeline.Json.Basic
import RequestPipeline.Request.Fault

/-!
# Calls

A call is a request whose action is selected and whose arguments are bound: what every filter sees
of the request. Arguments keep the order in which their names came first.
-/

namespace RequestPipeline

open Http

/-- Arguments by name, in order. -/
abbrev Arguments := List (String × Json)

namespace Arguments

/-- Binds a name: an unbound one at the end, a bound one in its place. -/
def put (name : String) (value : Json) : Arguments → Arguments
  | [] => [(name, value)]
  | (n, v) :: rest => if n = name then (name, value) :: rest else (n, v) :: put name value rest

/-- The value of a name. -/
def get? (as : Arguments) (name : String) : Option Json := as.lookup name

/-- Unbinds a name; the others keep their order. -/
def drop (as : Arguments) (name : String) : Arguments := as.filter fun a => a.1 ≠ name

/-- The object of all arguments. -/
def toJson (as : Arguments) : Json := Json.canonical (.obj as)

end Arguments

/-- A request for an action. -/
structure Call where
  id : RequestId
  action : Action
  method : Method
  uri : Uri
  headers : Headers
  arguments : Arguments
  roles : List String
  cancelled : Bool

namespace Call

/-- A request for an action with nothing else said. -/
def ofAction (action : Action) : Call :=
  { id := .nil, action, method := .get, uri := .root, headers := .empty, arguments := [],
    roles := [], cancelled := false }

/-- A header of the request as a text; a text that names no header finds nothing. -/
def header? (c : Call) (name : String) : Option String :=
  (HeaderName.ofText? name).bind c.headers.readable?

/-- Whether the caller has a role. -/
def hasRole (c : Call) (role : String) : Bool := c.roles.contains role

/-- The call with its request cancelled. -/
def cancel (c : Call) : Call := { c with cancelled := true }

/-- The fault of a request that was cancelled. -/
def interruption? (c : Call) : Option Fault :=
  if c.cancelled then some (.cancelled c.id) else none

end Call

end RequestPipeline
