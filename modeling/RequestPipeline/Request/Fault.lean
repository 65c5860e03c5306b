import RequestPipeline.Http.Status
import RequestPipeline.Request.Action
import RequestPipeline.Request.Id

/-!
# Faults

A fault is raised instead of an answer. It has a cause, and whoever passes it on may wrap a context
around it: people then read the outermost context, while the cause stays what it was.
-/

namespace RequestPipeline

open Http

/-- The category of a service error. -/
inductive Category where
  | validation
  | authentication
  | authorization
  | notFound
  | conflict
  | timeout
  | internal
  deriving DecidableEq, Repr

namespace Category

/-- Every category. -/
def all : List Category :=
  [.validation, .authentication, .authorization, .notFound, .conflict, .timeout, .internal]

/-- The name of a category in data. -/
def word : Category → String
  | .validation => "validation"
  | .authentication => "authentication"
  | .authorization => "authorization"
  | .notFound => "not_found"
  | .conflict => "conflict"
  | .timeout => "timeout"
  | .internal => "internal"

/-- The category with a name. -/
def ofWord? (w : String) : Option Category := all.find? fun c => c.word == w

/-- The code of a category in an error envelope. -/
def code : Category → String
  | .validation => "VALIDATION_ERROR"
  | .authentication => "AUTHENTICATION_REQUIRED"
  | .authorization => "PERMISSION_DENIED"
  | .notFound => "NOT_FOUND"
  | .conflict => "CONFLICT"
  | .timeout => "TIMEOUT"
  | .internal => "INTERNAL_ERROR"

/-- The status of a category. -/
def status : Category → Status
  | .validation => .badRequest
  | .authentication => .unauthorized
  | .authorization => .forbidden
  | .notFound => .notFound
  | .conflict => .conflict
  | .timeout => .gatewayTimeout
  | .internal => .internal

end Category

/-- What a fault is about. -/
inductive Cause where
  /-- Something that has only a message. -/
  | plain (message : String)
  /-- An error of the service, with a category. -/
  | service (category : Category) (message : String)
  /-- The request was cancelled. -/
  | cancelled (id : RequestId)
  /-- An action produced another kind of output than it declared. -/
  | contract (action : String) (declared produced : ReturnKind)
  deriving DecidableEq

/-- The message of a cause. -/
def Cause.message : Cause → String
  | .plain message => message
  | .service _ message => message
  | .cancelled id => "request " ++ id.text ++ " was cancelled"
  | .contract action declared produced =>
    "action '" ++ action ++ "' declared a " ++ declared.title ++ " return but produced " ++
      produced.title

/-- Something that was raised: a cause and the contexts around it, the outermost first. -/
structure Fault where
  cause : Cause
  contexts : List String := []
  deriving DecidableEq

namespace Fault

/-- The fault inside one more context. -/
def wrap (f : Fault) (context : String) : Fault := { f with contexts := context :: f.contexts }

/-- The messages from the outermost context to the cause. -/
def chain (f : Fault) : List String := f.contexts ++ [f.cause.message]

/-- The outermost message. -/
def message (f : Fault) : String := f.contexts.head?.getD f.cause.message

/-- A fault with a message only. -/
def plain (message : String) : Fault := { cause := .plain message }

/-- A fault from an error of the service. -/
def service (category : Category) (message : String) : Fault :=
  { cause := .service category message }

/-- The fault of a cancelled request. -/
def cancelled (id : RequestId) : Fault := { cause := .cancelled id }

/-- The fault as it concerns a request: a cancellation is the cancellation of that request. -/
def forRequest (f : Fault) (id : RequestId) : Fault :=
  match f.cause with
  | .cancelled _ => { f with cause := .cancelled id }
  | _ => f

end Fault

end RequestPipeline
