import RequestPipeline.Filter.Capability
import RequestPipeline.Filter.Marker
import RequestPipeline.Request.Fault

/-!
# Failures

A request fails when a fault was raised and nobody handled it. Every other failure is a misuse: the
filters were put together wrongly, or a context was run twice.
-/

namespace RequestPipeline

/-- Why a request came to no outcome. -/
inductive Failure where
  /-- A fault was not handled. -/
  | unhandled (action : String) (fault : Fault)
  /-- A filter takes part in other phases than were declared. -/
  | capabilityMismatch (filter : String) (declared resolved : Capabilities)
  /-- Nobody carries a required policy. -/
  | noEffectivePolicy (marker : Marker)
  /-- No filter could be made. -/
  | factoryFailed (filter reason : String)
  /-- A context that was run had not been reset. -/
  | contextReused (id : RequestId)
  deriving DecidableEq

namespace Failure

/-- The message of a failure. -/
def message : Failure → String
  | unhandled action fault => "unhandled fault in action '" ++ action ++ "': " ++ fault.message
  | capabilityMismatch filter declared resolved =>
    "filter '" ++ filter ++ "' declares capabilities " ++ declared.text ++
      " but its instance exposes " ++ resolved.text
  | noEffectivePolicy marker =>
    "no filter carries the required effective policy '" ++ marker.name ++ "'"
  | factoryFailed filter reason => "filter factory for '" ++ filter ++ "' failed: " ++ reason
  | contextReused id =>
    "pipeline context for request " ++ id.text ++ " was already run; reset it before reuse"

/-- Whether the failure is a misuse. -/
def isMisuse : Failure → Bool
  | unhandled .. => false
  | _ => true

/-- The fault that was not handled. -/
def fault? : Failure → Option Fault
  | unhandled _ fault => some fault
  | _ => none

end Failure

end RequestPipeline
