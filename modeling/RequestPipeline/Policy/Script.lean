import RequestPipeline.Filter.Basic
import RequestPipeline.Run.Summary

/-!
# Scripts

A script is a filter whose behaviour is written as lists of instructions. It learns of a fault only
that there is one and whether it is handled. An instruction that a moment does not offer does
nothing, and one that raises a fault ends the list.
-/

namespace RequestPipeline

open Http

/-- What an instruction may depend on. -/
inductive Condition where
  /-- A fault is in flight, and the moment shows it. -/
  | fault
  /-- The fault in flight is handled. -/
  | handled
  /-- A filter ended the way inwards. -/
  | canceled
  /-- There is a result. -/
  | result
  /-- The filter is in charge of a policy. -/
  | effective (m : Marker)
  /-- An argument is bound. -/
  | argument (name : String)
  /-- The caller has a role. -/
  | role (name : String)
  | not (c : Condition)

/-- Something that a script does. -/
inductive Instruction where
  | setResult (answer : Answer)
  | markHandled
  | fail (fault : Fault)
  | suppress
  | setArgument (name : String) (value : Json)
  | dropArgument (name : String)
  | setStatus (status : Status)
  | setHeader (name : HeaderName) (value : HeaderValue)
  | cancelRequest
  /-- Raises a fault if the request was cancelled. -/
  | ensureActive
  | note (value : Json)
  /-- Remarks on what the filter sees. -/
  | report
  /-- Waits; nothing changes meanwhile. -/
  | pause
  | whenever (condition : Condition) (body : List Instruction)

/-- Whether a condition holds at a moment. -/
def Condition.holds (callback : Callback) (v : View) : Condition → Bool
  | fault => callback.seesFault && v.state.pending.isSome
  | handled => callback.seesFault && v.state.handled
  | canceled => v.state.canceled
  | result => v.state.result.isSome
  | effective m => v.isEffective m
  | argument name => (v.state.call.arguments.get? name).isSome
  | role name => v.state.call.hasRole name
  | not c => !c.holds callback v

/-- What a filter sees once its reply so far is granted. -/
def View.after (v : View) (callback : Callback) (r : Reply) : View :=
  { v with state := v.state.grant callback r }

/-- The reply with the result changed in place, where the moment offers that and there is one. -/
def Reply.edit (r : Reply) (callback : Callback) (v : View) (change : Answer → Answer) : Reply :=
  if callback.changesResult then
    match (v.after callback r).state.result with
    | some answer => { r with result := some (change answer) }
    | none => r
  else r

/-- The reply with other arguments. -/
def Reply.rebind (r : Reply) (callback : Callback) (v : View) (change : Arguments → Arguments) :
    Reply :=
  { r with arguments := some (change (v.after callback r).state.call.arguments) }

/-- The reply with one more remark. -/
def Reply.remark (r : Reply) (m : Remark) : Reply := { r with remarks := r.remarks ++ [m] }

mutual

/-- The reply after one more instruction. -/
def Instruction.perform (callback : Callback) (v : View) : Instruction → Reply → Reply
  | .setResult answer, r => { r with result := some answer }
  | .markHandled, r => { r with handled := true }
  | .fail fault, r => { r with fault := some (fault.forRequest v.state.call.id) }
  | .suppress, r => { r with suppress := true }
  | .setArgument name value, r => r.rebind callback v fun as => as.put name value
  | .dropArgument name, r => r.rebind callback v fun as => as.drop name
  | .setStatus status, r => r.edit callback v fun a => { a with status }
  | .setHeader name value, r => r.edit callback v fun a => a.withHeader name value
  | .cancelRequest, r => { r with cancel := true }
  | .ensureActive, r => { r with fault := (v.after callback r).state.call.interruption? }
  | .note value, r => r.remark (.note value)
  | .report, r => r.remark (.report ((v.after callback r).summary callback))
  | .pause, r => r
  | .whenever condition body, r =>
    if condition.holds callback (v.after callback r) then
      Instruction.performAll callback v body r
    else r

/-- The reply after more instructions, up to the first that raises a fault. -/
def Instruction.performAll (callback : Callback) (v : View) : List Instruction → Reply → Reply
  | [], r => r
  | i :: rest, r =>
    let r := Instruction.perform callback v i r
    -- what was done before the fault stays done
    if r.fault.isSome then r else Instruction.performAll callback v rest r

end

/-- A filter written as instructions. -/
structure Script where
  name : String
  order : Option Int := none
  policies : List Marker := []
  /-- More policies that it remarks on. -/
  watched : List Marker := []
  /-- It takes part only in the phases that surround others, and does nothing in them. -/
  bare : Bool := false
  authorization : Option (List Instruction) := none
  resource : Option (List Instruction × List Instruction) := none
  exception : Option (List Instruction) := none
  action : Option (List Instruction × List Instruction) := none
  result : Option (List Instruction × List Instruction) := none

namespace Script

/-- What a script sees when it is called. -/
def sight (s : Script) (callback : Callback) (v : View) : Sight where
  callback := callback
  filter := s.name
  index := v.state.current.getD 0
  listing := v.listing?
  policies := (s.policies ++ s.watched).map fun m =>
    (m, v.isEffective m, (v.effective? m).map (·.name))
  state := v.state

/-- The behaviour that instructions describe: the script remarks on what it sees and follows them.
-/
def behave (s : Script) (callback : Callback) (body : List Instruction) : Behaviour := fun v =>
  Instruction.performAll callback v body { remarks := [.sight (s.sight callback v)] }

/-- The behaviour around a phase. -/
def around (s : Script) (before after : Callback) (bodies : List Instruction × List Instruction) :
    Around :=
  if s.bare then .idle else ⟨s.behave before bodies.1, s.behave after bodies.2⟩

/-- The behaviour in a phase that surrounds no other. -/
def within (s : Script) (callback : Callback) (body : Option (List Instruction)) :
    Option Behaviour :=
  if s.bare then none else body.map (s.behave callback)

/-- The filter of a script. -/
def toFilter (s : Script) : Filter where
  name := s.name
  order := s.order
  policies := Marker.distinct s.policies
  authorization := s.within .authorization s.authorization
  resource := s.resource.map (s.around .resourceBefore .resourceAfter)
  exception := s.within .exception s.exception
  action := s.action.map (s.around .actionBefore .actionAfter)
  result := s.result.map (s.around .resultBefore .resultAfter)

end Script

end RequestPipeline
