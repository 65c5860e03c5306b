import RequestPipeline.Filter.Basic
import RequestPipeline.Text.Quoted
import RequestPipeline.Text.Set

/-!
# Access by role

Whether a caller may have an action depends on the caller's roles. A caller without roles is
anonymous and may have what is open to everybody.
-/

namespace RequestPipeline

open Text

/-- The decision on a call. -/
inductive Decision where
  | allow
  /-- The caller would have to say who they are. -/
  | unauthenticated (reason : String)
  /-- The caller may not do this. -/
  | deny (reason : String)
  deriving DecidableEq, Repr

namespace Decision

/-- The answer to a call that is not allowed. -/
def answer? : Decision → Option Answer
  | allow => none
  | unauthenticated reason => some (.error .unauthorized "AUTHENTICATION_REQUIRED" reason)
  | deny reason => some (.error .forbidden "AUTHORIZATION_DENIED" reason)

end Decision

/-- What roles may do. An asterisk among the actions of a role stands for every action. -/
structure RoleTable where
  /-- The actions of roles, by display name. -/
  grants : List (String × TextSet) := []
  anonymousActions : TextSet := .empty
  anonymous : Bool := false
  deriving DecidableEq

namespace RoleTable

/-- Lets a role have these actions and no others. -/
def allowRole (t : RoleTable) (role : String) (actions : List String) : RoleTable :=
  { t with grants := (role, .ofList actions) :: t.grants.filter fun g => g.1 ≠ role }

/-- Lets anonymous callers have more actions. -/
def allowAnonymousActions (t : RoleTable) (actions : List String) : RoleTable :=
  { t with anonymousActions := t.anonymousActions.insertAll actions }

/-- Lets anonymous callers have every action. -/
def allowAnonymous (t : RoleTable) : RoleTable := { t with anonymous := true }

/-- Whether a role may have an action. -/
def permits (t : RoleTable) (action role : String) : Bool :=
  (t.grants.lookup role).any fun actions => actions.contains "*" || actions.contains action

/-- The decision on a call. -/
def decide (t : RoleTable) (c : Call) : Decision :=
  let action := c.action.displayName
  if c.roles.isEmpty then
    if t.anonymous || t.anonymousActions.contains action then .allow
    else .unauthenticated "Anonymous access not permitted"
  else if c.roles.any (t.permits action) then .allow
  else
    .deny ("No permission for action '" ++ action ++ "' with roles " ++
      bracketed (c.roles.map quoted))

end RoleTable

/-- A rule for the actions of a name; an asterisk stands for every action. -/
structure AccessRule where
  action : String
  decision : Decision

/-- The decision of the first rule for an action; without one the call is allowed. -/
def AccessRule.decide (rules : List AccessRule) (c : Call) : Decision :=
  match rules.find? fun r => r.action == c.action.name || r.action == "*" with
  | some r => r.decision
  | none => .allow

/-- Who decides on calls. -/
inductive Access where
  | allowAll
  | denyAll
  | roles (table : RoleTable)
  | custom (judge : Call → Decision)

namespace Access

/-- The decision on a call. -/
def decide : Access → Call → Decision
  | allowAll, _ => .allow
  | denyAll, _ => .deny "Authorization denied (deny-all mode)"
  | roles table, c => table.decide c
  | custom judge, c => judge c

/-- Refuses calls that are not allowed. -/
def onAuthorization (a : Access) : Behaviour := fun v =>
  match (a.decide v.state.call).answer? with
  | none => {}
  | some answer =>
    { result := some answer
      remarks := [.denied v.state.call.action.displayName answer.status] }

/-- The filter that carries out the decisions. -/
def toFilter (a : Access) : Filter where
  name := "authorization"
  authorization := some a.onAuthorization

end Access

end RequestPipeline
