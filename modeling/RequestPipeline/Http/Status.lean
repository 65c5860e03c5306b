/-!
# Status codes

A status code has three digits, the first of which is not zero.
-/

namespace RequestPipeline.Http

/-- The status of a result. -/
structure Status where
  code : Nat
  range : 100 ≤ code ∧ code ≤ 999 := by decide
  deriving DecidableEq

namespace Status

/-- The status with a code, if the code is in range. -/
def ofCode? (code : Nat) : Option Status :=
  if range : 100 ≤ code ∧ code ≤ 999 then some ⟨code, range⟩ else none

/-- The request succeeded. -/
def ok : Status := { code := 200 }
/-- The request succeeded and there is nothing to send. -/
def noContent : Status := { code := 204 }
/-- The request is malformed. -/
def badRequest : Status := { code := 400 }
/-- The caller has not said who they are. -/
def unauthorized : Status := { code := 401 }
/-- The caller may not do this. -/
def forbidden : Status := { code := 403 }
/-- There is no such thing. -/
def notFound : Status := { code := 404 }
/-- The request conflicts with the present state. -/
def conflict : Status := { code := 409 }
/-- Something failed inside. -/
def internal : Status := { code := 500 }
/-- An answer did not arrive in time. -/
def gatewayTimeout : Status := { code := 504 }

instance : Inhabited Status := ⟨ok⟩

end Status

end RequestPipeline.Http
