import ScopeGate.Gate.Bearer
import ScopeGate.Introspection.Provider
import ScopeGate.Metrics
import ScopeGate.Telemetry.Signal

/-!
# Rejections

Why a request is refused. A rejection holds the whole cause, for records and logs; the caller is
told only words that depend on the kind of the rejection and on nothing else.
-/

namespace ScopeGate

inductive Rejection where
  | invalidCredential (fault : BearerFault)
  | introspection (fault : IntrospectionFault)
  | inactiveToken (clientId : String)
  | userToken (clientId userId : String)
  /-- The first of the required scopes that the granted ones do not meet is missing. -/
  | insufficientScope (clientId : String) (granted required : List String) (missing : String)
  deriving DecidableEq, Repr

namespace Rejection

def outcome : Rejection → Outcome
  | invalidCredential _ => .unauthenticated
  | introspection fault => if fault.isCanceled then .canceled else .internal
  | inactiveToken _ => .unauthenticated
  | userToken _ _ => .forbidden
  | insufficientScope _ _ _ _ => .forbidden

def message : Rejection → String
  | invalidCredential fault => "invalid authorization header: " ++ fault.message
  | introspection fault => "introspection failed: " ++ fault.message
  | inactiveToken client => "inactive token for client " ++ client
  | userToken client user => "token for client " ++ client ++ " is bound to user " ++ user
  | insufficientScope _ granted required _ =>
    "got scopes " ++ Text.quotedList granted ++ ", required: " ++ Text.quotedList required

def safeMessage : Rejection → String
  | invalidCredential _ => "invalid authorization header"
  | introspection _ => "unable to validate token"
  | inactiveToken _ => "permission denied"
  | userToken _ _ => "user tokens not allowed"
  | insufficientScope _ _ _ _ => "insufficient scope"

/-- The log event of a rejection. The fields in `front` come first; a failed introspection is told
by `failed`. -/
def logEvent (front : List (String × AttributeValue)) (failed : IntrospectionFault → LogEvent) :
    Rejection → LogEvent
  | invalidCredential fault =>
    ⟨.warn, "error extracting bearer token", front ++ [("error", .string fault.message)]⟩
  | introspection fault => failed fault
  | inactiveToken client =>
    ⟨.warn, "attempt to authenticate with inactive token", front ++ [("client", .string client)]⟩
  | userToken client user =>
    ⟨.warn, "attempt to authenticate using token with user ID",
      front ++ [("client", .string client), ("user_id", .string user)]⟩
  | insufficientScope client granted _ missing =>
    ⟨.warn, "attempt to authenticate using token without required scope",
      front ++
        [("client", .string client), ("got_scopes", .string (Text.quotedList granted)),
          ("required_scope", .string missing)]⟩

theorem outcome_ne_admitted (r : Rejection) : r.outcome ≠ .admitted := by
  cases r with
  | introspection fault => cases fault <;> simp [outcome, IntrospectionFault.isCanceled]
  | _ => simp [outcome]

end Rejection

end ScopeGate
