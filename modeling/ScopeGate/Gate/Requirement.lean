import ScopeGate.Config
import ScopeGate.Introspection.Provider
import ScopeGate.Scope.Coverage
import ScopeGate.Scope.Fault
import ScopeGate.Session.Basic

/-!
# Requirements

An endpoint declares which scopes it requires and which kind of credential it takes. A declaration
without scopes or with a faulty one is refused when the endpoint is set up, so that no request ever
meets one: `RequiredScopes` holds at least one scope, and none has a fault.
-/

namespace ScopeGate

/-- Whatever can go wrong in the parts of the system, for those who set it up. -/
inductive Fault where
  | scope (fault : ScopeFault)
  /-- An endpoint was declared in a way that makes no sense, for the reason given. -/
  | setup (reason : String)
  | config (fault : ConfigFault)
  | introspection (fault : IntrospectionFault)
  | session (fault : SessionFault)
  deriving DecidableEq, Repr

def Fault.message : Fault → String
  | .scope fault => "Invalid scope: " ++ fault.message
  | .setup reason => "Configuration error: " ++ reason
  | .config fault => fault.message
  | .introspection fault => "Introspection error: " ++ fault.message
  | .session fault => "Session error: " ++ fault.message

structure RequiredScopes where
  scopes : List Scope
  scopes_ne_nil : scopes ≠ []
  validate_eq_ok : ∀ s ∈ scopes, s.validate = .ok ()
  deriving DecidableEq

namespace RequiredScopes

def firstFault (scopes : List Scope) : Option ScopeFault :=
  scopes.findSome? fun s =>
    match s.validate with
    | .ok () => none
    | .error fault => some fault

theorem validate_eq_ok_of_firstFault {scopes : List Scope} (h : firstFault scopes = none) :
    ∀ s ∈ scopes, s.validate = .ok () := by
  intro s hs
  have hn := List.findSome?_eq_none_iff.mp h s hs
  cases hv : s.validate with
  | ok u => rfl
  | error fault => simp [hv] at hn

def ofScopes (scopes : List Scope) : Except Fault RequiredScopes :=
  if hne : scopes = [] then .error (.setup "endpoint must declare at least one required scope")
  else
    match h : firstFault scopes with
    | some fault => .error (.scope fault)
    | none => .ok ⟨scopes, hne, validate_eq_ok_of_firstFault h⟩

def ofTexts (texts : List String) : Except Fault RequiredScopes := ofScopes (texts.map Scope.mk)

def texts (r : RequiredScopes) : List String := r.scopes.map Scope.text

theorem scopes_of_ofScopes {scopes : List Scope} {r : RequiredScopes}
    (h : ofScopes scopes = .ok r) : r.scopes = scopes := by
  unfold ofScopes at h
  split at h
  · cases h
  · split at h
    · cases h
    · cases h
      rfl

end RequiredScopes

inductive CredentialPolicy where
  /-- Only tokens that act for no user. -/
  | machineOnly
  | anyCredential
  deriving DecidableEq, Repr

namespace CredentialPolicy

def default : CredentialPolicy := .machineOnly

def allows (v : Verdict) : CredentialPolicy → Bool
  | machineOnly => !v.isUserToken
  | anyCredential => true

end CredentialPolicy

end ScopeGate
