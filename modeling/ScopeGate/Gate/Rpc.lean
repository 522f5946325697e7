import ScopeGate.Gate.Authorizer

/-!
# Remote procedure calls

Every procedure declares the scopes that it requires. The interceptor checks a call before its
handler runs, and hands the handler the call with what is known of the client. A call that this side
makes as a client passes untouched, and a call of a procedure without a declaration is refused as a
fault of the system's own.
-/

namespace ScopeGate.Rpc

inductive Code where
  | canceled
  | unauthenticated
  | permissionDenied
  | internal
  deriving DecidableEq, Repr

def Code.word : Code → String
  | .canceled => "canceled"
  | .unauthenticated => "unauthenticated"
  | .permissionDenied => "permission_denied"
  | .internal => "internal"

structure Status where
  code : Code
  message : String
  deriving DecidableEq, Repr

def Status.text (s : Status) : String := s.code.word ++ ": " ++ s.message

structure Request where
  procedure : String
  /-- Whether this side of the call is the client. -/
  isClient : Bool
  fields : List Http.Field
  /-- What is known of the client, once the call has been admitted. -/
  client : Option ClientInfo
  message : String
  deriving DecidableEq, Repr

structure Reply where
  client : Option ClientInfo
  message : String
  deriving DecidableEq, Repr

abbrev Handler := Request → Except Status Reply

structure Methods where
  entries : List (String × RequiredScopes)

namespace Methods

def empty : Methods := ⟨[]⟩

/-- Declares what a procedure requires, in place of what it required before. -/
def declare (procedure : String) (required : RequiredScopes) (m : Methods) : Methods :=
  ⟨(procedure, required) :: m.entries.filter fun e => !(e.1 = procedure)⟩

def register (procedure : String) (texts : List String) (m : Methods) : Except Fault Methods := do
  return m.declare procedure (← RequiredScopes.ofTexts texts)

def find? (procedure : String) (m : Methods) : Option RequiredScopes :=
  (m.entries.find? fun e => e.1 = procedure).map Prod.snd

def size (m : Methods) : Nat := m.entries.length

def isEmpty (m : Methods) : Bool := m.entries.isEmpty

theorem find?_declare_self (procedure : String) (required : RequiredScopes) (m : Methods) :
    (m.declare procedure required).find? procedure = some required := by
  simp [declare, find?]

end Methods

structure Interceptor where
  methods : Methods
  /-- Tokens that act for a user are taken where nothing else is asked for. -/
  policy : CredentialPolicy := .anyCredential

def Status.ofRejection (r : Rejection) : Status :=
  match r with
  | .invalidCredential _ => ⟨.unauthenticated, r.safeMessage⟩
  | .introspection fault =>
    ⟨if fault.isCanceled then .canceled else .internal, r.safeMessage⟩
  | .inactiveToken _ => ⟨.permissionDenied, r.safeMessage⟩
  | .userToken _ _ => ⟨.permissionDenied, r.safeMessage⟩
  | .insufficientScope _ _ _ _ => ⟨.permissionDenied, r.safeMessage⟩

def rejectionEvent (procedure : String) (r : Rejection) : LogEvent :=
  let front := [("procedure", AttributeValue.string procedure)]
  r.logEvent front fun fault =>
    let code := if fault.isCanceled then Code.canceled else Code.internal
    ⟨if fault.isCanceled then .warn else .error, r.safeMessage,
      front ++ [("code", .string code.word), ("error", .string fault.message)]⟩

namespace Interceptor

def record (procedure : String) : TraceRecord :=
  (Check.freshRecord "rpc").setString Key.procedure procedure

def undeclaredMessage : String := "internal schema error"

def undeclaredSignals (procedure : String) : List Signal :=
  [.log
      ⟨.error, undeclaredMessage ++ ": no required scopes declared",
        [("procedure", .string procedure), ("code", .string Code.internal.word)]⟩,
    .record
      ((record procedure).markError ("no required scopes declared for " ++ procedure)
        undeclaredMessage)]

inductive Arrival where
  /-- It passes untouched. -/
  | passed
  | undeclared
  | checked (c : Check)

def arrive (r : Request) (i : Interceptor) : Arrival :=
  if r.isClient then .passed
  else
    match i.methods.find? r.procedure with
    | none => .undeclared
    | some required => .checked ⟨required, i.policy, record r.procedure⟩

/-- The call as its handler sees it, or what its caller is told. -/
def conclude (r : Request) (decision : Except Rejection ClientInfo) : Except Status Request :=
  match decision with
  | .ok client => .ok { r with client := some client }
  | .error rejection => .error (.ofRejection rejection)

def signals (r : Request) (ruling : Ruling) : List Signal :=
  .record ruling.record ::
    match ruling.decision with
    | .ok _ => []
    | .error rejection => [.log (rejectionEvent r.procedure rejection)]

end Interceptor

/-- What a refused caller is told depends on the kind of the rejection alone. -/
theorem Status.message_ofRejection (r : Rejection) :
    (Status.ofRejection r).message = r.safeMessage := by
  cases r <;> rfl

end ScopeGate.Rpc
