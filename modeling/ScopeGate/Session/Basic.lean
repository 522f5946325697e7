import ScopeGate.Json.Parser

/-!
# Sessions

A session of the identity provider has an identifier and, once somebody has signed in, a user. It is
read from JSON like any record; only the user may be absent or null, and it is not written when it
is absent.
-/

namespace ScopeGate

structure SessionUser where
  id : String
  email : String
  displayName : String
  deriving DecidableEq, Repr

structure Session where
  id : String
  /-- The user, once somebody has signed in. -/
  user : Option SessionUser
  deriving DecidableEq, Repr

namespace SessionUser

def fieldNames : List String := ["id", "email", "display_name"]

def toJson (u : SessionUser) : Json.Value :=
  .record [("id", .text u.id), ("email", .text u.email), ("display_name", .text u.displayName)]

def ofJson? (v : Json.Value) : Option SessionUser := do
  match ← v.fields? fieldNames with
  | [some id, some email, some displayName] =>
    return ⟨← id.text?, ← email.text?, ← displayName.text?⟩
  | _ => none

end SessionUser

namespace Session

def isAuthenticated (s : Session) : Bool := s.user.isSome

def fieldNames : List String := ["id", "user"]

def toJson (s : Session) : Json.Value :=
  .record
    (("id", .text s.id) :: (s.user.map fun u => ("user", SessionUser.toJson u)).toList)

def ofJson? (v : Json.Value) : Option Session := do
  match ← v.fields? fieldNames with
  | [some id, user] =>
    return ⟨← id.text?, ← Json.optionalField? SessionUser.ofJson? user⟩
  | _ => none

end Session

inductive SessionFault where
  | notFound
  /-- The session is authenticated as another user than the one given. -/
  | userMismatch
  | aborted
  /-- The caller went away first. -/
  | canceled
  /-- The session service failed, for the reason given. -/
  | service (reason : String)
  deriving DecidableEq, Repr

def SessionFault.message : SessionFault → String
  | .notFound => "session not found"
  | .userMismatch => "session belongs to a different user"
  | .aborted => "session request aborted"
  | .canceled => "session request canceled"
  | .service reason => "session service error: " ++ reason

end ScopeGate
