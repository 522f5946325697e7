import ScopeGate.Json.Parser
import ScopeGate.Scope.Coverage
import ScopeGate.Text.Blank
import ScopeGate.Time.Timestamp

/-!
# Verdicts

The identity provider's verdict on a bearer token says whether the token is active, to which client
it was issued, on behalf of which user, with which grants and until when. A token that is not active
is to be refused whatever else its verdict carries. An empty user is no user, but the verdict keeps
it apart from an absent one.

The grants are written in two ways. The provider answers with one text, the claim, whose words are
the scopes; in JSON they are an array of strings. Neither way looks into a scope, so that what is
malformed survives both.

Once a request is admitted, what its handler learns of the verdict is the `ClientInfo`.
-/

namespace ScopeGate

namespace Grants

def ofClaim (claim : String) : Grants :=
  ofTexts ((Text.words claim.toList).map String.ofList)

def toJson (g : Grants) : Json.Value := .texts g.texts

def ofJson? (v : Json.Value) : Option Grants := v.texts?.map ofTexts

@[simp] theorem ofJson?_toJson (g : Grants) : ofJson? g.toJson = some g := by
  simp [ofJson?, toJson, ofTexts, texts, Function.comp_def]

example : (ofClaim " openid\tprofile ").texts = ["openid", "profile"] := by cbv

end Grants

structure Verdict where
  /-- Issued by the identity provider, not revoked, not expired. -/
  active : Bool
  grants : Grants
  /-- The client that the token was issued to. -/
  clientId : String
  /-- The user on whose behalf the token acts. -/
  userId : Option String
  expiresAt : Instant
  deriving DecidableEq, Repr

structure ClientInfo where
  clientId : String
  tokenExpiresAt : Instant
  tokenScopes : Grants
  deriving DecidableEq, Repr

namespace Verdict

def inactive : Verdict := ⟨false, ⟨[]⟩, "", none, .epoch⟩

def isExpiredAt (now : Instant) (v : Verdict) : Bool := decide (v.expiresAt ≤ now)

def isUserToken (v : Verdict) : Bool :=
  match v.userId with
  | none => false
  | some id => !id.isEmpty

def clientInfo (v : Verdict) : ClientInfo := ⟨v.clientId, v.expiresAt, v.grants⟩

def expiryText (v : Verdict) : String := v.expiresAt.timestamp .numeric

def fieldNames : List String := ["active", "scopes", "client_id", "user_id", "expires_at"]

/-- The verdict as an object. An absent user has no member. -/
def toJson (v : Verdict) : Json.Value :=
  .record <|
    [("active", .bool v.active), ("scopes", v.grants.toJson), ("client_id", .text v.clientId)]
      ++ (v.userId.map fun id => ("user_id", Json.Value.text id)).toList
      ++ [("expires_at", .text (v.expiresAt.timestamp .zulu))]

/-- Reads a verdict from a record whose fields are all given, the user perhaps as null or, in an
object, not at all. -/
def ofJson? (v : Json.Value) : Option Verdict := do
  match ← v.fields? fieldNames with
  | [some active, some scopes, some clientId, userId, some expiresAt] =>
    let active ← active.bool?
    let grants ← Grants.ofJson? scopes
    let clientId ← clientId.text?
    let userId ← Json.optionalField? Json.Value.text? userId
    let expiresAt ← Instant.ofTimestamp? (← expiresAt.text?)
    return ⟨active, grants, clientId, userId, expiresAt⟩
  | _ => none

end Verdict

def ClientInfo.toJson (c : ClientInfo) : Json.Value :=
  .record
    [("client_id", .text c.clientId),
      ("token_expires_at", .text (c.tokenExpiresAt.timestamp .zulu)),
      ("token_scopes", c.tokenScopes.toJson)]

end ScopeGate
