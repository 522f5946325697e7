import ScopeGate.Introspection.Provider
import ScopeGate.Json.Parser

/-!
# Introspection responses

The body in which the identity provider answers. Only `active` has to be given; the claim, the
client and the expiry have defaults, and the user may be absent. The expiry counts seconds from the
start of 1970 and has to be an integer of 64 bits with a sign. It may lie outside the years that can
be written, and then the body is understood but gives no verdict.
-/

namespace ScopeGate.Introspection

structure Response where
  active : Bool
  /-- The scopes, between blanks. -/
  claim : String
  clientId : String
  userId : Option String
  /-- The expiry in seconds. -/
  expiry : Int
  deriving DecidableEq, Repr

namespace Response

def fieldNames : List String := ["active", "scope", "client_id", "user_id", "exp"]

def expiry? (v : Json.Value) : Option Int := do
  let n ← v.int?
  if Int64.minValue.toInt ≤ n ∧ n ≤ Int64.maxValue.toInt then some n else none

def ofJson? (v : Json.Value) : Option Response := do
  match ← v.fields? fieldNames with
  | [some active, claim, clientId, userId, expiry] =>
    let active ← active.bool?
    let claim ← Json.fieldWithDefault? Json.Value.text? "" claim
    let clientId ← Json.fieldWithDefault? Json.Value.text? "" clientId
    let userId ← Json.optionalField? Json.Value.text? userId
    let expiry ← Json.fieldWithDefault? expiry? 0 expiry
    return ⟨active, claim, clientId, userId, expiry⟩
  | _ => none

/-- An integer in decimal digits, with a minus sign where it is negative. -/
def integerText (n : Int) : String :=
  String.ofList ((if n < 0 then ['-'] else []) ++ Text.digits n.natAbs)

/-- The verdict that the response gives. An empty user is no user. -/
def toAnswer (r : Response) : Answer :=
  match Instant.ofSeconds? r.expiry with
  | none => .error (.malformed ("exp " ++ integerText r.expiry ++ " out of range"))
  | some expiresAt =>
    .ok
      { active := r.active
        grants := .ofClaim r.claim
        clientId := r.clientId
        userId := r.userId.filter fun id => !id.isEmpty
        expiresAt }

end Response

end ScopeGate.Introspection
