import ScopeGate.Http.Target
import ScopeGate.Introspection.Response
import ScopeGate.Json.Parser
import ScopeGate.Text.Octets

/-!
# Introspection over HTTP

The identity provider takes a token as the one field of a form that is posted to it, together with
the credentials of who asks, and replies with an introspection response. Credentials in the address
of the provider come before the others.
-/

namespace ScopeGate.Introspection

structure Inquiry where
  method : String
  path : String
  /-- The credentials of who asks, where they are shown. -/
  authorization : Option String
  /-- What the body is, if there is one. -/
  contentType : Option String
  body : String
  deriving DecidableEq, Repr

structure Endpoint where
  url : String
  clientId : String
  clientSecret : String
  deriving DecidableEq, Repr

namespace Endpoint

def urlBelow (root : String) : String :=
  String.ofList (root.toList.reverse.dropWhile (· == '/')).reverse ++ "/oauth/introspect"

def below (root clientId clientSecret : String) : Endpoint :=
  ⟨urlBelow root, clientId, clientSecret⟩

def target? (e : Endpoint) : Option Http.Target := Http.Target.ofUrl? e.url

def authorization (target : Http.Target) (e : Endpoint) : String :=
  let credentials := target.credentials.getD (e.clientId ++ ":" ++ e.clientSecret)
  "Basic " ++ String.ofList (Text.base64 (.ofString credentials))

def inquiry (target : Http.Target) (token : String) (e : Endpoint) : Inquiry :=
  { method := "POST"
    path := target.path
    authorization := some (e.authorization target)
    contentType := some "application/x-www-form-urlencoded"
    body := String.ofList (Text.form [("token", token)]) }

end Endpoint

def answerOfBody (body : Octets) : Answer :=
  match (Json.Value.parse? body).bind Response.ofJson? with
  | none => .error (.malformed "not an introspection response")
  | some response => response.toAnswer

example : Endpoint.urlBelow "idp//" = "idp/oauth/introspect" := by cbv

end ScopeGate.Introspection
