import ScopeGate.Http.Resource
import ScopeGate.Introspection.Verdict

/-!
# HTTP messages

Requests and responses as the gate sees them. The fields of a header keep their order and may share
a name; names differ only by more than the case of their letters, and values are octets. A request
that has been admitted carries what is known of its client.
-/

namespace ScopeGate.Http

structure Field where
  name : String
  value : Octets
  deriving DecidableEq, Repr

def sameName (a b : String) : Bool := a.toList.map Char.toLower == b.toList.map Char.toLower

def isPadding (b : UInt8) : Bool := b == 0x20 || b == 0x09

/-- A field as it comes off the wire, where the padding around its value is no part of it. -/
def Field.received (name : String) (raw : Octets) : Field :=
  ⟨name, ((raw.dropWhile isPadding).reverse.dropWhile isPadding).reverse⟩

def firstValue? (name : String) (fields : List Field) : Option Octets :=
  (fields.find? fun f => sameName f.name name).map Field.value

structure Request where
  method : String
  /-- What names the resource, mostly a path with perhaps a query after it. -/
  target : String
  fields : List Field
  /-- What is known of the client, once the request has been admitted. -/
  client : Option ClientInfo
  deriving DecidableEq, Repr

structure Response where
  status : Nat
  contentType : Option String
  body : Octets
  deriving DecidableEq, Repr

/-- The path of a request, without the query. It is empty if the target names none. -/
def Request.path (r : Request) : String :=
  String.ofList ((resourcePath? r.target.toList).getD [])

namespace Response

/-- The body as it is sent to who used a method. Who asks only what it would be gets none. -/
def bodyFor (method : String) (r : Response) : Octets := if method = "HEAD" then [] else r.body

def bare (status : Nat) : Response := ⟨status, none, []⟩

def plain (status : Nat) (words : String) : Response :=
  ⟨status, some "text/plain; charset=utf-8", .ofString words⟩

def json (v : Json.Value) : Response := ⟨200, some "application/json", v.render⟩

end Response

end ScopeGate.Http
