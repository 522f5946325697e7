import ScopeGate.Http.Head
import ScopeGate.Introspection.Endpoint

/-!
# Messages on the wire

How requests, responses and inquiries are written as octets, in version 1.1 of the protocol and one
to a connection. How they are read is told in `ScopeGate.Http.Head` and `ScopeGate.Http.Reply`.
-/

namespace ScopeGate.Http.Wire

def line (s : String) : Octets := .ofString (s ++ "\r\n")

def decimal (n : Nat) : String := String.ofList (Text.digits n)

def reason (status : Nat) : String :=
  match status with
  | 200 => "OK"
  | 400 => "Bad Request"
  | 401 => "Unauthorized"
  | 403 => "Forbidden"
  | 404 => "Not Found"
  | 405 => "Method Not Allowed"
  | 414 => "URI Too Long"
  | 431 => "Request Header Fields Too Large"
  | 500 => "Internal Server Error"
  | _ => ""

def lineOf (name : String) (value : Option String) : Octets :=
  (value.map fun v => line (name ++ ": " ++ v)).getD []

def ofField (f : Field) : Octets := .ofString (f.name ++ ": ") ++ f.value ++ line ""

/-- A request to a host as octets, after which the client means to hear no more. -/
def ofRequest (host : String) (r : Request) : Octets :=
  line (r.method ++ " " ++ r.target ++ " HTTP/1.1")
    ++ line ("host: " ++ host) ++ line "connection: close" ++ r.fields.flatMap ofField ++ line ""

def ofResponse (method : String) (r : Response) : Octets :=
  line ("HTTP/1.1 " ++ decimal r.status ++ " " ++ reason r.status)
    ++ lineOf "content-type" r.contentType
    ++ line ("content-length: " ++ decimal r.body.length)
    ++ line "connection: close" ++ line "" ++ r.bodyFor method

def ofInquiry (target : Target) (i : Introspection.Inquiry) : Octets :=
  let body := Octets.ofString i.body
  line (i.method ++ " " ++ i.path ++ " HTTP/1.1")
    ++ line ("host: " ++ target.host.text ++ ":" ++ decimal target.port)
    ++ lineOf "authorization" i.authorization ++ lineOf "content-type" i.contentType
    ++ lineOf "content-length" (i.contentType.map fun _ => decimal body.length)
    ++ line "accept: */*" ++ line "connection: close" ++ line "" ++ body

end ScopeGate.Http.Wire
