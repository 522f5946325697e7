import ScopeGate.Http.Wire
import ScopeGate.Introspection.Script
import ScopeGate.Server.Basic

/-!
# Rehearsals

A server that is tried out with a scripted provider at one moment. It is sent requests one by one,
as octets; those that it cannot make out it refuses.
-/

namespace ScopeGate.Server

structure Rehearsal where
  responses : List Http.Response
  /-- What the provider was asked. -/
  inquiries : List Introspection.Inquiry
  exitCode : Nat
  /-- What the server says of its end. -/
  complaint : String

def exchange (clock : Clock) (request : Http.Request) (script : Introspection.Script) (s : Server) :
    Server × Introspection.Script × Http.Response :=
  match s.receive clock request with
  | (s, .responded response, _) => (s, script, response)
  | (s, .waiting route check token, _) =>
    let (script, answer) := script.ask s.endpoint token
    let (s, response, _) := s.complete clock request route check token answer
    (s, script, response)

def answer (clock : Clock) (arrived : Octets) (script : Introspection.Script) (s : Server) :
    Server × Introspection.Script × Http.Response :=
  match Http.Head.request? arrived with
  | none => (s, script, .bare Http.HeadFault.malformed.status)
  | some (.error fault) => (s, script, .bare fault.status)
  | some (.ok request) =>
    let (s, script, response) := s.exchange clock request script
    (s, script, { response with body := response.bodyFor request.method })

def answerAll (clock : Clock) (arrivals : List Octets) (script : Introspection.Script)
    (s : Server) : Introspection.Script × List Http.Response :=
  match arrivals with
  | [] => (script, [])
  | arrived :: rest =>
    let (s, script, response) := s.answer clock arrived script
    let (script, responses) := s.answerAll clock rest script
    (script, response :: responses)

/-- Sets up a server and sends it requests. A configuration that is refused serves none. -/
def rehearse (lookup : Setting → Option String) (clock : Clock) (requests : List Http.Request)
    (script : Introspection.Script) : Rehearsal :=
  match Config.ofSettings lookup with
  | .error fault => ⟨[], script.asked, 1, refusal fault⟩
  | .ok config =>
    let arrivals := requests.map (Http.Wire.ofRequest config.listenAddress)
    let (script, responses) := (Server.new config).answerAll clock arrivals script
    ⟨responses, script.asked, 0, ""⟩

end ScopeGate.Server
