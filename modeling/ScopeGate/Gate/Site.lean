import ScopeGate.Gate.Authorizer
import ScopeGate.Http.Routing

/-!
# Sites

A site serves pages, each under the paths that lead to it, see `ScopeGate.Http.Routing`. A page may
be guarded by the scopes that it requires; then a request is checked before the page is served, and
the page sees what is known of the client. The guard stands before everything else that belongs to
the path, so that a method that the page does not know is only told of to those who may see the
page.
-/

namespace ScopeGate.Http

abbrev Page := Clock → Authorizer → Request → Response

structure Route where
  pattern : Pattern
  /-- What a request has to be granted before the page is served. -/
  required : Option RequiredScopes
  page : Page

structure Site where
  routes : List Route
  /-- Tokens that act for a user are refused where nothing else is asked for. -/
  policy : CredentialPolicy := .machineOnly

def Response.ofRejection : Rejection → Response
  | .invalidCredential _ => .plain 401 "Unauthorized"
  | .introspection fault =>
    if fault.isCanceled then .plain 400 "Bad Request" else .plain 500 "Internal Server Error"
  | .inactiveToken _ => .plain 401 "Unauthorized: Inactive token"
  | .userToken _ _ => .plain 403 "Forbidden: User tokens not allowed"
  | .insufficientScope _ _ _ _ => .plain 403 "Forbidden: Missing required scope"

def rejectionEvent (r : Rejection) : LogEvent :=
  r.logEvent [] fun fault =>
    ⟨if fault.isCanceled then .warn else .error, "error introspecting token",
      [("error", .string fault.message)]⟩

/-- The page that tells a client what is known of it. Without a guard nothing is known. -/
def whoami : Page := fun _ _ request =>
  match request.client with
  | some client => .json client.toJson
  | none => .plain 401 "Unauthorized"

structure Served where
  response : Response
  /-- The request as the page has seen it, if the page was run. -/
  seen : Option Request

namespace Route

/-- Serves a request that has passed the guard: reads the page, or only asks what it would be. -/
def serve (clock : Clock) (a : Authorizer) (request : Request) (route : Route) : Served :=
  if request.method = "GET" ∨ request.method = "HEAD" then
    ⟨route.page clock a request, some request⟩
  else ⟨.bare 405, none⟩

def conclude (clock : Clock) (a : Authorizer) (request : Request)
    (decision : Except Rejection ClientInfo) (route : Route) : Served :=
  match decision with
  | .ok client => route.serve clock a { request with client := some client }
  | .error rejection => ⟨.ofRejection rejection, none⟩

end Route

namespace Site

def record (request : Request) : TraceRecord :=
  (Check.freshRecord "http").setString Key.procedure request.path

inductive Arrival where
  /-- There is nothing under its path. -/
  | unknown
  /-- It is served without a check. -/
  | unguarded (route : Route)
  | checked (route : Route) (c : Check)

def route? (path : String) (s : Site) : Option Route :=
  Way.leadsTo? (s.routes.map fun route => (route.pattern, route)) path.toList

def arrive (request : Request) (s : Site) : Arrival :=
  match s.route? request.path with
  | none => .unknown
  | some route =>
    match route.required with
    | none => .unguarded route
    | some required => .checked route ⟨required, s.policy, record request⟩

def signals (ruling : Ruling) : List Signal :=
  .record ruling.record ::
    match ruling.decision with
    | .ok _ => []
    | .error rejection => [.log (rejectionEvent rejection)]

end Site

end ScopeGate.Http
