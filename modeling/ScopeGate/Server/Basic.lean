import ScopeGate.Config
import ScopeGate.Gate.Site
import ScopeGate.Introspection.Endpoint

/-!
# The server

The server tells a client what is known of it, at a price: its token has to be granted the alias
`profile` and to act for no user. Two more pages are open to everybody, one that says that the
server is well and one with the counters of the gate and of its token cache, as monitoring systems
collect them.

Serving a request may take an introspection, so it has two halves like a check: `receive` gives the
response or the token that the provider is to be asked about, `complete` takes the answer.
-/

namespace ScopeGate

def version : String := "0.1.0"

namespace Server

def decimal (n : Nat) : String := String.ofList (Text.digits n)

def health : Http.Page := fun clock _ _ =>
  .json <|
    .record
      [("status", .text "healthy"), ("uptime_seconds", .nat clock.elapsed.wholeSeconds),
        ("version", .text version)]

/-- A reading among the counters: a name, perhaps a label with its value, and a number. -/
structure Reading where
  label : Option (String × String)
  value : Nat

structure Family where
  name : String
  description : String
  kind : String
  readings : List Reading

def Reading.line (name : String) (r : Reading) : String :=
  let label :=
    match r.label with
    | none => ""
    | some (key, value) => "\x7b" ++ key ++ "=\"" ++ value ++ "\"\x7d"
  name ++ label ++ " " ++ decimal r.value ++ "\n"

def Family.text (f : Family) : String :=
  "# HELP " ++ f.name ++ " " ++ f.description ++ "\n"
    ++ "# TYPE " ++ f.name ++ " " ++ f.kind ++ "\n"
    ++ String.join (f.readings.map fun r => r.line f.name)

/-- The readings of the server. Without a token cache its readings are zero. -/
def families (clock : Clock) (a : Authorizer) : List Family :=
  let m := a.metrics
  let cache := a.cacheStats.getD default
  let outcome := fun (o : Outcome) (n : Nat) => Reading.mk (some ("outcome", o.word)) n
  [{ name := "authz_requests_total"
     description := "Requests checked, by outcome"
     kind := "counter"
     readings :=
      [outcome .admitted m.admitted, outcome .unauthenticated m.unauthenticated,
        outcome .forbidden m.forbidden, outcome .canceled m.canceled,
        outcome .internal m.internalErrors] },
    { name := "authz_token_cache_entries"
      description := "Cached introspection results"
      kind := "gauge"
      readings := [⟨none, cache.entries⟩] },
    { name := "authz_token_cache_lookups_total"
      description := "Token cache lookups, by result"
      kind := "counter"
      readings :=
        [⟨some ("result", "hit"), cache.counters.hits⟩,
          ⟨some ("result", "miss"), cache.counters.misses⟩] },
    { name := "authz_uptime_seconds"
      description := "Server uptime in seconds"
      kind := "gauge"
      readings := [⟨none, clock.elapsed.wholeSeconds⟩] }]

def metrics : Http.Page := fun clock a _ =>
  { status := 200
    contentType := some "text/plain; version=0.0.4"
    body := .ofString ("\n".intercalate ((families clock a).map Family.text)) }

def profileScopes : RequiredScopes where
  scopes := [.profile]
  scopes_ne_nil := by simp
  validate_eq_ok := by
    intro s hs
    rw [List.mem_singleton.mp hs]
    exact Scope.validate_of_isAlias (by cbv)

def site : Http.Site where
  routes :=
    [⟨.ofString "/health", none, health⟩, ⟨.ofString "/metrics", none, metrics⟩,
      ⟨.ofString "/v1/whoami", some profileScopes, Http.whoami⟩]

end Server

structure Server where
  authorizer : Authorizer
  endpoint : Introspection.Endpoint

namespace Server

def new (c : Config) : Server :=
  ⟨.new (.new c.tokenCache), .below c.idpUrl c.clientId c.clientSecret⟩

inductive Progress where
  | responded (response : Http.Response)
  /-- The provider is to be asked about a token. -/
  | waiting (route : Http.Route) (check : Check) (token : String)

def receive (clock : Clock) (request : Http.Request) (s : Server) :
    Server × Progress × List Signal :=
  match site.arrive request with
  | .unknown => (s, .responded (.bare 404), [])
  | .unguarded route => (s, .responded (route.serve clock s.authorizer request).response, [])
  | .checked route check =>
    match s.authorizer.start clock request.fields false check with
    | (authorizer, .waiting token) => ({ s with authorizer }, .waiting route check token, [])
    | (authorizer, .ended ruling) =>
      ({ s with authorizer },
        .responded (route.conclude clock authorizer request ruling.decision).response,
        Http.Site.signals ruling)

def complete (clock : Clock) (request : Http.Request) (route : Http.Route) (check : Check)
    (token : String) (answer : Answer) (s : Server) : Server × Http.Response × List Signal :=
  let (authorizer, logs, ruling) := s.authorizer.finish clock token answer check
  ({ s with authorizer }, (route.conclude clock authorizer request ruling.decision).response,
    logs.map .log ++ Http.Site.signals ruling)

/-- How often the server drops the verdicts that were kept too long: once in their time to live, if
it keeps any. -/
def sweepPeriod? (c : Config) : Option Duration :=
  if c.tokenCache.isEnabled then some c.tokenCache.ttl else none

def sweep (clock : Clock) (s : Server) : Server :=
  { s with authorizer := (s.authorizer.purge clock.elapsed).1 }

/-- What is said of a configuration that is refused. Further lines of the cause are indented like
the first. -/
def refusal (fault : ConfigFault) : String :=
  let indented := fault.message.toList.flatMap fun c => if c = '\n' then "\n    ".toList else [c]
  "Error: loading configuration\n\nCaused by:\n    " ++ String.ofList indented ++ "\n"

end Server

end ScopeGate
