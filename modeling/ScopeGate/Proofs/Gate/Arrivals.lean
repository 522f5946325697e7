import ScopeGate.Gate.Schedule
import ScopeGate.Proofs.Introspection.Entries

/-!
# Calls that are to be checked

A call that is to be checked arrives with header fields, whoever the caller is. `Arrival.begin` says
what comes of it there and then: the check is settled, or the provider is to be asked. Once it has
ended the caller is either admitted, and its handler or page runs, or refused, and neither runs.

Which calls are to be checked is said by `Rpc.Arrives` and `Http.Arrives`.
-/

namespace ScopeGate

inductive Rpc.Arrives (i : Interceptor) (r : Request) : Interceptor.Arrival → Prop where
  | passed (hclient : r.isClient = true) : Arrives i r .passed
  | undeclared (hserver : r.isClient = false) (hnone : i.methods.find? r.procedure = none) :
      Arrives i r .undeclared
  | checked {required : RequiredScopes} (hserver : r.isClient = false)
      (hrequired : i.methods.find? r.procedure = some required) :
      Arrives i r (.checked ⟨required, i.policy, Interceptor.record r.procedure⟩)

theorem Rpc.arrives (i : Interceptor) (r : Request) : Arrives i r (i.arrive r) := by
  unfold Interceptor.arrive
  split
  · exact .passed ‹_›
  · rename_i hserver
    rw [Bool.not_eq_true] at hserver
    split
    · exact .undeclared hserver ‹_›
    · exact .checked hserver ‹_›

inductive Http.Arrives (s : Site) (r : Request) : Site.Arrival → Prop where
  | unknown (hnone : s.route? r.path = none) : Arrives s r .unknown
  | unguarded {route : Route} (hroute : s.route? r.path = some route)
      (hopen : route.required = none) : Arrives s r (.unguarded route)
  | checked {route : Route} {required : RequiredScopes} (hroute : s.route? r.path = some route)
      (hrequired : route.required = some required) :
      Arrives s r (.checked route ⟨required, s.policy, Site.record r⟩)

theorem Http.arrives (s : Site) (r : Request) : Arrives s r (s.arrive r) := by
  unfold Site.arrive
  split
  · exact .unknown ‹_›
  · split
    · exact .unguarded ‹_› ‹_›
    · exact .checked ‹_› ‹_›

namespace Gate

/-- A call that is to be checked. -/
structure Arrival where
  call : Option String
  canceled : Bool
  fields : List Http.Field
  caller : Caller
  check : Check

/-- A check that ends: on whose behalf it was made, what was asked, and what it rests on. -/
structure Ending where
  caller : Caller
  check : Check
  evidence : Except Rejection (Lookup Verdict)

def Ending.ruling (x : Ending) : Ruling := x.check.rule x.evidence

def Ending.decision (x : Ending) : Except Rejection ClientInfo := x.check.decide x.evidence

namespace CallUse

def accepted (request : Rpc.Request) : CallUse → Reply
  | intercept => .intercepted (.ok request)
  | run handler => .handled (handler request)

def runs (request : Rpc.Request) : CallUse → List Run
  | intercept => []
  | run handler => [.handler handler request]

/-- What the caller of a call gets that is refused. No handler is run. -/
def refused (status : Rpc.Status) : CallUse → Reply
  | intercept => .intercepted (.error status)
  | run _ => .handled (.error status)

theorem apply_ok (request : Rpc.Request) (use : CallUse) :
    use.apply (.ok request) = ⟨use.accepted request, use.runs request⟩ := by
  cases use <;> rfl

theorem apply_error (status : Rpc.Status) (use : CallUse) :
    use.apply (.error status) = ⟨use.refused status, []⟩ := by
  cases use <;> rfl

end CallUse

/-- What is sent of a page to who may see it. Only a request to read the page runs it. -/
def shown (clock : Clock) (z : Authorizer) (request : Http.Request) (route : Http.Route) :
    Http.Response :=
  if request.method = "GET" ∨ request.method = "HEAD" then route.page clock z request
  else .bare 405

def shows (request : Http.Request) (route : Http.Route) : List Run :=
  if request.method = "GET" ∨ request.method = "HEAD" then [.page route request] else []

theorem ofServed_serve (clock : Clock) (z : Authorizer) (request : Http.Request)
    (route : Http.Route) :
    Service.ofServed route (route.serve clock z request)
      = ⟨.responded (shown clock z request route), shows request route⟩ := by
  unfold Http.Route.serve shown shows
  split <;> rfl

namespace Caller

/-- What a caller gets once it is admitted: what its handler or page makes of the call, to which is
attached what is known of the client. -/
def admitted (clock : Clock) (z : Authorizer) (client : ClientInfo) : Caller → Reply
  | direct => .decided (.ok client)
  | rpc request use => use.accepted { request with client := some client }
  | http request route _ => .responded (shown clock z { request with client := some client } route)

/-- What runs for a caller that is admitted: its handler or its page, once, on the call to which is
attached what is known of the client. -/
def runs (client : ClientInfo) : Caller → List Run
  | direct => []
  | rpc request use => use.runs { request with client := some client }
  | http request route _ => shows { request with client := some client } route

def refused (rejection : Rejection) : Caller → Reply
  | direct => .decided (.error rejection)
  | rpc _ use => use.refused (.ofRejection rejection)
  | http _ _ _ => .responded (.ofRejection rejection)

theorem serve_of_ok (clock : Clock) (z : Authorizer) {ruling : Ruling} {client : ClientInfo}
    (h : ruling.decision = .ok client) (caller : Caller) :
    caller.serve clock z ruling = ⟨caller.admitted clock z client, caller.runs client⟩ := by
  cases caller with
  | direct => simp only [serve, h, admitted, runs]
  | rpc request use =>
    simp only [serve, h, Rpc.Interceptor.conclude, CallUse.apply_ok, admitted, runs]
  | http request route cancelable =>
    simp only [serve, h, Http.Route.conclude, ofServed_serve, admitted, runs]

theorem serve_of_error (clock : Clock) (z : Authorizer) {ruling : Ruling} {rejection : Rejection}
    (h : ruling.decision = .error rejection) (caller : Caller) :
    caller.serve clock z ruling = ⟨caller.refused rejection, []⟩ := by
  cases caller with
  | direct => simp only [serve, h, refused]
  | rpc request use =>
    simp only [serve, h, Rpc.Interceptor.conclude, CallUse.apply_error, refused]
  | http request route cancelable =>
    simp only [serve, h, Http.Route.conclude, refused]
    rfl

end Caller

inductive Beginning where
  | settled (evidence : Except Rejection (Lookup Verdict))
  /-- The provider is to be asked about a token. -/
  | asking (token : String)

/-- A call is looked at: its credential, whether its caller is still there, and the cache. -/
def Arrival.begin (clock : Clock) (i : Introspector) (a : Arrival) : Introspector × Beginning :=
  match Bearer.ofFields a.fields with
  | .error fault => (i, .settled (.error (.invalidCredential fault)))
  | .ok token =>
    if a.canceled then (i, .settled (.error (.introspection .canceled)))
    else
      match i.begin clock token with
      | (i, some v) => (i, .settled (.ok ⟨v, true⟩))
      | (i, none) => (i, .asking token)

theorem Arrival.start_eq (clock : Clock) (z : Authorizer) (a : Arrival) :
    z.start clock a.fields a.canceled a.check =
      match a.begin clock z.introspector with
      | (i, .settled evidence) => { z with introspector := i }.settleNow a.check evidence
      | (i, .asking token) => ({ z with introspector := i }, .waiting token) := by
  unfold Authorizer.start Arrival.begin
  cases Bearer.ofFields a.fields with
  | error fault => rfl
  | ok token =>
    cases a.canceled with
    | true => rfl
    | false =>
      cases hbegin : z.introspector.begin clock token with
      | mk i found => cases found <;> simp [hbegin]

theorem Arrival.ofFields_of_asking {clock : Clock} {i : Introspector} {a : Arrival} {token : String}
    (h : (a.begin clock i).2 = .asking token) : Bearer.ofFields a.fields = .ok token := by
  unfold Arrival.begin at h
  split at h
  · cases h
  · rename_i own hown
    split at h
    · cases h
    · split at h
      · cases h
      · cases h
        exact hown

theorem Arrival.canceled_of_asking {clock : Clock} {i : Introspector} {a : Arrival} {token : String}
    (h : (a.begin clock i).2 = .asking token) : a.canceled = false := by
  unfold Arrival.begin at h
  split at h
  · cases h
  · split at h
    · cases h
    · rename_i hstays
      simpa using hstays

/-- A check is settled as it begins for want of a token, for want of a caller, or by the cache. -/
theorem Arrival.settled_cases {clock : Clock} {i : Introspector} {a : Arrival}
    {evidence : Except Rejection (Lookup Verdict)} (h : (a.begin clock i).2 = .settled evidence) :
    (∃ fault, Bearer.ofFields a.fields = .error fault
        ∧ evidence = .error (.invalidCredential fault))
      ∨ ∃ token, Bearer.ofFields a.fields = .ok token
        ∧ ((a.canceled = true ∧ evidence = .error (.introspection .canceled))
          ∨ ∃ v, a.canceled = false ∧ (i.begin clock token).2 = some v
            ∧ evidence = .ok ⟨v, true⟩) := by
  unfold Arrival.begin at h
  split at h
  · rename_i fault hfault
    cases h
    exact .inl ⟨fault, hfault, rfl⟩
  · rename_i own hown
    right
    refine ⟨own, hown, ?_⟩
    split at h
    · rename_i hcanceled
      cases h
      exact .inl ⟨hcanceled, rfl⟩
    · rename_i hstays
      split at h
      · rename_i v hserved
        cases h
        exact .inr ⟨v, by simpa using hstays, by rw [hserved], rfl⟩
      · cases h

/-- A check that is settled by a verdict is settled by one from the cache, on a token of the call's
own. -/
theorem Arrival.of_settled_ok {clock : Clock} {i : Introspector} {a : Arrival}
    {l : Lookup Verdict} (h : (a.begin clock i).2 = .settled (.ok l)) :
    l.fromCache = true ∧ ∃ token, Bearer.ofFields a.fields = .ok token
      ∧ (i.begin clock token).2 = some l.value := by
  rcases Arrival.settled_cases h with ⟨_, _, he⟩ | ⟨token, htoken, ⟨_, he⟩ | ⟨v, _, hserved, he⟩⟩
  · cases he
  · cases he
  · cases he
    exact ⟨rfl, token, htoken, hserved⟩

theorem Arrival.introspector_begin {P : Introspector → Prop}
    (hbegin : ∀ i clock token, P i → P (i.begin clock token).1) {i : Introspector} (h : P i)
    (clock : Clock) (a : Arrival) : P (a.begin clock i).1 := by
  unfold Arrival.begin
  split
  · exact h
  · rename_i token _
    split
    · exact h
    · have hlooked := hbegin i clock token h
      split <;> simp_all

end Gate

end ScopeGate
