import ScopeGate.Gate.Rpc
import ScopeGate.Gate.Site
import ScopeGate.InFlight
import ScopeGate.Introspection.Provider

/-!
# The gate in its surroundings

One authorizer serves callers of three kinds: those who ask for a check directly, remote procedure
calls, and requests to a site. The world puts it together with the identity provider, the clock and
the calls that wait for the provider, and is driven by events. The provider answers when it is
asked; the answer arrives when the call is released. A caller that goes away gets no other answer
than that, unless it has no way to tell.

Whatever a step hands out is listed in order: the log events of the lookup, the trace record of the
check, and the log event of the transport. The world also keeps a list of the handlers and pages
that have run, each with the call as it has seen it.
-/

namespace ScopeGate.Gate

inductive CallUse where
  /-- Nothing but hand it back. -/
  | intercept
  /-- Run its handler. -/
  | run (handler : Rpc.Handler)

inductive Caller where
  | direct
  | rpc (request : Rpc.Request) (use : CallUse)
  /-- A request to a site, and whether it can be told that its caller went away. -/
  | http (request : Http.Request) (route : Http.Route) (cancelable : Bool)

structure Waiting where
  caller : Caller
  check : Check
  token : String
  answer : Answer

inductive Reply where
  | decided (decision : Except Rejection ClientInfo)
  /-- A call was checked; its handler has not run. -/
  | intercepted (result : Except Rpc.Status Rpc.Request)
  /-- A call was checked and, if it was admitted, handled. -/
  | handled (result : Except Rpc.Status Rpc.Reply)
  | responded (response : Http.Response)
  /-- The call waits for its answer. -/
  | pending (call : String)
  | noSuchCall
  | purged (dropped : Nat)
  | done

/-- A handler or a page that has run, and the call as it has seen it. -/
inductive Run where
  | handler (handler : Rpc.Handler) (seen : Rpc.Request)
  | page (route : Http.Route) (seen : Http.Request)

structure Service where
  reply : Reply
  ran : List Run

/-- What can happen. A check with a name waits under it for its answer. -/
inductive Event where
  | authorize (call : Option String) (canceled : Bool) (fields : List Http.Field)
      (required : RequiredScopes) (policy : CredentialPolicy)
  | rpc (call : Option String) (canceled : Bool) (request : Rpc.Request) (use : CallUse)
  | http (call : Option String) (canceled cancelable : Bool) (request : Http.Request)
  /-- The answer for a call that waits arrives. -/
  | release (call : String)
  /-- The caller of a call that waits goes away. -/
  | cancel (call : String)
  /-- The answer for a call that waits arrives, and its caller is gone. -/
  | cancelRelease (call : String)
  | purge
  | setAnswer (token : String) (answer : Answer)
  | advance (d : Duration)

structure World where
  clock : Clock
  provider : Provider
  authorizer : Authorizer
  interceptor : Rpc.Interceptor
  site : Http.Site
  waiting : InFlight Waiting
  /-- What has run so far, in order. -/
  ran : List Run

/-- The call as it is done with. A handler runs on a call that may go on, and on no other. -/
def CallUse.apply (result : Except Rpc.Status Rpc.Request) : CallUse → Service
  | .intercept => ⟨.intercepted result, []⟩
  | .run handler =>
    match result with
    | .ok request => ⟨.handled (handler request), [.handler handler request]⟩
    | .error status => ⟨.handled (.error status), []⟩

def Service.ofServed (route : Http.Route) (served : Http.Served) : Service :=
  ⟨.responded served.response, (served.seen.map (Run.page route)).toList⟩

namespace Caller

def isCancelable : Caller → Bool
  | http _ _ cancelable => cancelable
  | _ => true

def serve (clock : Clock) (a : Authorizer) (ruling : Ruling) : Caller → Service
  | direct => ⟨.decided ruling.decision, []⟩
  | rpc request use => use.apply (Rpc.Interceptor.conclude request ruling.decision)
  | http request route _ => .ofServed route (route.conclude clock a request ruling.decision)

def signals (ruling : Ruling) : Caller → List Signal
  | direct => [.record ruling.record]
  | rpc request _ => Rpc.Interceptor.signals request ruling
  | http _ _ _ => Http.Site.signals ruling

end Caller

namespace World

def new (clock : Clock) (provider : Provider) (introspector : Introspector)
    (interceptor : Rpc.Interceptor) (site : Http.Site) : World :=
  ⟨clock, provider, .new introspector, interceptor, site, {}, []⟩

def deliver (service : Service) (signals : List Signal) (s : World) :
    World × Reply × List Signal :=
  ({ s with ran := s.ran ++ service.ran }, service.reply, signals)

def finish (w : Waiting) (answer : Answer) (s : World) : World × Reply × List Signal :=
  let (authorizer, logs, ruling) := s.authorizer.finish s.clock w.token answer w.check
  { s with authorizer }.deliver (w.caller.serve s.clock authorizer ruling)
    (logs.map Signal.log ++ w.caller.signals ruling)

def start (call : Option String) (canceled : Bool) (fields : List Http.Field) (caller : Caller)
    (check : Check) (s : World) : World × Reply × List Signal :=
  match s.authorizer.start s.clock fields canceled check with
  | (authorizer, .ended ruling) =>
    { s with authorizer }.deliver (caller.serve s.clock authorizer ruling) (caller.signals ruling)
  | (authorizer, .waiting token) =>
    let (provider, answer) := s.provider.ask token
    let s := { s with authorizer, provider }
    let w : Waiting := ⟨caller, check, token, answer⟩
    match call with
    | none => s.finish w answer
    | some name => ({ s with waiting := s.waiting.hold name w }, .pending name, [])

def count (o : Outcome) (s : World) : World :=
  { s with authorizer := { s.authorizer with metrics := s.authorizer.metrics.recordOutcome o } }

def receiveCall (call : Option String) (canceled : Bool) (request : Rpc.Request) (use : CallUse)
    (s : World) : World × Reply × List Signal :=
  match s.interceptor.arrive request with
  | .passed => s.deliver (use.apply (.ok request)) []
  | .undeclared =>
    (s.count .internal).deliver
      (use.apply (.error ⟨.internal, Rpc.Interceptor.undeclaredMessage⟩))
      (Rpc.Interceptor.undeclaredSignals request.procedure)
  | .checked check => s.start call canceled request.fields (.rpc request use) check

def receiveRequest (call : Option String) (canceled cancelable : Bool) (request : Http.Request)
    (s : World) : World × Reply × List Signal :=
  match s.site.arrive request with
  | .unknown => (s, .responded (.bare 404), [])
  | .unguarded route => s.deliver (.ofServed route (route.serve s.clock s.authorizer request)) []
  | .checked route check =>
    s.start call (canceled && cancelable) request.fields (.http request route cancelable) check

/-- A call that waits goes on, with the answer that it waited for or told that its caller went away.
-/
def resume (name : String) (arrived canceled : Bool) (s : World) :
    World × Reply × List Signal :=
  match s.waiting.find? name with
  | none => (s, .noSuchCall, [])
  | some w =>
    let dropped := { s with waiting := s.waiting.drop name }
    if canceled && w.caller.isCancelable then dropped.finish w (.error .canceled)
    else if arrived then dropped.finish w w.answer
    else (s, .pending name, [])

def step (s : World) : Event → World × Reply × List Signal
  | .authorize call canceled fields required policy =>
    s.start call canceled fields .direct ⟨required, policy, Check.freshRecord "direct"⟩
  | .rpc call canceled request use => s.receiveCall call canceled request use
  | .http call canceled cancelable request => s.receiveRequest call canceled cancelable request
  | .release name => s.resume name true false
  | .cancel name => s.resume name false true
  | .cancelRelease name => s.resume name true true
  | .purge =>
    let (authorizer, dropped) := s.authorizer.purge s.clock.elapsed
    ({ s with authorizer }, .purged dropped, [])
  | .setAnswer token answer => ({ s with provider := s.provider.setAnswer token answer }, .done, [])
  | .advance d => ({ s with clock := s.clock.advance d }, .done, [])

def run (s : World) (events : List Event) : World := events.foldl (fun s e => (s.step e).1) s

@[simp] theorem run_nil (s : World) : s.run [] = s := rfl

@[simp] theorem run_cons (s : World) (e : Event) (es : List Event) :
    s.run (e :: es) = (s.step e).1.run es := rfl

end World

end ScopeGate.Gate
