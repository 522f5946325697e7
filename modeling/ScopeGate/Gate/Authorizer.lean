import ScopeGate.Gate.Rejection
import ScopeGate.Gate.Requirement
import ScopeGate.Introspection.Introspector

/-!
# The authorizer

A check takes a request's credential and asks whether it suffices for an endpoint. Its token is
extracted and looked up; then the verdict has to be active, of a kind that the policy allows, and
its grants have to meet every required scope. The check ends in a ruling: the decision and the trace
record that tells how it came about. Every ruling is counted once.

Like a lookup, a check has two halves. `start` ends it if there is no token, if the caller has gone
away already or if the cache serves a verdict, and otherwise names the token that the provider is to
be asked about; `finish` takes the answer. A caller that goes away meanwhile is an answer, too: the
fault that says so.
-/

namespace ScopeGate

/-- What is asked of a credential, and the trace record so far. -/
structure Check where
  required : RequiredScopes
  policy : CredentialPolicy
  record : TraceRecord
  deriving DecidableEq

structure Ruling where
  decision : Except Rejection ClientInfo
  record : TraceRecord

inductive Progress where
  | ended (ruling : Ruling)
  /-- The provider is to be asked about a token. -/
  | waiting (token : String)

structure Authorizer where
  introspector : Introspector
  metrics : Metrics := {}

def requireScopesSpan : String := "authz.require_scopes"

def Check.freshRecord (transport : String) : TraceRecord :=
  (TraceRecord.new requireScopesSpan).setString Key.transport transport

def Verdict.judge (required : RequiredScopes) (policy : CredentialPolicy) (v : Verdict) :
    Except Rejection ClientInfo :=
  if !v.active then .error (.inactiveToken v.clientId)
  else if !policy.allows v then .error (.userToken v.clientId (v.userId.getD ""))
  else
    match v.grants.firstUnmet required.scopes with
    | some missing =>
      .error (.insufficientScope v.clientId v.grants.texts required.texts missing.text)
    | none => .ok v.clientInfo

def TraceRecord.setVerdict (l : Lookup Verdict) (r : TraceRecord) : TraceRecord :=
  (((r.setBool Key.tokenFromCache l.fromCache).setString Key.clientId l.value.clientId).setString
    Key.tokenExpiresAt l.value.expiryText).setStrings Key.tokenScopes l.value.grants.texts

def TraceRecord.setDecision (decision : Except Rejection ClientInfo) (r : TraceRecord) :
    TraceRecord :=
  match decision with
  | .ok _ => r.markOk
  | .error rejection => r.markError rejection.message rejection.safeMessage

namespace Check

def declared (c : Check) : TraceRecord := c.record.setStrings Key.requiredScopes c.required.texts

/-- The decision that a credential leads to: a rejection without a verdict, or what the verdict
says. -/
def decide (c : Check) (evidence : Except Rejection (Lookup Verdict)) :
    Except Rejection ClientInfo :=
  match evidence with
  | .error rejection => .error rejection
  | .ok l => l.value.judge c.required c.policy

def rule (c : Check) (evidence : Except Rejection (Lookup Verdict)) : Ruling :=
  let record :=
    match evidence with
    | .error _ => c.declared
    | .ok l => c.declared.setVerdict l
  let decision := c.decide evidence
  ⟨decision, record.setDecision decision⟩

end Check

def Ruling.outcome (r : Ruling) : Outcome :=
  match r.decision with
  | .ok _ => .admitted
  | .error rejection => rejection.outcome

def Metrics.recordRuling (evidence : Except Rejection (Lookup Verdict)) (r : Ruling)
    (m : Metrics) : Metrics :=
  let m :=
    match evidence with
    | .error _ => m
    | .ok l => m.recordLookup l.fromCache
  m.recordOutcome r.outcome

namespace Authorizer

def new (introspector : Introspector) : Authorizer := { introspector }

def cacheStats (a : Authorizer) : Option Cache.Stats := a.introspector.stats

def purge (now : Duration) (a : Authorizer) : Authorizer × Nat :=
  let (introspector, dropped) := a.introspector.purge now
  ({ a with introspector }, dropped)

def settle (c : Check) (evidence : Except Rejection (Lookup Verdict)) (a : Authorizer) :
    Authorizer × Ruling :=
  let ruling := c.rule evidence
  ({ a with metrics := a.metrics.recordRuling evidence ruling }, ruling)

def settleNow (c : Check) (evidence : Except Rejection (Lookup Verdict)) (a : Authorizer) :
    Authorizer × Progress :=
  let (a, ruling) := a.settle c evidence
  (a, .ended ruling)

def start (clock : Clock) (fields : List Http.Field) (canceled : Bool) (c : Check)
    (a : Authorizer) : Authorizer × Progress :=
  match Bearer.ofFields fields with
  | .error fault => a.settleNow c (.error (.invalidCredential fault))
  | .ok token =>
    if canceled then a.settleNow c (.error (.introspection .canceled))
    else
      match a.introspector.begin clock token with
      | (introspector, some v) => { a with introspector }.settleNow c (.ok ⟨v, true⟩)
      | (introspector, none) => ({ a with introspector }, .waiting token)

def finish (clock : Clock) (token : String) (answer : Answer) (c : Check) (a : Authorizer) :
    Authorizer × List LogEvent × Ruling :=
  let (introspector, logs, result) := a.introspector.complete clock token answer
  let evidence :=
    match result with
    | .ok l => .ok l
    | .error fault => .error (.introspection fault)
  let (a, ruling) := { a with introspector }.settle c evidence
  (a, logs, ruling)

end Authorizer

/-- A decision to admit hands the handler what the verdict says of the client. -/
theorem Verdict.eq_of_judge_eq_ok {required : RequiredScopes} {policy : CredentialPolicy}
    {v : Verdict} {c : ClientInfo} (h : v.judge required policy = .ok c) :
    c = v.clientInfo ∧ v.active = true ∧ policy.allows v = true
      ∧ ∀ s ∈ required.scopes, v.grants.meet s = true := by
  unfold Verdict.judge at h
  split at h
  · cases h
  · split at h
    · cases h
    · split at h
      · cases h
      · cases h
        have hall := (Grants.meetAll_iff v.grants required.scopes).mp
          (by simp [Grants.meetAll, *])
        simp_all

end ScopeGate
