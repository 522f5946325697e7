import ScopeGate.Proofs.Gate.Guards
import ScopeGate.Proofs.Gate.Provenance
import ScopeGate.Server.Basic

/-!
# Admitted calls

A check admits a call on account of one verdict, which the provider itself has given on the token
that the call carries. Either the call has asked for it, or an earlier call with the same token has,
no longer ago than the cache may keep it. The verdict is active, of a kind that the endpoint takes,
and meets every scope that the endpoint declares, of which there is one at least.
-/

namespace ScopeGate.Gate

/-- A verdict is enough for what is asked. -/
structure Suffices (c : Check) (v : Verdict) : Prop where
  active : v.active = true
  declares : c.required.scopes ≠ []
  meets : ∀ s ∈ c.required.scopes, v.grants.meet s = true
  machine : c.policy = .machineOnly → v.userId = none ∨ v.userId = some ""

theorem allows_iff (v : Verdict) (policy : CredentialPolicy) :
    policy.allows v = true ↔
      (policy = .machineOnly → v.userId = none ∨ v.userId = some "") := by
  cases policy with
  | anyCredential => simp [CredentialPolicy.allows]
  | machineOnly =>
    cases hu : v.userId with
    | none => simp [CredentialPolicy.allows, Verdict.isUserToken, hu]
    | some id => simp [CredentialPolicy.allows, Verdict.isUserToken, hu]

theorem decide_eq_ok_iff (c : Check) (l : Lookup Verdict) (client : ClientInfo) :
    c.decide (.ok l) = .ok client ↔ client = l.value.clientInfo ∧ Suffices c l.value := by
  constructor
  · intro h
    obtain ⟨hclient, hactive, hallows, hmeets⟩ := Verdict.eq_of_judge_eq_ok h
    exact ⟨hclient, hactive, c.required.scopes_ne_nil, hmeets, (allows_iff _ _).mp hallows⟩
  · rintro ⟨rfl, hactive, _, hmeets, hmachine⟩
    have hallows := (allows_iff l.value c.policy).mpr hmachine
    have hall := (Grants.meetAll_iff l.value.grants c.required.scopes).mpr hmeets
    have hnone : l.value.grants.firstUnmet c.required.scopes = none := by
      simpa [Grants.meetAll] using hall
    simp [Check.decide, Verdict.judge, hactive, hallows, hnone]

/-- What is asked of a call is what its endpoint declares, and the header fields are the call's own.
A direct caller says itself what it asks. -/
def Arrival.IsDeclared (interceptor : Rpc.Interceptor) (site : Http.Site) (a : Arrival) : Prop :=
  match a.caller with
  | .direct => True
  | .rpc request _ =>
    request.isClient = false ∧ a.fields = request.fields
      ∧ interceptor.methods.find? request.procedure = some a.check.required
      ∧ a.check.policy = interceptor.policy
  | .http request route _ =>
    a.fields = request.fields ∧ site.route? request.path = some route
      ∧ route.required = some a.check.required ∧ a.check.policy = site.policy

theorem World.isDeclared_of_arrival {w : World} {e : Event} {a : Arrival}
    (h : w.arrival? e = some a) : a.IsDeclared w.interceptor w.site := by
  cases arrives_of_arrival h with
  | direct => trivial
  | rpc hserver hrequired => exact ⟨hserver, rfl, hrequired, rfl⟩
  | http hroute hrequired => exact ⟨rfl, hroute, hrequired, rfl⟩

section

variable {clock : Clock} {provider : Provider} {key : String → Octets} {config : CacheConfig}
  {interceptor : Rpc.Interceptor} {site : Http.Site} {es : List Event}

end

def grantedProfile : Verdict := ⟨true, .ofTexts ["profile"], "c", none, ⟨100, 0⟩⟩

/-- Procedures of which one requires what the guarded page of the server does. -/
def profileMethods : Rpc.Methods := .declare "p" Server.profileScopes .empty

/-- A call of the procedure, whose handler gives back what it sees of the client. -/
def profileCall (call : Option String) : Event :=
  .rpc call false ⟨"p", false, [⟨"authorization", .ofString "Bearer t"⟩], none, "m"⟩
    (.run fun r => .ok ⟨r.client, r.message⟩)

def twoCalls : List (Moment World Event) :=
  history (.startingAt 0) (.ofAnswers [("t", .ok grantedProfile)]) .ofString (.token 1)
    ⟨profileMethods, .machineOnly⟩ ⟨[], .machineOnly⟩ [profileCall none, profileCall none]

end ScopeGate.Gate
