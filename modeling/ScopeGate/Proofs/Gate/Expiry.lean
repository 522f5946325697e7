import ScopeGate.Proofs.Gate.Admission

/-!
# Expired tokens

A verdict from the cache is never one on a token that has expired. A verdict that comes straight
from the provider is not asked when its token expires: the check only looks whether it is active. So
a call can be admitted on an expired token, but only where the provider has just called the token
active, or had done so before the token expired on the way. Such a verdict is never refused as an
authentication failure either; only an inactive one is.
-/

namespace ScopeGate.Gate

/-- A decision on a verdict counts as a failed authentication if the verdict is not active, and
otherwise as something else. -/
theorem outcome_rule_eq_unauthenticated_iff (c : Check) (l : Lookup Verdict) :
    (c.rule (.ok l)).outcome = .unauthenticated ↔ l.value.active = false := by
  have hdecision : (c.rule (.ok l)).decision = l.value.judge c.required c.policy := rfl
  rw [Ruling.outcome, hdecision, Verdict.judge]
  cases hactive : l.value.active with
  | false => simp [Rejection.outcome]
  | true =>
    cases hallows : c.policy.allows l.value with
    | false => simp [Rejection.outcome]
    | true => cases l.value.grants.firstUnmet c.required.scopes <;> simp [Rejection.outcome]

theorem Gives.evidence {ms : List (Moment World Event)} {i j : Nat} {token : String} {v : Verdict}
    (h : Gives ms i j token v) {n : Moment World Event} {x : Ending} (hn : ms[j]? = some n)
    (hx : n.state.ending? n.event = some x) : x.evidence = .ok ⟨v, false⟩ := by
  obtain ⟨a, x', hchecks, _, hv⟩ := h.checks
  obtain ⟨n', hn', hx'⟩ := hchecks.ends
  rw [hn] at hn'
  obtain rfl := Option.some.inj hn'
  rw [hx] at hx'
  rw [Option.some.inj hx', hv]

section

variable {clock : Clock} {provider : Provider} {key : String → Octets} {config : CacheConfig}
  {interceptor : Rpc.Interceptor} {site : Http.Site} {es : List Event}

/-- A verdict from the cache is on a token that has not expired when the check ends. -/
theorem not_expired_of_cached {j : Nat} {n : Moment World Event} {x : Ending} {v : Verdict}
    (hn : (history clock provider key config interceptor site es)[j]? = some n)
    (hx : n.state.ending? n.event = some x) (hv : x.evidence = .ok ⟨v, true⟩) :
    ¬ v.expiresAt ≤ n.state.clock.now := by
  obtain ⟨a, token, -, -, hserved⟩ := exists_checks_of_cached hn hx hv
  have hexpired := (Introspector.exists_mem_of_begin_eq_some hserved).1
  simpa [Verdict.isExpiredAt] using hexpired

/-- A call is admitted on an expired token exactly if the provider itself has given the check a
verdict that is enough, and whose token has expired when the check ends. No verdict from the cache
is of that kind. Whatever a check rests on, it ends as a failed authentication only if the verdict
is not active. -/
theorem expired_admitted_iff {j : Nat} {n : Moment World Event} {x : Ending}
    (hn : (history clock provider key config interceptor site es)[j]? = some n)
    (hx : n.state.ending? n.event = some x) :
    ((∃ client, x.decision = .ok client ∧ client.tokenExpiresAt ≤ n.state.clock.now) ↔
        ∃ i token v, Gives (history clock provider key config interceptor site es) i j token v
          ∧ v.expiresAt ≤ n.state.clock.now ∧ Suffices x.check v)
      ∧ (∀ v, x.evidence = .ok ⟨v, true⟩ → ¬ v.expiresAt ≤ n.state.clock.now)
      ∧ ∀ l, x.evidence = .ok l →
        (x.ruling.outcome = .unauthenticated ↔ l.value.active = false) := by
  refine ⟨?_, fun v hv => not_expired_of_cached hn hx hv, ?_⟩
  · constructor
    · rintro ⟨client, hadmitted, hexpired⟩
      cases hl : x.evidence with
      | error rejection =>
        rw [Ending.decision, hl] at hadmitted
        cases hadmitted
      | ok l =>
        rw [Ending.decision, hl] at hadmitted
        obtain ⟨rfl, hsuffices⟩ := (decide_eq_ok_iff _ _ _).mp hadmitted
        obtain ⟨v, fromCache⟩ := l
        cases fromCache with
        | false =>
          obtain ⟨i, a, token, _, _, hgives⟩ :=
            exists_gives_of_fresh hn (sound_history hn).tracks hx hl
          exact ⟨i, token, v, hgives, hexpired, hsuffices⟩
        | true => exact absurd hexpired (not_expired_of_cached hn hx hl)
    · rintro ⟨i, token, v, hgives, hexpired, hsuffices⟩
      refine ⟨v.clientInfo, ?_, hexpired⟩
      rw [Ending.decision, hgives.evidence hn hx]
      exact (decide_eq_ok_iff _ _ _).mpr ⟨rfl, hsuffices⟩
  · intro l hl
    rw [Ending.ruling, hl]
    exact outcome_rule_eq_unauthenticated_iff x.check l

end

/-- The procedure is called, and the answer to the call arrives when the token has expired. -/
def lateAnswer : List (Moment World Event) :=
  history (.startingAt 0) (.ofAnswers [("t", .ok grantedProfile)]) .ofString (.token 1)
    ⟨profileMethods, .machineOnly⟩ ⟨[], .machineOnly⟩
    [profileCall (some "a"), .advance (.ofSeconds 150), .release "a"]

/-- The call is admitted all the same, on the verdict that the provider has given it. -/
theorem late_answer_admitted :
    ∃ n x client, lateAnswer[2]? = some n ∧ n.state.ending? n.event = some x
      ∧ x.decision = .ok client ∧ client.tokenExpiresAt ≤ n.state.clock.now
      ∧ ∃ i token v, Gives lateAnswer i 2 token v ∧ v.expiresAt ≤ n.state.clock.now
        ∧ Suffices x.check v := by
  obtain ⟨n, hn, x, hx, hadmitted, hexpired⟩ : ∃ n, lateAnswer[2]? = some n
      ∧ ∃ x, n.state.ending? n.event = some x ∧ x.decision = .ok grantedProfile.clientInfo
        ∧ grantedProfile.expiresAt ≤ n.state.clock.now :=
    ⟨_, rfl, _, rfl, rfl, by decide +kernel⟩
  exact ⟨n, x, _, hn, hx, hadmitted, hexpired,
    (expired_admitted_iff hn hx).1.mp ⟨_, hadmitted, hexpired⟩⟩

end ScopeGate.Gate
