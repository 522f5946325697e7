import ScopeGate.Proofs.Gate.Admission
import ScopeGate.Proofs.Gate.Pace

/-!
# What the token cache changes

Over a provider whose answers do not change, the token cache decides nothing: a check whose caller
stays ends as it would at a gate without a cache, whatever has happened before. A gate without a
cache can keep pace, and then the two differ only in what concerns the cache itself. The gate with
the cache asks the provider no more often (`AsksNoLess`), neither than a gate that keeps pace nor
than one that is asked the same.
-/

namespace ScopeGate

namespace Gate

namespace World

theorem uncached_step {u : World} (h : u.authorizer.introspector.cache = none) (e : Event) :
    (u.step e).1.authorizer.introspector.cache = none :=
  introspector_invariant (P := fun i => i.cache = none)
    (fun _ clock token h => by rw [Introspector.begin_of_uncached h]; exact h)
    (fun _ clock token answer h => by
      rw [(Introspector.complete_of_uncached h clock token answer).1]
      exact h)
    (fun _ now h => by rw [Introspector.purge, h]; exact h) h e

/-- Without a cache the provider is asked whenever a call has a token and a caller. -/
theorem isSome_asked?_of_uncached {u : World} {e : Event} {a : Arrival} {token : String}
    (h : u.authorizer.introspector.cache = none) (ha : u.arrival? e = some a)
    (htoken : Bearer.ofFields a.fields = .ok token) (hstays : a.canceled = false) :
    (u.asked? e).isSome = true := by
  have hb : (a.begin u.clock u.authorizer.introspector).2 = .asking token := by
    simp [Arrival.begin, htoken, hstays, Introspector.begin_of_uncached h]
  rw [asked?_of_asking ha hb]
  rfl

theorem reply_of_uncached {u : World} (h : u.authorizer.introspector.cache = none)
    (fields : List Http.Field) (required : RequiredScopes) (policy : CredentialPolicy) :
    u.reply (.authorize none false fields required policy)
      = .decided (decideAfresh u.provider.answers fields required policy) := by
  have ha : u.arrival? (.authorize none false fields required policy) =
      some ⟨none, false, fields, .direct, ⟨required, policy, Check.freshRecord "direct"⟩⟩ := rfl
  rw [reply, step_of_arrival ha, start_eq]
  cases htoken : Bearer.ofFields fields with
  | error fault =>
    simp only [Arrival.begin, decideAfresh, htoken]
    rfl
  | ok token =>
    simp only [Arrival.begin, decideAfresh, htoken, Introspector.begin_of_uncached h, finish_eq,
      Bool.false_eq_true, if_false]
    cases u.provider.answers token <;> rfl

end World

/-- The gate `u` has no cache and the same endpoints as the gate `w`, which has asked the provider
no more often. -/
structure AsksNoLess (w u : World) : Prop where
  interceptor : u.interceptor = w.interceptor
  site : u.site = w.site
  uncached : u.authorizer.introspector.cache = none
  calls : w.provider.calls ≤ u.provider.calls

theorem AsksNoLess.step {w u : World} (h : AsksNoLess w u) {e e' : Event}
    (he : e.setsAnswer = false) (he' : e' = e ∨ e' = e.atOnce) :
    AsksNoLess (w.step e).1 (u.step e').1 := by
  obtain ⟨hwi, hws⟩ := w.endpoints_step e
  obtain ⟨hui, hus⟩ := u.endpoints_step e'
  refine ⟨by rw [hui, hwi, h.interceptor], by rw [hus, hws, h.site], ?_, ?_⟩
  · exact World.uncached_step h.uncached e'
  · have hset : e'.setsAnswer = false := by
      rcases he' with rfl | rfl
      · exact he
      · cases e <;> first | rfl | exact he
    have hasked : (w.asked? e).isSome = true → (u.asked? e').isSome = true := by
      intro hsome
      obtain ⟨⟨call, l⟩, hasked⟩ := Option.isSome_iff_exists.mp hsome
      obtain ⟨a, ha, hb, -⟩ := World.exists_arrival_of_asked hasked
      have hua : u.arrival? e = some a := by
        rw [← ha]
        cases e <;> simp only [World.arrival?, h.interceptor, h.site]
      have htoken := Arrival.ofFields_of_asking hb
      have hstays := Arrival.canceled_of_asking hb
      rcases he' with rfl | rfl
      · exact World.isSome_asked?_of_uncached h.uncached hua htoken hstays
      · have huo : u.arrival? e.atOnce = some { a with call := none } := by
          rw [World.arrival?_atOnce, hua]
          rfl
        exact World.isSome_asked?_of_uncached h.uncached huo htoken hstays
    rw [World.calls_step he, World.calls_step hset]
    have hcalls := h.calls
    cases hw : (w.asked? e).isSome with
    | false =>
      simp only [Bool.false_eq_true, if_false]
      omega
    | true =>
      simp only [hasked hw, if_true]
      omega

theorem paced_eq (w : World) (e : Event) : w.paced e = e ∨ w.paced e = e.atOnce := by
  unfold World.paced
  split
  · exact .inr rfl
  · exact .inl rfl

section

variable {clock : Clock} {provider : Provider} {key : String → Octets} {config : CacheConfig}
  {interceptor : Rpc.Interceptor} {site : Http.Site} {es : List Event}

/-- A run of another gate with the same surroundings keeps step with a run. -/
theorem exists_moment_beside (other : CacheConfig) {R : World → World → Prop}
    {f : Moment World Event → Event}
    (start : R (World.new clock provider (.keyed key config) interceptor site)
      (World.new clock provider (.keyed key other) interceptor site))
    (next : ∀ m ∈ history clock provider key config interceptor site es, ∀ u, R m.state u →
      R (m.state.step m.event).1 (u.step (f m)).1)
    {j : Nat} {n : Moment World Event}
    (hn : (history clock provider key config interceptor site es)[j]? = some n) :
    ∃ u, (history clock provider key other interceptor site
        ((history clock provider key config interceptor site es).map f))[j]? = some ⟨u, f n⟩
      ∧ R n.state u :=
  exists_moment_of_lockstep start next hn

/-- Keys are to tell the tokens of a run apart. Over a provider whose answers do not change, a check
whose caller stays ends with the decision that a gate without a cache takes on the same call, which
depends on nothing but the answer about its token. A gate without a cache that keeps pace differs at
each moment in what concerns the cache alone: whether verdicts are from it, its counters, what is
told of it, and the log event of a verdict that it does not keep. Asked the same, it has asked the
provider at least as often. -/
theorem token_cache_transparent (hkey : TellsApart key es)
    (hfixed : ∀ e ∈ es, e.setsAnswer = false) {j : Nat} {n : Moment World Event}
    (hn : (history clock provider key config interceptor site es)[j]? = some n) :
    (∀ x, n.state.ending? n.event = some x → n.state.isGone n.event = false →
        ∃ i a, Checks (history clock provider key config interceptor site es) i j a x
          ∧ x.decision = decideAfresh provider.answers a.fields a.check.required a.check.policy
          ∧ ∀ u : World, u.authorizer.introspector.cache = none →
            u.provider.answers = provider.answers →
            u.reply (.authorize none false a.fields a.check.required a.check.policy)
              = .decided x.decision)
      ∧ (∃ u, (history clock provider key .disabled interceptor site
              ((history clock provider key config interceptor site es).map fun m =>
                m.state.paced m.event))[j]? = some ⟨u, n.state.paced n.event⟩
          ∧ Alike (n.state.step n.event) (u.step (n.state.paced n.event))
          ∧ (n.state.step n.event).1.provider.calls
            ≤ (u.step (n.state.paced n.event)).1.provider.calls)
      ∧ ∃ u, (history clock provider key .disabled interceptor site es)[j]? = some ⟨u, n.event⟩
          ∧ (n.state.step n.event).1.provider.calls ≤ (u.step n.event).1.provider.calls := by
  have hset : ∀ m ∈ history clock provider key config interceptor site es,
      m.event.setsAnswer = false := by
    intro m hm
    obtain ⟨i, hi⟩ := List.mem_iff_getElem?.mp hm
    exact hfixed _ (answers_history hfixed hi).2
  have hlast := hset n (List.mem_of_getElem? hn)
  have htrue : ∀ m ∈ history clock provider key config interceptor site es,
      m.state.ServesTruth m.event := by
    intro m hm
    obtain ⟨i, hi⟩ := List.mem_iff_getElem?.mp hm
    exact servesTruth_history hkey hfixed hi
  have hstart : AsksNoLess (World.new clock provider (.keyed key config) interceptor site)
      (World.new clock provider (.keyed key .disabled) interceptor site) :=
    ⟨rfl, rfl, rfl, Nat.le_refl _⟩
  refine ⟨?_, ?_, ?_⟩
  · intro x hx hstays
    obtain ⟨i, a, hchecks, hdecision⟩ := decision_eq_decideAfresh hkey hfixed hn hx hstays
    refine ⟨i, a, hchecks, hdecision, ?_⟩
    intro u huncached hanswers
    rw [World.reply_of_uncached huncached, hanswers, hdecision]
  · have hpace : KeepsPace (World.new clock provider (.keyed key config) interceptor site)
        (World.new clock provider (.keyed key .disabled) interceptor site) :=
      ⟨rfl, rfl, rfl, rfl, rfl, rfl, ⟨rfl, fun _ => rfl, rfl⟩, rfl⟩
    obtain ⟨u, hu, hpace, hcalls⟩ := exists_moment_beside .disabled
      (R := fun w u => KeepsPace w u ∧ AsksNoLess w u) (f := fun m => m.state.paced m.event)
      ⟨hpace, hstart⟩
      (fun m hm t h => ⟨(h.1.step (htrue m hm) (hset m hm)).pace,
        h.2.step (hset m hm) (paced_eq _ _)⟩) hn
    refine ⟨u, hu, hpace.step (htrue n (List.mem_of_getElem? hn)) hlast, ?_⟩
    exact (hcalls.step hlast (paced_eq _ _)).calls
  · obtain ⟨u, hu, hcalls⟩ := exists_moment_beside .disabled (f := fun m => m.event) hstart
      (fun m hm t h => h.step (hset m hm) (.inl rfl)) hn
    have hevents : (history clock provider key config interceptor site es).map (fun m => m.event)
        = es := map_event_moments _ _ _
    rw [hevents] at hu
    exact ⟨u, hu, (hcalls.step hlast (.inl rfl)).calls⟩

end

/-- The second of two calls, which the cache serves, ends as it does at a gate that asks again. -/
theorem second_call_as_without_cache :
    ∃ n x, ∃ u : World, twoCalls[1]? = some n ∧ n.state.ending? n.event = some x
      ∧ x.evidence = .ok ⟨grantedProfile, true⟩ ∧ x.decision = .ok grantedProfile.clientInfo
      ∧ (∃ i a, Checks twoCalls i 1 a x
        ∧ x.decision = decideAfresh (Provider.ofAnswers [("t", .ok grantedProfile)]).answers
          a.fields a.check.required a.check.policy)
      ∧ Alike (n.state.step n.event) (u.step (n.state.paced n.event))
      ∧ (n.state.step n.event).1.provider.calls = 1
      ∧ (u.step (n.state.paced n.event)).1.provider.calls = 2 := by
  obtain ⟨n, hn, hcalls, x, hx, hcached, hdecision, hstays⟩ : ∃ n, twoCalls[1]? = some n
      ∧ (n.state.step n.event).1.provider.calls = 1
      ∧ ∃ x, n.state.ending? n.event = some x ∧ x.evidence = .ok ⟨grantedProfile, true⟩
        ∧ x.decision = .ok grantedProfile.clientInfo ∧ n.state.isGone n.event = false :=
    ⟨_, rfl, rfl, _, rfl, rfl, rfl, rfl⟩
  have hfixed : ∀ e ∈ [profileCall none, profileCall none], e.setsAnswer = false := by
    simp [profileCall, Event.setsAnswer]
  obtain ⟨hdecided, ⟨u, hu, halike, -⟩, -⟩ :=
    token_cache_transparent (tellsApart_ofString _) hfixed hn
  obtain ⟨i, a, hchecks, hafresh, -⟩ := hdecided x hx hstays
  refine ⟨n, x, u, hn, hx, hcached, hdecision, ⟨i, a, hchecks, hafresh⟩, halike, hcalls, ?_⟩
  cases hn
  cases hu
  rfl

/-- A gate that checks the calls of one procedure. -/
def procedureGate (provider : Provider) (config : CacheConfig) : World :=
  .new (.startingAt 0) provider (.new config) ⟨profileMethods, .machineOnly⟩ ⟨[], .machineOnly⟩

/-- The cache is not altogether silent. That it does not keep a verdict is logged, as in the first
part, where nothing is known of the token. It has statistics, and the verdicts that it drops are
counted. There is nothing of this at a gate without a cache. -/
theorem cache_tells_of_itself :
    logsOf ((procedureGate .unknowing (.token 1)).signals (profileCall none))
        ≠ logsOf ((procedureGate .unknowing .disabled).signals (profileCall none))
      ∧ ((procedureGate .unknowing (.token 1)).step (profileCall none)).1.authorizer.cacheStats
        ≠ ((procedureGate .unknowing .disabled).step (profileCall none)).1.authorizer.cacheStats
      ∧ ((procedureGate (.ofAnswers [("t", .ok grantedProfile)]) (.token 1)).run
          [profileCall none, .advance (.ofSeconds 31)]).reply .purge
        ≠ ((procedureGate (.ofAnswers [("t", .ok grantedProfile)]) .disabled).run
          [profileCall none, .advance (.ofSeconds 31)]).reply .purge := by
  refine ⟨?_, ?_, ?_⟩
  · have hcached : logsOf ((procedureGate .unknowing (.token 1)).signals (profileCall none))
        = [Introspector.notKept .inactive, Rpc.rejectionEvent "p" (.inactiveToken "")] := by rfl
    have huncached : logsOf ((procedureGate .unknowing .disabled).signals (profileCall none))
        = [Rpc.rejectionEvent "p" (.inactiveToken "")] := by rfl
    rw [hcached, huncached]
    simp
  · have hcached : ((procedureGate .unknowing (.token 1)).step
        (profileCall none)).1.authorizer.cacheStats.isSome = true := by rfl
    have huncached : ((procedureGate .unknowing .disabled).step
        (profileCall none)).1.authorizer.cacheStats = none := by rfl
    rw [huncached]
    exact Option.isSome_iff_ne_none.mp hcached
  · have hcached : ((procedureGate (.ofAnswers [("t", .ok grantedProfile)]) (.token 1)).run
        [profileCall none, .advance (.ofSeconds 31)]).reply .purge = .purged 1 := by rfl
    have huncached : ((procedureGate (.ofAnswers [("t", .ok grantedProfile)]) .disabled).run
        [profileCall none, .advance (.ofSeconds 31)]).reply .purge = .purged 0 := by rfl
    rw [hcached, huncached]
    simp

end Gate

end ScopeGate
