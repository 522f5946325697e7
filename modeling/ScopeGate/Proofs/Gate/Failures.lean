import ScopeGate.Proofs.Gate.Admission
import ScopeGate.Proofs.Gate.Closings
import ScopeGate.Proofs.Introspection.Places
import ScopeGate.Proofs.Introspection.Statistics
import ScopeGate.Proofs.Telemetry.Masking

/-!
# Checks that fail

A check whose request has a token fails for want of a verdict when its caller goes away before the
look-up has ended, or when the provider answers with a fault. Such a check is counted once and tells
of itself in one record, but of no token. It leaves the cache as it is at its end, whatever other
checks have made of it in the meantime: all that it may have taken out, when it began, is an entry
of its own token that was of no use any more. An answer that has arrived is dropped if the caller is
gone, and so it is not kept either.
-/

namespace ScopeGate.Gate

/-- The check of a call fails at the moment for want of a verdict, and `left` is what it leaves of
the introspector. -/
structure Fails (n : Moment World Event) (a : Arrival) (fault : IntrospectionFault)
    (left : Introspector) : Prop where
  ends : n.state.ending? n.event = some ⟨a.caller, a.check, .error (.introspection fault)⟩
  reply : n.state.reply n.event = a.caller.refused (.introspection fault)
  ran : (n.state.step n.event).1.ran = n.state.ran
  introspector : (n.state.step n.event).1.authorizer.introspector = left
  metrics : (n.state.step n.event).1.authorizer.metrics =
    { n.state.authorizer.metrics with
      totalRequests := n.state.authorizer.metrics.totalRequests + 1
      canceled := n.state.authorizer.metrics.canceled + if fault.isCanceled then 1 else 0
      internalErrors :=
        n.state.authorizer.metrics.internalErrors + if fault.isCanceled then 0 else 1 }
  record : ∃ r, recordsOf (n.state.signals n.event) = [r]
    ∧ r.status = .error (Rejection.introspection fault).safeMessage
    ∧ ∀ key ∈ TraceRecord.verdictKeys, r.get? key = none

/-- The look-up of a token finds nothing at the moment and turns to the provider, and `left` is what
it leaves of the introspector. -/
structure Turns (key : String → Octets) (config : CacheConfig) (m : Moment World Event)
    (token : String) (left : Introspector) : Prop where
  entries : left.entries = m.state.authorizer.introspector.entries.filter fun x =>
    !Introspector.isSpent config m.state.clock (key token) x
  counted : m.state.authorizer.introspector.isCaching = true →
    left.counters.lookups = m.state.authorizer.introspector.counters.lookups + 1
  asked : (m.state.step m.event).1.provider = (m.state.provider.ask token).1

/-- A call waits from the moment on under a name, and has done no more than to leave `left` of the
introspector. -/
structure Waits (m : Moment World Event) (name : String) (left : Introspector) : Prop where
  reply : m.state.reply m.event = .pending name
  introspector : (m.state.step m.event).1.authorizer.introspector = left
  metrics : (m.state.step m.event).1.authorizer.metrics = m.state.authorizer.metrics
  signals : m.state.signals m.event = []
  ran : (m.state.step m.event).1.ran = m.state.ran

namespace Arrival

variable {a : Arrival} {token : String}

theorem begin_of_canceled (htoken : Bearer.ofFields a.fields = .ok token)
    (hcanceled : a.canceled = true) (clock : Clock) (i : Introspector) :
    a.begin clock i = (i, .settled (.error (.introspection .canceled))) := by
  simp only [begin, htoken, hcanceled, if_true]

theorem begin_of_unserved (htoken : Bearer.ofFields a.fields = .ok token)
    (hstays : a.canceled = false) {clock : Clock} {i : Introspector}
    (hunserved : (i.begin clock token).2 = none) :
    a.begin clock i = ((i.begin clock token).1, .asking token) := by
  rcases hbegin : i.begin clock token with ⟨left, found⟩
  rw [hbegin] at hunserved
  simp only at hunserved
  simp only [begin, htoken, hstays, hbegin, hunserved, Bool.false_eq_true, if_false]

end Arrival

namespace World

variable {w : World} {e : Event} {a : Arrival}

theorem taken_of_unanswered (h : w.answered? e = none) : (w.taken e).1 = w.looked e := by
  simp only [taken, h]

theorem taken_of_error {l : Waiting} {fault : IntrospectionFault}
    (h : w.answered? e = some (l, .error fault)) : (w.taken e).1 = w.looked e := by
  simp only [taken, h, Introspector.complete_error]

theorem ordered_step (h : w.authorizer.introspector.Ordered) (e : Event) :
    (w.step e).1.authorizer.introspector.Ordered :=
  introspector_invariant (fun _ clock token h => h.begin clock token)
    (fun _ clock token answer h => h.complete clock token answer) (fun _ now h => h.purge now) h e

end World

/-- None of the keys that tell of a verdict is one that a check sets without a verdict. -/
theorem ne_of_mem_verdictKeys :
    ∀ key ∈ TraceRecord.verdictKeys, key ≠ Key.transport ∧ key ≠ Key.procedure
      ∧ key ≠ Key.requiredScopes ∧ key ≠ Key.fullError := by
  decide

/-- A check that ends with a fault is entered as such, whatever has become of the introspector. -/
theorem fails_of_ending {m n : Moment World Event} {a : Arrival} {fault : IntrospectionFault}
    {left : Introspector} (ha : m.state.arrival? m.event = some a)
    (hx : n.state.ending? n.event = some ⟨a.caller, a.check, .error (.introspection fault)⟩)
    (hleft : (n.state.taken n.event).1 = left) : Fails n a fault left where
  ends := hx
  reply := (World.served_of_rejection hx rfl).1
  ran := (World.served_of_rejection hx rfl).2
  introspector := by rw [World.introspector_step, hleft]
  metrics := by
    rw [(World.entered_of_closing (World.closing?_of_ending hx)).1]
    cases fault <;> rfl
  record := by
    refine ⟨_, (World.entered_of_closing (World.closing?_of_ending hx)).2, rfl, ?_⟩
    intro key hkey
    obtain ⟨htransport, hprocedure, hrequired, herror⟩ := ne_of_mem_verdictKeys key hkey
    exact Check.get?_rule_of_error (World.get?_of_arrival ha htransport hprocedure) hrequired
      herror _

/-- A caller that has gone away before its call begins keeps it from everything else. -/
theorem fails_of_canceled {m : Moment World Event} {a : Arrival} {token : String}
    (ha : m.state.arrival? m.event = some a) (htoken : Bearer.ofFields a.fields = .ok token)
    (hcanceled : a.canceled = true) :
    Fails m a .canceled m.state.authorizer.introspector
      ∧ (m.state.step m.event).1.provider = m.state.provider := by
  have hbegin := Arrival.begin_of_canceled htoken hcanceled m.state.clock
    m.state.authorizer.introspector
  have hb := congrArg Prod.snd hbegin
  have hasked := World.asked?_of_settled ha hb
  have hx := World.ending?_of_settled ha hb
  have hunanswered : m.state.answered? m.event = none := by
    simp only [World.answered?, World.going?_eq_none_of_arrival ha, hasked]
  refine ⟨fails_of_ending ha hx ?_, ?_⟩
  · rw [World.taken_of_unanswered hunanswered, World.looked_of_arrival ha, hbegin]
  · rw [World.step_of_ending hx]
    simp only [World.close, World.deliver, World.consulted, hasked]

section

variable {key : String → Octets} {config : CacheConfig} {m : Moment World Event} {a : Arrival}
  {token : String}

/-- A call whose look-up is not served turns to the provider, whether or not it waits. -/
theorem turns_of_unserved (hordered : m.state.authorizer.introspector.Ordered)
    (hsettings : m.state.authorizer.introspector.HasSettings key config)
    (ha : m.state.arrival? m.event = some a) (htoken : Bearer.ofFields a.fields = .ok token)
    (hstays : a.canceled = false)
    (hunserved : (m.state.authorizer.introspector.begin m.state.clock token).2 = none) :
    Turns key config m token (m.state.authorizer.introspector.begin m.state.clock token).1 where
  entries := Introspector.entries_begin_of_unserved hordered hsettings hunserved
  counted := fun hcaching => (Introspector.counted_begin hcaching m.state.clock token).2.2
  asked :=
    (World.asks_of_asked (World.asked?_of_asking ha
      (congrArg Prod.snd (Arrival.begin_of_unserved htoken hstays hunserved)))).asked

variable (ha : m.state.arrival? m.event = some a) (htoken : Bearer.ofFields a.fields = .ok token)
  (hstays : a.canceled = false)
  (hunserved : (m.state.authorizer.introspector.begin m.state.clock token).2 = none)

include ha htoken hstays hunserved

theorem held?_of_unserved {name : String} (hcall : a.call = some name) :
    m.state.held? m.event
      = some (name, ⟨a.caller, a.check, token, m.state.provider.answers token⟩) := by
  rw [World.held?_of_arrival ha, Arrival.begin_of_unserved htoken hstays hunserved, hcall]

theorem waits_of_unserved {name : String} (hcall : a.call = some name) :
    Waits m name (m.state.authorizer.introspector.begin m.state.clock token).1 := by
  have hstep := World.step_of_held (held?_of_unserved ha htoken hstays hunserved hcall)
  refine ⟨by rw [World.reply, hstep], ?_, by rw [hstep], by rw [World.signals, hstep],
    by rw [hstep]⟩
  rw [hstep, World.looked_of_arrival ha, Arrival.begin_of_unserved htoken hstays hunserved]

theorem fails_of_answer {fault : IntrospectionFault} (hcall : a.call = none)
    (hanswer : m.state.provider.answers token = .error fault) :
    Fails m a fault (m.state.authorizer.introspector.begin m.state.clock token).1 := by
  have hbegin := Arrival.begin_of_unserved htoken hstays hunserved
  have hasked := World.asked?_of_asking ha (congrArg Prod.snd hbegin)
  rw [hcall, hanswer] at hasked
  have hanswered : m.state.answered? m.event
      = some (⟨a.caller, a.check, token, .error fault⟩, .error fault) := by
    simp only [World.answered?, World.going?_eq_none_of_arrival ha, hasked]
  refine fails_of_ending ha (by simp only [World.ending?, hanswered]; rfl) ?_
  rw [World.taken_of_error hanswered, World.looked_of_arrival ha, hbegin]

end

theorem fails_of_going {m n : Moment World Event} {a : Arrival} {name token : String}
    {answer : Answer} {fault : IntrospectionFault} (ha : m.state.arrival? m.event = some a)
    (hgoing : n.state.going? n.event
      = some (name, ⟨a.caller, a.check, token, answer⟩, .error fault)) :
    Fails n a fault n.state.authorizer.introspector := by
  have hanswered : n.state.answered? n.event
      = some (⟨a.caller, a.check, token, answer⟩, .error fault) := by
    simp only [World.answered?, hgoing]
  refine fails_of_ending ha (World.ending?_of_going hgoing) ?_
  rw [World.taken_of_error hanswered, World.looked_of_going hgoing]

section

variable {clock : Clock} {provider : Provider} {key : String → Octets} {config : CacheConfig}
  {interceptor : Rpc.Interceptor} {site : Http.Site} {es : List Event}

theorem ordered_history {i : Nat} {m : Moment World Event}
    (hm : (history clock provider key config interceptor site es)[i]? = some m) :
    m.state.authorizer.introspector.Ordered :=
  (moment_invariant (P := fun w : World => w.authorizer.introspector.Ordered)
    (Introspector.ordered_keyed key config) (fun _ e _ h => World.ordered_step h e) hm).1

/-- At whatever moment a call fails whose request has a token, it leaves the cache and its
statistics as they are at that moment. If its caller has gone away before it begins, the provider is
not asked either. Otherwise, if the cache does not serve it, it may have dropped an entry of its
token that was of no use, before it asked. Then it fails with the provider's fault, or as canceled
if its caller goes away while it waits, whether or not the answer arrives with that. -/
theorem failed_checks_leave_no_trace {i : Nat} {m : Moment World Event} {a : Arrival}
    {token : String} (hm : (history clock provider key config interceptor site es)[i]? = some m)
    (ha : m.state.arrival? m.event = some a) (htoken : Bearer.ofFields a.fields = .ok token) :
    (a.canceled = true →
        Fails m a .canceled m.state.authorizer.introspector
          ∧ (m.state.step m.event).1.provider = m.state.provider)
      ∧ (a.canceled = false →
        ∀ left, m.state.authorizer.introspector.begin m.state.clock token = (left, none) →
          Turns key config m token left
            ∧ (∀ fault, a.call = none → m.state.provider.answers token = .error fault →
              Fails m a fault left)
            ∧ ∀ name, a.call = some name →
              Waits m name left
                ∧ ∀ j n l,
                  traffic.HeldSince
                      ((history clock provider key config interceptor site es).take j) i name l →
                  (history clock provider key config interceptor site es)[j]? = some n →
                    (a.caller.isCancelable = true →
                        n.event = .cancel name ∨ n.event = .cancelRelease name →
                        Fails n a .canceled n.state.authorizer.introspector)
                      ∧ ∀ fault, m.state.provider.answers token = .error fault →
                        n.event = .release name
                          ∨ (n.event = .cancelRelease name ∧ a.caller.isCancelable = false) →
                        Fails n a fault n.state.authorizer.introspector) := by
  refine ⟨fails_of_canceled ha htoken, ?_⟩
  intro hstays left hbegin
  have hunserved := congrArg Prod.snd hbegin
  obtain rfl : (m.state.authorizer.introspector.begin m.state.clock token).1 = left :=
    congrArg Prod.fst hbegin
  have hsound := sound_history hm
  refine ⟨turns_of_unserved (ordered_history hm) hsound.hasSettings ha htoken hstays hunserved,
    fun fault hcall hanswer => fails_of_answer ha htoken hstays hunserved hcall hanswer, ?_⟩
  intro name hcall
  refine ⟨waits_of_unserved ha htoken hstays hunserved hcall, ?_⟩
  intro j n l hheld hn
  have hwaits : n.state.waiting.find? name = some l :=
    ((sound_history hn).tracks name l).mpr ⟨i, hheld⟩
  have hkept : m.state.held? m.event = some (name, l) := (hheld.held_eq hm).2
  rw [held?_of_unserved ha htoken hstays hunserved hcall] at hkept
  cases hkept
  refine ⟨?_, ?_⟩
  · intro hcancelable hevent
    have hgoing : n.state.going? n.event
        = some (name, ⟨a.caller, a.check, token, m.state.provider.answers token⟩,
          .error .canceled) := by
      rcases hevent with hevent | hevent <;>
        simp [World.going?, hevent, hwaits, hcancelable]
    exact fails_of_going ha hgoing
  · intro fault hanswer hevent
    have hgoing : n.state.going? n.event
        = some (name, ⟨a.caller, a.check, token, m.state.provider.answers token⟩,
          .error fault) := by
      rcases hevent with hevent | ⟨hevent, hdeaf⟩
      · simp [World.going?, hevent, hwaits, hanswer]
      · simp [World.going?, hevent, hwaits, hanswer, hdeaf]
    exact fails_of_going ha hgoing

end

/-- While a call waits, another one with the same token is answered. Then the answer to the first
arrives, but its caller is gone. -/
def overtaken : List (Moment World Event) :=
  history (.startingAt 0) (.ofAnswers [("t", .ok grantedProfile)]) .ofString (.token 1)
    ⟨profileMethods, .machineOnly⟩ ⟨[], .machineOnly⟩
    [profileCall (some "a"), profileCall none, .cancelRelease "a"]

/-- The first call fails, and the verdict that was given to the second stays where it was put. -/
theorem overtaken_call_keeps_verdict :
    ∃ a n, overtaken[2]? = some n
      ∧ n.state.authorizer.introspector.entries
        = [⟨.ofString "t", grantedProfile, (Clock.startingAt 0).elapsed⟩]
      ∧ Fails n a .canceled n.state.authorizer.introspector := by
  obtain ⟨m, hm, a, ha, htoken, hstays, hcall, hcancelable, left, hbegin⟩ :
      ∃ m, overtaken[0]? = some m ∧ ∃ a, m.state.arrival? m.event = some a
        ∧ Bearer.ofFields a.fields = .ok "t" ∧ a.canceled = false ∧ a.call = some "a"
        ∧ a.caller.isCancelable = true
        ∧ ∃ left, m.state.authorizer.introspector.begin m.state.clock "t" = (left, none) :=
    ⟨_, rfl, _, rfl, rfl, rfl, rfl, rfl, _, rfl⟩
  obtain ⟨l, hheld⟩ : ∃ l, traffic.HeldSince (overtaken.take 2) 0 "a" l := by
    refine ⟨_, ⟨_, rfl, rfl⟩, ?_⟩
    intro j n hj hn
    obtain ⟨hlt, hn⟩ := getElem?_of_take_eq_some hn
    obtain rfl : j = 1 := by omega
    obtain rfl := Option.some.inj hn
    refine ⟨fun call h => ?_, fun h => ?_⟩
    · cases h
    · cases h
  obtain ⟨n, hn, hevent, hentries⟩ : ∃ n, overtaken[2]? = some n
      ∧ n.event = .cancelRelease "a" ∧ n.state.authorizer.introspector.entries
        = [⟨.ofString "t", grantedProfile, (Clock.startingAt 0).elapsed⟩] :=
    ⟨_, rfl, rfl, by rfl⟩
  have hwaiting := ((failed_checks_leave_no_trace hm ha htoken).2 hstays left hbegin).2.2 "a" hcall
  exact ⟨a, n, hn, hentries, (hwaiting.2 2 n l hheld hn).1 hcancelable (.inr hevent)⟩

end ScopeGate.Gate
