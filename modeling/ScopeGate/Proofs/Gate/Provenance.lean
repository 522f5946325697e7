import Mathlib.Data.Set.Function
import ScopeGate.Proofs.Gate.Checks

/-!
# Where verdicts come from

A check that rests on a verdict has it from the provider, which was asked about the token when the
check began, or from the cache. `Sound` says of the past that every entry of the cache is a verdict
that the provider gave to an earlier check of a token of its key, stored when that check ended
(`kept`). If keys tell the tokens of a run apart, that was a check of the same token. Checks may
overlap in any way and end in any order, and the cache may lose entries at any time.
-/

namespace ScopeGate.Gate

/-- The provider is asked about a token at the moment, on account of a call that carries it. -/
structure Asks (m : Moment World Event) (token : String) (answer : Answer) : Prop where
  carried : ∃ a, m.state.arrival? m.event = some a ∧ Bearer.ofFields a.fields = .ok token
  asked : (m.state.step m.event).1.provider = (m.state.provider.ask token).1
  given : (m.state.provider.ask token).2 = answer

/-- The check of a call begins at the moment `i` and ends at the moment `j`. -/
structure Checks (ms : List (Moment World Event)) (i j : Nat) (a : Arrival) (x : Ending) :
    Prop where
  begins : ∃ m, ms[i]? = some m ∧ m.state.arrival? m.event = some a
  spans : traffic.Spans ms i j
  ends : ∃ n, ms[j]? = some n ∧ n.state.ending? n.event = some x
  caller : x.caller = a.caller
  check : x.check = a.check

theorem Checks.arrival_eq {ms : List (Moment World Event)} {i j : Nat} {a : Arrival} {x : Ending}
    (h : Checks ms i j a x) {m : Moment World Event} (hm : ms[i]? = some m) :
    m.state.arrival? m.event = some a := by
  obtain ⟨m', hm', ha⟩ := h.begins
  rw [hm] at hm'
  cases hm'
  exact ha

theorem Checks.ending_eq {ms : List (Moment World Event)} {i j : Nat} {a : Arrival} {x : Ending}
    (h : Checks ms i j a x) {n : Moment World Event} (hn : ms[j]? = some n) :
    n.state.ending? n.event = some x := by
  obtain ⟨n', hn', hx⟩ := h.ends
  rw [hn] at hn'
  cases hn'
  exact hx

/-- The provider gives a verdict on a token to a check of its own, from the moment `i` to the moment
`j`. -/
structure Gives (ms : List (Moment World Event)) (i j : Nat) (token : String) (v : Verdict) :
    Prop where
  checks : ∃ a x, Checks ms i j a x ∧ Bearer.ofFields a.fields = .ok token
    ∧ x.evidence = .ok ⟨v, false⟩
  asks : ∃ m, ms[i]? = some m ∧ Asks m token (.ok v)

namespace World

theorem asks_of_asked {w : World} {e : Event} {call : Option String} {l : Waiting}
    (h : w.asked? e = some (call, l)) : Asks ⟨w, e⟩ l.token l.answer := by
  obtain ⟨a, ha, hb, -, -, hgiven⟩ := exists_arrival_of_asked h
  refine ⟨⟨a, ha, Arrival.ofFields_of_asking hb⟩, ?_, ?_⟩
  · have hconsulted : w.consulted e = (w.provider.ask l.token).1 := by simp only [consulted, h]
    cases call with
    | none =>
      have hends : w.ending? e = some (l.ending l.answer) := by
        simp only [ending?, answered?, going?_eq_none_of_asked h, h]
      show (w.step e).1.provider = _
      rw [step_of_ending hends, ← hconsulted]
      rfl
    | some name =>
      have hheld : w.held? e = some (name, l) := by simp only [held?, h]
      show (w.step e).1.provider = _
      rw [step_of_held hheld, ← hconsulted]
  · exact hgiven.symm

theorem of_going {w : World} {e : Event} {name : String} {l : Waiting} {answer : Answer}
    (h : w.going? e = some (name, l, answer)) :
    w.freed? e = some name ∧ w.waiting.find? name = some l
      ∧ (answer = l.answer ∨ answer = .error .canceled) := by
  refine ⟨by simp [freed?, h], ?_⟩
  cases e with
  | release other =>
    obtain ⟨l', hl, he⟩ := Option.map_eq_some_iff.mp h
    cases he
    exact ⟨hl, .inl rfl⟩
  | cancel other =>
    obtain ⟨l', hl, he⟩ := Option.map_eq_some_iff.mp h
    obtain ⟨hl, -⟩ := Option.filter_eq_some_iff.mp hl
    cases he
    exact ⟨hl, .inr rfl⟩
  | cancelRelease other =>
    obtain ⟨l', hl, he⟩ := Option.map_eq_some_iff.mp h
    cases he
    refine ⟨hl, ?_⟩
    cases l.caller.isCancelable
    · exact .inl rfl
    · exact .inr rfl
  | _ => cases h

theorem asked_or_waiting_of_answered {w : World} {e : Event} {l : Waiting} {answer : Answer}
    (h : w.answered? e = some (l, answer)) :
    (w.asked? e = some (none, l) ∧ answer = l.answer)
      ∨ ∃ name, w.freed? e = some name ∧ w.waiting.find? name = some l
        ∧ (answer = l.answer ∨ answer = .error .canceled) := by
  unfold answered? at h
  split at h
  · rename_i hgoing
    cases h
    exact .inr ⟨_, of_going hgoing⟩
  · rename_i hasked
    cases h
    exact .inl ⟨hasked, rfl⟩
  · cases h

theorem answered_or_settled_of_ending {w : World} {e : Event} {x : Ending}
    (h : w.ending? e = some x) :
    (∃ l answer, w.answered? e = some (l, answer) ∧ x = l.ending answer)
      ∨ ∃ a, w.arrival? e = some a ∧ x.caller = a.caller ∧ x.check = a.check
        ∧ (a.begin w.clock w.authorizer.introspector).2 = .settled x.evidence := by
  unfold ending? at h
  split at h
  · rename_i l answer hanswered
    exact .inl ⟨l, answer, hanswered, (Option.some.inj h).symm⟩
  · unfold settled? at h
    split at h
    · cases h
    · rename_i a ha
      split at h
      · rename_i evidence hb
        cases h
        exact .inr ⟨a, ha, rfl, rfl, hb⟩
      · cases h

end World

theorem checks_of_arrival {ms : List (Moment World Event)} {j : Nat} {n : Moment World Event}
    {a : Arrival} {x : Ending} (hn : ms[j]? = some n) (ha : n.state.arrival? n.event = some a)
    (hx : n.state.ending? n.event = some x) : Checks ms j j a x := by
  obtain ⟨hcaller, hcheck⟩ := World.ending_of_arrival ha hx
  have hheld : traffic.held? n.state n.event = none := World.held?_eq_none_of_ending ha hx
  exact ⟨⟨n, hn, ha⟩, .atOnce hn hheld, ⟨n, hn, hx⟩, hcaller, hcheck⟩

section

variable {ms : List (Moment World Event)} {j : Nat} {n : Moment World Event} {x : Ending}

/-- A check that a moment ends with an answer began when the provider was asked. Unless its caller
has gone away the answer is what the provider gave. -/
theorem exists_checks_of_answered (hn : ms[j]? = some n)
    (htracks : traffic.Tracks (ms.take j) n.state) {l : Waiting} {answer : Answer}
    (h : n.state.answered? n.event = some (l, answer)) :
    ∃ i a, Checks ms i j a (l.ending answer)
      ∧ Bearer.ofFields a.fields = .ok l.token
      ∧ (∃ m, ms[i]? = some m ∧ Asks m l.token l.answer)
      ∧ (answer = l.answer ∨ answer = .error .canceled) := by
  have hends : n.state.ending? n.event = some (l.ending answer) := by
    simp only [World.ending?, h]
  rcases World.asked_or_waiting_of_answered h with
    ⟨hasked, hanswer⟩ | ⟨name, hfreed, hwaits, hanswer⟩
  · obtain ⟨a, ha, hb, -⟩ := World.exists_arrival_of_asked hasked
    exact ⟨j, a, checks_of_arrival hn ha hends, Arrival.ofFields_of_asking hb,
      ⟨n, hn, World.asks_of_asked hasked⟩, .inl hanswer⟩
  · obtain ⟨i, m, hm, hheld, hspan, -⟩ := Traffic.exists_spans_of_freed hn htracks hfreed hwaits
    have hasked := World.asked?_of_held hheld
    obtain ⟨a, ha, hb, hcaller, hcheck, -⟩ := World.exists_arrival_of_asked hasked
    exact ⟨i, a, ⟨⟨m, hm, ha⟩, hspan, ⟨n, hn, hends⟩, hcaller, hcheck⟩,
      Arrival.ofFields_of_asking hb, ⟨m, hm, World.asks_of_asked hasked⟩, hanswer⟩

/-- A check that ends at a moment began at some moment. -/
theorem exists_checks_of_ending (hn : ms[j]? = some n)
    (htracks : traffic.Tracks (ms.take j) n.state) (hx : n.state.ending? n.event = some x) :
    ∃ i a, Checks ms i j a x := by
  rcases World.answered_or_settled_of_ending hx with
    ⟨l, answer, hanswered, rfl⟩ | ⟨a, ha, -⟩
  · obtain ⟨i, a, hchecks, -⟩ := exists_checks_of_answered hn htracks hanswered
    exact ⟨i, a, hchecks⟩
  · exact ⟨j, a, checks_of_arrival hn ha hx⟩

theorem exists_gives_of_answered (hn : ms[j]? = some n)
    (htracks : traffic.Tracks (ms.take j) n.state) {l : Waiting} {v : Verdict}
    (h : n.state.answered? n.event = some (l, .ok v)) :
    ∃ i a, Checks ms i j a (l.ending (.ok v)) ∧ Bearer.ofFields a.fields = .ok l.token
      ∧ Gives ms i j l.token v := by
  obtain ⟨i, a, hchecks, htoken, ⟨m, hm, hasks⟩, hanswer⟩ :=
    exists_checks_of_answered hn htracks h
  have hgiven : l.answer = .ok v := by
    rcases hanswer with hanswer | hanswer
    · exact hanswer.symm
    · cases hanswer
  rw [hgiven] at hasks
  exact ⟨i, a, hchecks, htoken, ⟨a, _, hchecks, htoken, rfl⟩, ⟨m, hm, hasks⟩⟩

/-- A check that rests on a verdict which is not from the cache has been given it by the provider.
-/
theorem exists_gives_of_fresh (hn : ms[j]? = some n)
    (htracks : traffic.Tracks (ms.take j) n.state) {v : Verdict}
    (hx : n.state.ending? n.event = some x) (hv : x.evidence = .ok ⟨v, false⟩) :
    ∃ i a token, Checks ms i j a x ∧ Bearer.ofFields a.fields = .ok token
      ∧ Gives ms i j token v := by
  rcases World.answered_or_settled_of_ending hx with ⟨l, answer, hanswered, rfl⟩ | ⟨a, -, -, -, hb⟩
  · obtain rfl : answer = .ok v := by
      cases answer with
      | error fault => cases hv
      | ok given =>
        cases hv
        rfl
    obtain ⟨i, a, hchecks, htoken, hgives⟩ := exists_gives_of_answered hn htracks hanswered
    exact ⟨i, a, l.token, hchecks, htoken, hgives⟩
  · -- A check that is settled as it begins has a verdict from the cache, if any.
    rw [hv] at hb
    obtain ⟨hcache, -⟩ := Arrival.of_settled_ok hb
    cases hcache

/-- A check that rests on a verdict from the cache ends as it begins, on a token of its own. -/
theorem exists_checks_of_cached (hn : ms[j]? = some n) {v : Verdict}
    (hx : n.state.ending? n.event = some x) (hv : x.evidence = .ok ⟨v, true⟩) :
    ∃ a token, Checks ms j j a x ∧ Bearer.ofFields a.fields = .ok token
      ∧ (n.state.authorizer.introspector.begin n.state.clock token).2 = some v := by
  rcases World.answered_or_settled_of_ending hx with ⟨l, answer, -, rfl⟩ | ⟨a, ha, -, -, hb⟩
  · cases answer with
    | error fault => cases hv
    | ok given => cases hv
  · rw [hv] at hb
    obtain ⟨-, token, htoken, hserved⟩ := Arrival.of_settled_ok hb
    exact ⟨a, token, checks_of_arrival hn ha hx, htoken, hserved⟩

end

/-- The call that has waited all the time under the name that a moment frees is the one whose check
ends there, and so is one that the moment itself brings. -/
theorem checks_of_spans {ms : List (Moment World Event)} {i j : Nat} {m n : Moment World Event}
    {a : Arrival} {x : Ending} (htracks : traffic.Tracks (ms.take j) n.state)
    (hspans : traffic.Spans ms i j) (hm : ms[i]? = some m) (ha : m.state.arrival? m.event = some a)
    (hn : ms[j]? = some n) (hx : n.state.ending? n.event = some x) : Checks ms i j a x := by
  have hcall : x.caller = a.caller ∧ x.check = a.check := by
    cases hspans with
    | atOnce _ _ =>
      rw [hm] at hn
      cases hn
      exact World.ending_of_arrival ha hx
    | waited hheld hn' hfreed =>
      rw [hn] at hn'
      cases hn'
      obtain ⟨m', hm', hkept⟩ := hheld.held
      have hm' := (getElem?_of_take_eq_some hm').2
      rw [hm] at hm'
      cases hm'
      obtain ⟨a', ha', -, hcaller, hcheck, -⟩ :=
        World.exists_arrival_of_asked (World.asked?_of_held hkept)
      rw [ha] at ha'
      cases ha'
      have hwaits := (htracks _ _).mpr ⟨i, hheld⟩
      obtain ⟨⟨name, l, answer⟩, hgoing, rfl⟩ := Option.map_eq_some_iff.mp hfreed
      obtain ⟨-, hl, -⟩ := World.of_going hgoing
      rw [World.ending?_of_going hgoing] at hx
      have hsame : some l = some _ := hl.symm.trans hwaits
      cases hsame
      cases hx
      exact ⟨hcaller, hcheck⟩
  exact ⟨⟨m, hm, ha⟩, hspans, ⟨n, hn, hx⟩, hcall.1, hcall.2⟩

theorem Checks.append {ms : List (Moment World Event)} {i j : Nat} {a : Arrival} {x : Ending}
    (h : Checks ms i j a x) (later : List (Moment World Event)) : Checks (ms ++ later) i j a x := by
  obtain ⟨m, hm, ha⟩ := h.begins
  obtain ⟨n, hn, hx⟩ := h.ends
  exact ⟨⟨m, getElem?_append_of_eq_some hm later, ha⟩,
    (Traffic.spans_append_iff h.spans.lt_length later).mpr h.spans,
    ⟨n, getElem?_append_of_eq_some hn later, hx⟩, h.caller, h.check⟩

theorem Gives.append {ms : List (Moment World Event)} {i j : Nat} {token : String} {v : Verdict}
    (h : Gives ms i j token v) (later : List (Moment World Event)) :
    Gives (ms ++ later) i j token v := by
  obtain ⟨a, x, hchecks, htoken, hv⟩ := h.checks
  obtain ⟨m, hm, hasks⟩ := h.asks
  exact ⟨⟨a, x, hchecks.append later, htoken, hv⟩, ⟨m, getElem?_append_of_eq_some hm later, hasks⟩⟩

/-! ## The tokens of a run -/

def Event.token? : Event → Option String
  | .authorize _ _ fields _ _ => (Bearer.ofFields fields).toOption
  | .rpc _ _ request _ => (Bearer.ofFields request.fields).toOption
  | .http _ _ _ request => (Bearer.ofFields request.fields).toOption
  | _ => none

/-- The tokens that are carried by the calls among some events. -/
def presented (es : List Event) : Set String := { t | ∃ e ∈ es, e.token? = some t }

/-- No two tokens that are presented have the same key. -/
def TellsApart (key : String → Octets) (es : List Event) : Prop := Set.InjOn key (presented es)

theorem tellsApart_ofString (es : List Event) : TellsApart Octets.ofString es :=
  fun _ _ _ _ => Octets.ofString_injective

theorem World.token?_of_arrival {w : World} {e : Event} {a : Arrival} {token : String}
    (ha : w.arrival? e = some a) (htoken : Bearer.ofFields a.fields = .ok token) :
    e.token? = some token := by
  have hoption : (Bearer.ofFields a.fields).toOption = some token := by
    rw [htoken]
    rfl
  cases arrives_of_arrival ha <;> exact hoption

/-! ## The invariant -/

/-- The entry is a verdict that the provider gave to the check of the token from `i` to `j`. It was
stored when that check ended, and was fit to be kept then. -/
structure Kept (key : String → Octets) (past : List (Moment World Event))
    (x : Cache.Entry Octets Verdict) (token : String) (i j : Nat) : Prop where
  filed : x.key = key token
  gives : Gives past i j token x.value
  stored : ∃ n, past[j]? = some n ∧ n.state.clock.elapsed = x.storedAt
    ∧ Introspector.mayKeep n.state.clock.now x.value = true

theorem Kept.append {key : String → Octets} {past : List (Moment World Event)}
    {x : Cache.Entry Octets Verdict} {token : String} {i j : Nat} (h : Kept key past x token i j)
    (later : List (Moment World Event)) : Kept key (past ++ later) x token i j := by
  obtain ⟨n, hn, hstored⟩ := h.stored
  exact ⟨h.filed, h.gives.append later, ⟨n, getElem?_append_of_eq_some hn later, hstored⟩⟩

/-- What the past tells about the checks that wait, about the cache and about the endpoints. -/
structure Sound (key : String → Octets) (config : CacheConfig) (interceptor : Rpc.Interceptor)
    (site : Http.Site) (past : List (Moment World Event)) (w : World) : Prop where
  tracks : traffic.Tracks past w
  hasSettings : w.authorizer.introspector.HasSettings key config
  endpoints : w.interceptor = interceptor ∧ w.site = site
  kept : ∀ x ∈ w.authorizer.introspector.entries, ∃ token i j, Kept key past x token i j

section

variable {key : String → Octets} {config : CacheConfig} {interceptor : Rpc.Interceptor}
  {site : Http.Site}

theorem Sound.start (clock : Clock) (provider : Provider) :
    Sound key config interceptor site []
      (World.new clock provider (Introspector.keyed key config) interceptor site) where
  tracks := Traffic.tracks_nil fun _ => rfl
  hasSettings := Introspector.hasSettings_keyed key config
  endpoints := ⟨rfl, rfl⟩
  kept := by
    intro x hx
    have hnone : (Introspector.keyed key config).entries = [] := Cache.entriesOf_new? config
    have hmem : x ∈ (Introspector.keyed key config).entries := hx
    rw [hnone] at hmem
    cases hmem

theorem Sound.kept_next {past : List (Moment World Event)} {m : Moment World Event}
    (h : Sound key config interceptor site past m.state) {x : Cache.Entry Octets Verdict}
    (hx : x ∈ (m.state.step m.event).1.authorizer.introspector.entries) :
    ∃ token i j, Kept key (past ++ [m]) x token i j := by
  rcases World.mem_entries_step hx with hold | ⟨l, hanswered, hkey, hstored, hkeep⟩
  · obtain ⟨token, i, j, hkept⟩ := h.kept x hold
    exact ⟨token, i, j, hkept.append [m]⟩
  · have hlast : (past ++ [m])[past.length]? = some m := List.getElem?_concat_length
    obtain ⟨i, a, -, -, hgives⟩ :=
      exists_gives_of_answered hlast (h.tracks.take_append [m]) hanswered
    rw [h.hasSettings.key] at hkey
    exact ⟨l.token, i, past.length, hkey, hgives, m, hlast, hstored.symm, hkeep⟩

theorem Sound.next {past : List (Moment World Event)} {w : World}
    (h : Sound key config interceptor site past w) (e : Event) :
    Sound key config interceptor site (past ++ [⟨w, e⟩]) (w.step e).1 where
  tracks := h.tracks.next (w.waiting_step e)
  hasSettings := World.hasSettings_step h.hasSettings e
  endpoints := by
    obtain ⟨hinterceptor, hsite⟩ := w.endpoints_step e
    rw [hinterceptor, hsite]
    exact h.endpoints
  kept := fun _ hx => Sound.kept_next h hx

/-- The moments of a run of a gate that has checked nothing. -/
def history (clock : Clock) (provider : Provider) (key : String → Octets) (config : CacheConfig)
    (interceptor : Rpc.Interceptor) (site : Http.Site) (es : List Event) :
    List (Moment World Event) :=
  moments (fun w e => (w.step e).1)
    (World.new clock provider (Introspector.keyed key config) interceptor site) es

variable {clock : Clock} {provider : Provider} {es : List Event}

theorem endpoints_run (clock : Clock) (provider : Provider) (key : String → Octets)
    (config : CacheConfig) (interceptor : Rpc.Interceptor) (site : Http.Site) (es : List Event) :
    ((World.new clock provider (.keyed key config) interceptor site).run es).interceptor
        = interceptor
      ∧ ((World.new clock provider (.keyed key config) interceptor site).run es).site = site :=
  (run_induction (P := Sound key config interceptor site) (Sound.start clock provider)
    (fun _ _ e h => h.next e) es).endpoints

theorem history_append (past es : List Event) (e : Event) :
    history clock provider key config interceptor site (past ++ e :: es)
      = history clock provider key config interceptor site past
        ++ ⟨(World.new clock provider (.keyed key config) interceptor site).run past, e⟩
          :: moments (fun w e => (w.step e).1)
            (((World.new clock provider (.keyed key config) interceptor site).run past).step e).1
            es :=
  moments_append _ _ _ _

theorem length_history :
    (history clock provider key config interceptor site es).length = es.length :=
  length_moments _ _ _

theorem getElem?_history_append (past es : List Event) (e : Event) :
    (history clock provider key config interceptor site (past ++ e :: es))[past.length]?
      = some ⟨(World.new clock provider (.keyed key config) interceptor site).run past, e⟩ := by
  rw [history_append, List.getElem?_append_right (Nat.le_of_eq length_history), length_history,
    Nat.sub_self, List.getElem?_cons_zero]

theorem sound_history {i : Nat} {m : Moment World Event}
    (hm : (history clock provider key config interceptor site es)[i]? = some m) :
    Sound key config interceptor site
      ((history clock provider key config interceptor site es).take i) m.state :=
  moment_induction (Sound.start clock provider) (fun _ _ e h => h.next e) hm

theorem Checks.mem_presented {i j : Nat} {a : Arrival} {x : Ending} {token : String}
    (h : Checks (history clock provider key config interceptor site es) i j a x)
    (htoken : Bearer.ofFields a.fields = .ok token) : token ∈ presented es := by
  obtain ⟨m, hm, ha⟩ := h.begins
  exact ⟨m.event, event_mem_of_getElem? hm, World.token?_of_arrival ha htoken⟩

/-- Whatever the cache holds at a moment was given to an earlier check. -/
theorem exists_kept_history {j : Nat} {n : Moment World Event}
    (hn : (history clock provider key config interceptor site es)[j]? = some n)
    {x : Cache.Entry Octets Verdict} (hx : x ∈ n.state.authorizer.introspector.entries) :
    ∃ token i k, k < j ∧ Kept key (history clock provider key config interceptor site es) x token i
      k := by
  obtain ⟨token, i, k, hkept⟩ := (sound_history hn).kept x hx
  obtain ⟨m, hm, -⟩ := hkept.stored
  have hlt := (getElem?_of_take_eq_some hm).1
  have hkept := hkept.append ((history clock provider key config interceptor site es).drop j)
  rw [List.take_append_drop] at hkept
  exact ⟨token, i, k, hlt, hkept⟩

/-- Under the key of a token stands what was given to a check of that token, if keys tell the tokens
apart. -/
theorem Kept.token_eq (hkey : TellsApart key es) {x : Cache.Entry Octets Verdict}
    {token own : String} {i j : Nat}
    (h : Kept key (history clock provider key config interceptor site es) x token i j)
    (hown : own ∈ presented es) (hfiled : x.key = key own) : token = own := by
  obtain ⟨a, y, hchecks, htoken, -⟩ := h.gives.checks
  exact hkey (hchecks.mem_presented htoken) hown (h.filed.symm.trans hfiled)

theorem exists_checks {j : Nat} {n : Moment World Event} {x : Ending}
    (hn : (history clock provider key config interceptor site es)[j]? = some n)
    (hx : n.state.ending? n.event = some x) :
    ∃ i a, Checks (history clock provider key config interceptor site es) i j a x :=
  exists_checks_of_ending hn (sound_history hn).tracks hx

end

end ScopeGate.Gate
