import ScopeGate.Introspection.Schedule
import ScopeGate.Proofs.Cache.Counters
import ScopeGate.Proofs.Run.Moments
import ScopeGate.Proofs.Server.Readings

/-!
# What the statistics of the token cache say

The cache counts a hit where it finds a verdict that it has not kept too long. The lookup goes on to
ask whether the token has expired, and if it has, it turns to the provider all the same. So the
misses that are counted fall short of the calls to the provider, and the hits exceed the lookups
that are served from the cache, by the same number: that of the lookups that have met such a
verdict. Every lookup is counted once as the one or the other.
-/

namespace ScopeGate

namespace Introspector

def counters (i : Introspector) : Cache.Counters := Cache.countersOf i.cache

/-- The cache finds a verdict that it has not kept too long, but the token has expired. -/
def findsExpired (clock : Clock) (token : String) (i : Introspector) : Bool :=
  match i.cache with
  | none => false
  | some cache =>
    match (cache.get clock.elapsed (i.key token)).2 with
    | none => false
    | some v => v.isExpiredAt clock.now

theorem exists_stats_of_isCaching {i : Introspector} (h : i.isCaching = true) :
    ∃ s, i.stats = some s ∧ s.counters = i.counters := by
  obtain ⟨c?, key⟩ := i
  cases c? with
  | none => cases h
  | some cache => exact ⟨cache.stats, rfl, rfl⟩

theorem isCaching_keyed (key : String → Octets) {config : CacheConfig}
    (h : config.isEnabled = true) :
    (keyed key config).isCaching = true ∧ (keyed key config).counters = {} := by
  simp [keyed, isCaching, counters, Cache.new?, h, Cache.countersOf]

/-- The first half of a lookup counts one lookup. It counts a hit if the lookup is served or meets a
verdict whose token has expired, and only one of these happens. -/
theorem counted_begin {i : Introspector} (h : i.isCaching = true) (clock : Clock)
    (token : String) :
    (i.begin clock token).1.isCaching = true
      ∧ (i.begin clock token).1.counters.hits
        = i.counters.hits + ((if (i.begin clock token).2.isSome then 1 else 0)
          + if i.findsExpired clock token then 1 else 0)
      ∧ (i.begin clock token).1.counters.lookups = i.counters.lookups + 1 := by
  obtain ⟨c?, key⟩ := i
  cases c? with
  | none => cases h
  | some cache =>
    have hhits := cache.hits_get clock.elapsed (key token)
    have hlookups := cache.lookups_get clock.elapsed (key token)
    rcases hget : cache.get clock.elapsed (key token) with ⟨cache', found⟩
    rw [hget] at hhits hlookups
    unfold begin findsExpired
    simp only [hget]
    cases found with
    | none => exact ⟨rfl, hhits, hlookups⟩
    | some v =>
      cases hexpired : v.isExpiredAt clock.now with
      | true =>
        simp only [hexpired, if_true]
        exact ⟨rfl, hhits, hlookups⟩
      | false =>
        simp only [hexpired, Bool.false_eq_true, if_false]
        exact ⟨rfl, hhits, hlookups⟩

theorem counted_complete (i : Introspector) (clock : Clock) (token : String) (answer : Answer) :
    (i.complete clock token answer).1.isCaching = i.isCaching
      ∧ (i.complete clock token answer).1.counters.hits = i.counters.hits
      ∧ (i.complete clock token answer).1.counters.lookups = i.counters.lookups := by
  unfold complete
  split
  · exact ⟨rfl, rfl, rfl⟩
  · split
    · exact ⟨rfl, rfl, rfl⟩
    · rename_i cache hcache
      split
      · simp only [isCaching, counters, hcache]
        exact ⟨rfl, cache.hits_insert _ _ _, cache.lookups_insert _ _ _⟩
      · exact ⟨rfl, rfl, rfl⟩

theorem counted_purge (i : Introspector) (now : Duration) :
    (i.purge now).1.isCaching = i.isCaching
      ∧ (i.purge now).1.counters.hits = i.counters.hits
      ∧ (i.purge now).1.counters.lookups = i.counters.lookups := by
  unfold purge
  split
  · exact ⟨rfl, rfl, rfl⟩
  · rename_i cache hcache
    simp only [isCaching, counters, hcache]
    exact ⟨rfl, cache.hits_purge now, cache.lookups_purge now⟩

theorem fromCache_complete {i : Introspector} {clock : Clock} {token : String} {answer : Answer}
    {l : Lookup Verdict} (h : (i.complete clock token answer).2.2 = .ok l) :
    l.fromCache = false := by
  cases answer with
  | error fault => cases h
  | ok v =>
    rw [complete_ok] at h
    cases h
    rfl

end Introspector

namespace Introspection

def history (w : World) (events : List Event) : List (Moment World Event) :=
  moments (fun w e => (w.step e).1) w events

def Event.isLook : Event → Bool
  | .look _ _ _ => true
  | _ => false

def Reply.isServed : Reply → Bool
  | .answered _ (.ok l) => l.fromCache
  | _ => false

def begins (m : Moment World Event) : Bool := m.event.isLook

def serves (m : Moment World Event) : Bool := (m.state.step m.event).2.1.isServed

/-- The moment begins a lookup that finds a verdict which was not kept too long, but whose token has
expired. -/
def meetsExpired (m : Moment World Event) : Bool :=
  match m.event with
  | .look _ token _ => m.state.introspector.findsExpired m.state.clock token
  | _ => false

/-- What the cache and the provider have counted agrees with the past, given the calls that the
provider had counted before it. -/
structure Counted (before : Nat) (past : List (Moment World Event)) (w : World) : Prop where
  isCaching : w.introspector.isCaching = true
  hits : w.introspector.counters.hits = past.countP serves + past.countP meetsExpired
  lookups : w.introspector.counters.lookups = past.countP begins
  calls : w.provider.calls + past.countP serves = before + past.countP begins

structure Adds (m : Moment World Event) (w' : World) : Prop where
  isCaching : w'.introspector.isCaching = true
  hits : w'.introspector.counters.hits = m.state.introspector.counters.hits
    + ((if serves m then 1 else 0) + if meetsExpired m then 1 else 0)
  lookups : w'.introspector.counters.lookups
    = m.state.introspector.counters.lookups + if begins m then 1 else 0
  calls : w'.provider.calls + (if serves m then 1 else 0)
    = m.state.provider.calls + if begins m then 1 else 0

theorem Counted.add {before : Nat} {past : List (Moment World Event)} {m : Moment World Event}
    {w' : World} (h : Counted before past m.state) (hadds : Adds m w') :
    Counted before (past ++ [m]) w' := by
  obtain ⟨-, hhits, hlookups, hcalls⟩ := h
  obtain ⟨hcaching, hhits', hlookups', hcalls'⟩ := hadds
  refine ⟨hcaching, ?_, ?_, ?_⟩
  · simp only [List.countP_append, List.countP_singleton]
    omega
  · simp only [List.countP_append, List.countP_singleton]
    omega
  · simp only [List.countP_append, List.countP_singleton]
    omega

theorem complete_spec (w : World) (l : Waiting) :
    (w.complete l).1.introspector.isCaching = w.introspector.isCaching
      ∧ (w.complete l).1.introspector.counters.hits = w.introspector.counters.hits
      ∧ (w.complete l).1.introspector.counters.lookups = w.introspector.counters.lookups
      ∧ (w.complete l).1.provider = w.provider
      ∧ (w.complete l).2.1.isServed = false := by
  obtain ⟨hcaching, hhits, hlookups⟩ :=
    w.introspector.counted_complete w.clock l.token l.answer
  refine ⟨hcaching, hhits, hlookups, rfl, ?_⟩
  change (Reply.answered l.question
    (w.introspector.complete w.clock l.token l.answer).2.2).isServed = false
  cases hresult : (w.introspector.complete w.clock l.token l.answer).2.2 with
  | error fault => rfl
  | ok found => exact Introspector.fromCache_complete hresult

theorem adds_of_asked {w w' : World} {question : Question} {token : String} {call : Option String}
    (hcaching : w'.introspector.isCaching = true)
    (hhits : w'.introspector.counters.hits = w.introspector.counters.hits
      + if w.introspector.findsExpired w.clock token then 1 else 0)
    (hlookups : w'.introspector.counters.lookups = w.introspector.counters.lookups + 1)
    (hcalls : w'.provider.calls = w.provider.calls + 1)
    (hserves : serves ⟨w, .look question token call⟩ = false) :
    Adds ⟨w, .look question token call⟩ w' where
  isCaching := hcaching
  hits := by
    have hexpired : meetsExpired ⟨w, .look question token call⟩
        = w.introspector.findsExpired w.clock token := rfl
    rw [hserves, hexpired, hhits]
    simp
  lookups := hlookups
  calls := by
    rw [hserves]
    exact hcalls

/-- A lookup is served at once, or the provider is asked and the answer taken, now or later. -/
theorem adds_look {w : World} (h : w.introspector.isCaching = true) (question : Question)
    (token : String) (call : Option String) :
    Adds ⟨w, .look question token call⟩ (w.step (.look question token call)).1 := by
  have hserves : serves ⟨w, .look question token call⟩
      = (w.step (.look question token call)).2.1.isServed := rfl
  obtain ⟨hcaching, hhits, hlookups⟩ := Introspector.counted_begin h w.clock token
  rcases hbegin : w.introspector.begin w.clock token with ⟨i, found⟩
  rw [hbegin] at hcaching hhits hlookups
  have hstep := hserves
  unfold World.step at hstep ⊢
  simp only [hbegin] at hstep ⊢
  cases found with
  | some v =>
    have hserved : serves ⟨w, .look question token call⟩ = true := hstep
    exact ⟨hcaching, by rw [hserved]; exact hhits, hlookups, by rw [hserved]; rfl⟩
  | none =>
    simp only [Option.isSome_none, Bool.false_eq_true, if_false, Nat.zero_add] at hhits
    cases call with
    | some name => exact adds_of_asked hcaching hhits hlookups rfl hstep
    | none =>
      obtain ⟨hcaching', hhits', hlookups', hprovider, hnot⟩ :=
        complete_spec { w with introspector := i, provider := (w.provider.ask token).1 }
          ⟨question, token, (w.provider.ask token).2⟩
      exact adds_of_asked (hcaching'.trans hcaching) (hhits'.trans hhits)
        (hlookups'.trans hlookups) (by rw [hprovider]; rfl) (hstep.trans hnot)

theorem adds_nothing {w w' : World} {e : Event} (hlook : e.isLook = false)
    (hserves : serves ⟨w, e⟩ = false) (hcaching : w'.introspector.isCaching = true)
    (hhits : w'.introspector.counters.hits = w.introspector.counters.hits)
    (hlookups : w'.introspector.counters.lookups = w.introspector.counters.lookups)
    (hcalls : w'.provider.calls = w.provider.calls) : Adds ⟨w, e⟩ w' := by
  have hexpired : meetsExpired ⟨w, e⟩ = false := by
    cases e with
    | look _ _ _ => cases hlook
    | _ => rfl
  have hbegins : begins ⟨w, e⟩ = false := hlook
  refine ⟨hcaching, ?_, ?_, ?_⟩
  · rw [hserves, hexpired]
    exact hhits
  · rw [hbegins]
    exact hlookups
  · rw [hserves, hbegins]
    exact hcalls

theorem adds_step {w : World} (h : w.introspector.isCaching = true) (e : Event) :
    Adds ⟨w, e⟩ (w.step e).1 := by
  cases e with
  | look question token call => exact adds_look h question token call
  | release name =>
    have hserves : serves ⟨w, .release name⟩ = (w.step (.release name)).2.1.isServed := rfl
    unfold World.step at hserves ⊢
    cases hfind : w.waiting.find? name with
    | none =>
      simp only [hfind] at hserves ⊢
      exact adds_nothing rfl hserves h rfl rfl rfl
    | some l =>
      simp only [hfind] at hserves ⊢
      obtain ⟨hcaching, hhits, hlookups, hprovider, hnot⟩ :=
        complete_spec { w with waiting := w.waiting.drop name } l
      exact adds_nothing rfl (hserves.trans hnot) (hcaching.trans h) hhits hlookups
        (by rw [hprovider])
  | purge =>
    obtain ⟨hcaching, hhits, hlookups⟩ := w.introspector.counted_purge w.clock.elapsed
    exact adds_nothing rfl rfl (hcaching.trans h) hhits hlookups rfl
  | setAnswer token answer => exact adds_nothing rfl rfl h rfl rfl rfl
  | advance d => exact adds_nothing rfl rfl h rfl rfl rfl

theorem counted_run {w : World} (hcaching : w.introspector.isCaching = true)
    (hcounters : w.introspector.counters = {}) (events : List Event) :
    Counted w.provider.calls (history w events) (w.run events) := by
  refine run_induction ?_ ?_ events
  · refine ⟨hcaching, ?_, ?_, rfl⟩
    · rw [hcounters]
      rfl
    · rw [hcounters]
      rfl
  · intro past t e h
    exact h.add (adds_step h.isCaching e)

/-- After any run of lookups through a cache, its statistics say this.
- Every lookup that has begun is counted once, as a hit or as a miss.
- The hits are the lookups that were served from the cache and those that have met, in the cache, a
  verdict whose token had expired.
- The provider was asked once for every miss and once for every lookup of the latter kind. So it was
  asked as often as there are misses exactly if there was no such lookup, and the hits are the
  lookups served from the cache exactly if there was none.

The page of the server with the counters publishes these hits and misses. -/
theorem statistics_account {config : CacheConfig} (h : config.isEnabled = true)
    (key : String → Octets) (clock : Clock) (provider : Provider) (events : List Event) :
    let start := World.new clock provider (.keyed key config)
    let ms := history start events
    ∃ s, (start.run events).introspector.stats = some s
      ∧ s.counters.hits + s.counters.misses = ms.countP begins
      ∧ s.counters.hits = ms.countP serves + ms.countP meetsExpired
      ∧ (start.run events).provider.calls
        = provider.calls + s.counters.misses + ms.countP meetsExpired
      ∧ ((start.run events).provider.calls = provider.calls + s.counters.misses ↔
        ∀ m ∈ ms, meetsExpired m = false)
      ∧ (s.counters.hits = ms.countP serves ↔ ∀ m ∈ ms, meetsExpired m = false)
      ∧ ∀ (a : Authorizer) (now : Clock) (request : Http.Request),
        a.introspector = (start.run events).introspector →
          ∃ before after, (Server.metrics now a request).body
            = .ofString (before ++ Server.lookupLines s.counters ++ after) := by
  intro start ms
  obtain ⟨hcaching, hcounters⟩ := Introspector.isCaching_keyed key h
  have hcounted : Counted provider.calls ms (start.run events) :=
    counted_run (w := start) hcaching hcounters events
  obtain ⟨hcaching', hhits, hlookups, hcalls⟩ := hcounted
  obtain ⟨s, hs, hsame⟩ := Introspector.exists_stats_of_isCaching hcaching'
  rw [← hsame] at hhits hlookups
  have hasked : (start.run events).provider.calls
      = provider.calls + s.counters.misses + ms.countP meetsExpired := by
    unfold Cache.Counters.lookups at hlookups
    omega
  have hnone : ms.countP meetsExpired = 0 ↔ ∀ m ∈ ms, meetsExpired m = false := by
    simp [List.countP_eq_zero]
  refine ⟨s, hs, hlookups, hhits, hasked, ?_, ?_, ?_⟩
  · rw [← hnone, hasked]
    omega
  · rw [← hnone, hhits]
    omega
  · intro a now request ha
    have hstats : a.cacheStats = some s := by rw [Authorizer.cacheStats, ha, hs]
    exact Server.exists_body_metrics hstats request

/-- The token is looked up, and once more when it has expired, but its verdict is not yet too old
for the cache. -/
def lateLookups : List Event :=
  [.look .lookup "short" none, .advance (.ofSeconds 10), .look .lookup "short" none]

def shortLived : Provider :=
  .ofAnswers [("short", .ok ⟨true, ⟨[]⟩, "client", none, ⟨5, 0⟩⟩)]

def lateStart : World := World.new (.startingAt 0) shortLived (.keyed .ofString (.token 1))

/-- The provider is asked twice, and the cache counts a hit and a miss although it has served
neither lookup. -/
theorem expired_verdict_counted_as_hit :
    (CacheConfig.token 1).isEnabled = true
      ∧ (history lateStart lateLookups).countP begins = 2
      ∧ (history lateStart lateLookups).countP serves = 0
      ∧ (lateStart.run lateLookups).provider.calls = 2
      ∧ ∃ s, (lateStart.run lateLookups).introspector.stats = some s
        ∧ s.counters.hits = 1 ∧ s.counters.misses = 1 := by
  have hbegins : (history lateStart lateLookups).countP begins = 2 := by decide +kernel
  have hserves : (history lateStart lateLookups).countP serves = 0 := by decide +kernel
  have hexpired : (history lateStart lateLookups).countP meetsExpired = 1 := by decide +kernel
  obtain ⟨s, hs, hsum, hhits, hcalls, -⟩ :=
    statistics_account (show (CacheConfig.token 1).isEnabled = true from rfl) .ofString
      (.startingAt 0) shortLived lateLookups
  rw [← lateStart] at hs hsum hhits hcalls
  have hnever : shortLived.calls = 0 := rfl
  have hhit : s.counters.hits = 1 := by omega
  have hmiss : s.counters.misses = 1 := by omega
  exact ⟨rfl, hbegins, hserves, by omega, s, hs, hhit, hmiss⟩

end Introspection

end ScopeGate
