import ScopeGate.Proofs.Session.Failures

/-!
# Lookups that are discarded

A lookup that a sign-out has overlapped does not keep its session. It stores the session all the
same and then takes it out, since a sign-out may still succeed until the session is stored. The
session has no entry afterwards, and those of the other sessions stay as they are and where they
are, with one exception: if the cache was full and had no entry for the session, then storing it has
cost the least recently used entry its place, and taking it out does not bring that entry back.
-/

namespace ScopeGate

namespace Cache

variable {κ ν : Type} [DecidableEq κ]

/-- `c'` is what is left of the cache `c` when a value has been stored under the key and taken out
again. The entries of the other keys are as they were, but the last one is gone if the cache was
full and had none for the key. -/
structure LeavesOthers (k : κ) (c c' : Cache κ ν) : Prop where
  absent : k ∉ c'.keys
  untouched : k ∈ c.keys ∨ c.size < c.config.capacity → c' = { c with entries := c.others k }
  crowded : k ∉ c.keys → c.size = c.config.capacity →
    ∃ front e, c.entries = front ++ [e]
      ∧ c' =
        { c with
          entries := front
          counters := { c.counters with evictions := c.counters.evictions + 1 } }

theorem not_mem_keys_erase (k : κ) (c : Cache κ ν) : k ∉ (c.erase k).1.keys := by
  intro h
  obtain ⟨e, he, hkey⟩ := List.mem_map.mp h
  exact (mem_erase_iff.mp he).2 hkey

theorem InOrder.leavesOthers {c : Cache κ ν} (h : c.InOrder) (hpos : 0 < c.config.capacity)
    (now : Duration) (k : κ) (v : ν) : LeavesOthers k c ((c.insert now k v).erase k).1 := by
  have habsent := not_mem_keys_erase k (c.insert now k v)
  rcases h.insert_cases hpos now k v with
    ⟨hroom, hinsert⟩ | ⟨hkey, hfull, front, e, hplace, hinsert⟩
  · refine ⟨habsent, fun _ => ?_, fun hkey hfull => ?_⟩
    · rw [hinsert]
      simp [Cache.erase, Cache.others, List.filter_filter]
    · exact absurd hfull (Nat.ne_of_lt (hroom.resolve_left hkey))
  · refine ⟨habsent, fun hroom => ?_, fun _ _ => ⟨front, e, hplace, ?_⟩⟩
    · exact absurd hfull (Nat.ne_of_lt (hroom.resolve_left hkey))
    · have hfront : ∀ x ∈ front, x.key ≠ k := by
        rintro x hx rfl
        exact hkey (mem_keys_of_mem (hplace ▸ List.mem_append_left [e] hx))
      rw [hinsert]
      simpa [Cache.erase, Cache.others] using hfront

end Cache

theorem SessionService.exists_keep_of_ne {s : SessionService} (h : s.Ordered)
    {cache : Cache String Session} (hcache : s.cache = some cache) {epoch : Nat}
    (hepoch : epoch ≠ s.signOuts) (clock : Clock) (id : String) (session : Session) :
    ∃ cache', s.keep clock epoch id session = { s with cache := some cache' }
      ∧ Cache.LeavesOthers id cache cache' := by
  obtain ⟨hin, hpos⟩ := h cache hcache
  refine ⟨_, ?_, hin.leavesOthers hpos clock.elapsed id session⟩
  simp [keep, hcache, Ne.symm hepoch]

namespace Sessions

/-- A lookup begins at the moment `i` and ends at the moment `j` with a session that the directory
gave it, and a sign-out has succeeded in between. -/
structure Overlapped (ms : List (Moment World Event)) (i j : Nat) (id : String)
    (session : Session) : Prop where
  gets : Gets ms i j id ⟨session, false⟩
  signedOut : ∃ p m, i < p ∧ p < j ∧ ms[p]? = some m ∧ m.state.reply m.event = .signedOut (.ok ())

section

variable {clock : Clock} {directory : Directory} {config : CacheConfig} {es : List Event}

/-- A lookup that was overlapped comes back with a number of sign-outs that is not the present one
any more. -/
theorem Overlapped.exists_ended {i j : Nat} {id : String} {session : Session}
    (h : Overlapped (history clock directory config es) i j id session) {n : Moment World Event}
    (hn : (history clock directory config es)[j]? = some n) :
    ∃ epoch, n.state.ended? n.event = some (.get id epoch (.ok session))
      ∧ epoch ≠ n.state.service.signOuts ∧ n.state.looked n.event = n.state.service := by
  obtain ⟨hgets, p, q, hip, hpj, hq, hdone⟩ := h
  obtain ⟨m, _, hm, hspan, hasked, hended⟩ := hgets.ended hn (sound_history hn).tracks
  cases hspan with
  | atOnce _ _ => omega
  | @waited _ name _ n' hheld hn' hfreed =>
    obtain rfl : n = n' := Option.some.inj (hn.symm.trans hn')
    have hown := World.asked_of_held (hheld.held_eq hm).2
    rw [hasked] at hown
    cases hown
    refine ⟨_, hended, ?_, World.looked_of_freed hfreed⟩
    -- Were it the present number, all successful sign-outs would be older than the lookup.
    intro heq
    have hold := ((sound_history hn).epochs i name id _ _ hheld).2 heq p q
      (by rw [List.getElem?_take_of_lt hpj, hq]) hdone
    omega

/-- Whenever a lookup of a run ends with a session after a sign-out has succeeded during its flight,
its last step leaves no entry for the session. If the cache has had one, or has not been full, the
step leaves the entries of the other sessions as they were: storing the session and taking it out is
then the same as not storing it. Otherwise the least recently used entry has been evicted, and the
step leaves all the others as they were. -/
theorem discarded_lookup_leaves_others (clock : Clock) (directory : Directory)
    (config : CacheConfig) (es : List Event) :
    let ms := history clock directory config es
    ∀ i j id session n, Overlapped ms i j id session → ms[j]? = some n →
      (n.state.service.cache = none → (n.state.step n.event).1.service = n.state.service)
        ∧ ∀ cache, n.state.service.cache = some cache →
          ∃ cache', (n.state.step n.event).1.service = { n.state.service with cache := some cache' }
            ∧ Cache.LeavesOthers id cache cache' := by
  intro ms i j id session n hoverlapped hn
  obtain ⟨epoch, hended, hepoch, hlooked⟩ := hoverlapped.exists_ended hn
  have hstep : (n.state.step n.event).1.service
      = n.state.service.keep n.state.clock epoch id session := by
    rw [(World.step_spec n.state n.event).1, World.settled, hended, hlooked]
    rfl
  rw [hstep]
  refine ⟨fun hnone => ?_, fun cache hcache => ?_⟩
  · simp only [SessionService.keep, hnone]
  · exact SessionService.exists_keep_of_ne (ordered_history hn) hcache hepoch _ id session

end

/-- A lookup of one session waits while another session takes the only place in the cache and a
sign-out succeeds. -/
def crowding : List (Moment World Event) :=
  history (.startingAt 0) (.ofSessions [("a", none), ("b", none)]) (.session 1)
    [.get "a" (some "early") false, .get "b" none false, .signOut "c" "u" none false,
      .release "early"]

theorem crowding_overlapped : Overlapped crowding 0 3 "a" ⟨"a", none⟩ := by
  have hwaits : traffic.HeldSince (crowding.take 3) 0 "early" (.get "a" 0 (.ok ⟨"a", none⟩)) := by
    refine ⟨⟨_, rfl, rfl⟩, ?_⟩
    intro j m hj hm
    obtain ⟨hlt, hm⟩ := getElem?_of_take_eq_some hm
    obtain rfl | rfl : j = 1 ∨ j = 2 := by omega
    · obtain rfl := Option.some.inj hm
      exact ⟨fun _ h => (nomatch h), fun h => (nomatch h)⟩
    · obtain rfl := Option.some.inj hm
      exact ⟨fun _ h => (nomatch h), fun h => (nomatch h)⟩
  exact ⟨⟨_, _, rfl, ⟨_, _, rfl⟩, .waited hwaits rfl rfl, rfl, rfl⟩,
    2, _, by decide, by decide, rfl, rfl⟩

/-- Storing a session and taking it out is not the same as not storing it: the other session has
lost its place. -/
theorem discarding_may_evict :
    ¬ ∀ (clock : Clock) (directory : Directory) (config : CacheConfig) (es : List Event) (i j : Nat)
      (id : String) (session : Session) (n : Moment World Event)
      (cache cache' : Cache String Session),
      Overlapped (history clock directory config es) i j id session →
      (history clock directory config es)[j]? = some n → n.state.service.cache = some cache →
      (n.state.step n.event).1.service.cache = some cache' →
      id ∉ cache'.keys ∧ cache'.others id = cache.others id := by
  intro h
  have hsame := (h _ _ _ _ 0 3 "a" ⟨"a", none⟩ _ _ _ crowding_overlapped rfl rfl rfl).2
  cases hsame

/-- The lookup leaves an empty cache, and an eviction has been counted. -/
theorem crowding_evicts :
    ∃ n cache, Overlapped crowding 0 3 "a" ⟨"a", none⟩ ∧ crowding[3]? = some n
      ∧ n.state.service.cache = some cache ∧ cache.keys = ["b"]
      ∧ ∃ cache', (n.state.step n.event).1.service = { n.state.service with cache := some cache' }
        ∧ cache'.keys = [] ∧ cache'.counters.evictions = 1 := by
  obtain ⟨n, cache, hn, hcache, hentries, hfull, hnever⟩ :
      ∃ n cache, crowding[3]? = some n ∧ n.state.service.cache = some cache
        ∧ cache.entries = [⟨"b", ⟨"b", none⟩, ⟨0⟩⟩] ∧ cache.size = cache.config.capacity
        ∧ cache.counters.evictions = 0 := ⟨_, _, rfl, rfl, rfl, rfl, rfl⟩
  have hkeys : cache.keys = ["b"] := by rw [Cache.keys, hentries]; rfl
  obtain ⟨cache', hstep, -, -, hcrowded⟩ :=
    (discarded_lookup_leaves_others _ _ _ _ 0 3 "a" _ n crowding_overlapped hn).2 cache hcache
  obtain ⟨front, e, hplace, rfl⟩ := hcrowded (by rw [hkeys]; decide) hfull
  obtain rfl : front = [] := by
    have hlength := congrArg List.length (hentries.symm.trans hplace)
    simpa using hlength
  exact ⟨n, cache, crowding_overlapped, hn, hcache, hkeys, _, hstep, rfl, by simp [hnever]⟩

end Sessions

end ScopeGate
