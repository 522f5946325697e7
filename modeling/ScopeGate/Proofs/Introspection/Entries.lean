import ScopeGate.Introspection.Introspector
import ScopeGate.Proofs.Cache.Entries

/-!
# Which verdicts are kept

A verdict that is served from the cache stands in an entry under the key of the token, is not stale
and its token has not expired. A verdict that is kept is the provider's answer, of a token that is
active and has not expired at that moment. Nothing else adds an entry.
-/

namespace ScopeGate.Introspector

def entries (i : Introspector) : List (Cache.Entry Octets Verdict) := Cache.entriesOf i.cache

/-- Keys are made in the given way, and the cache has the settings, if there is one. -/
structure HasSettings (key : String → Octets) (config : CacheConfig) (i : Introspector) : Prop where
  key : i.key = key
  config : Cache.Configured config i.cache

theorem entries_some (cache : Cache Octets Verdict) (key : String → Octets) :
    (⟨some cache, key⟩ : Introspector).entries = cache.entries := rfl

theorem hasSettings_keyed (key : String → Octets) (config : CacheConfig) :
    (keyed key config).HasSettings key config := ⟨rfl, Cache.configured_new? config⟩

theorem mem_of_mem_entries_begin {clock : Clock} {token : String} {i : Introspector}
    {x : Cache.Entry Octets Verdict} (h : x ∈ (i.begin clock token).1.entries) :
    x ∈ i.entries := by
  unfold begin at h
  split at h
  · exact h
  · rename_i cache hcache
    rw [entries, hcache]
    have hget : ∀ y, y ∈ (cache.get clock.elapsed (i.key token)).1.entries → y ∈ cache.entries :=
      fun _ => Cache.mem_of_mem_get
    split at h
    · rename_i hfound
      rw [hfound] at hget
      exact hget x h
    · rename_i hfound
      rw [hfound] at hget
      split at h
      · exact hget x (Cache.mem_erase_iff.mp h).1
      · exact hget x h

/-- A verdict that is served stands in an entry under the key of the token. It is not stale, and the
token has not expired. -/
theorem exists_mem_of_begin_eq_some {clock : Clock} {token : String} {i : Introspector}
    {v : Verdict} (h : (i.begin clock token).2 = some v) :
    v.isExpiredAt clock.now = false ∧ ∃ cache, i.cache = some cache ∧ ∃ x ∈ i.entries,
      x.key = i.key token ∧ x.value = v ∧ x.isStale cache.config.ttl clock.elapsed = false := by
  unfold begin at h
  split at h
  · cases h
  · rename_i cache hcache
    split at h
    · cases h
    · rename_i served found hget
      split at h
      · cases h
      · rename_i hexpired
        obtain rfl : found = v := Option.some.inj h
        have hfound : (cache.get clock.elapsed (i.key token)).2 = some found := by rw [hget]
        refine ⟨by simpa using hexpired, cache, hcache, ?_⟩
        rw [entries, hcache]
        exact Cache.exists_mem_of_get_eq_some hfound

/-- The entry that an answer adds, if it adds one, holds the verdict that was given. -/
theorem mem_entries_complete {clock : Clock} {token : String} {answer : Answer} {i : Introspector}
    {x : Cache.Entry Octets Verdict} (h : x ∈ (i.complete clock token answer).1.entries) :
    x ∈ i.entries ∨ (x.key = i.key token ∧ answer = .ok x.value ∧ x.storedAt = clock.elapsed
      ∧ mayKeep clock.now x.value = true) := by
  unfold complete at h
  split at h
  · exact .inl h
  · split at h
    · exact .inl h
    · rename_i cache hcache
      split at h
      · rename_i hkeep
        rw [entries_some] at h
        rcases Cache.eq_or_mem_of_mem_insert h with rfl | hold
        · exact .inr ⟨rfl, rfl, rfl, hkeep⟩
        · left
          rw [entries, hcache]
          exact hold.1
      · exact .inl h

theorem mem_of_mem_entries_purge {now : Duration} {i : Introspector}
    {x : Cache.Entry Octets Verdict} (h : x ∈ (i.purge now).1.entries) : x ∈ i.entries := by
  unfold purge at h
  split at h
  · exact h
  · rename_i cache hcache
    rw [entries, hcache]
    exact Cache.mem_of_mem_purge h

section

variable {key : String → Octets} {config : CacheConfig} {i : Introspector}

theorem HasSettings.begin (h : i.HasSettings key config) (clock : Clock) (token : String) :
    (i.begin clock token).1.HasSettings key config := by
  refine ⟨(key_begin clock token i).trans h.key, ?_⟩
  unfold Introspector.begin
  split
  · exact h.config
  · rename_i cache hcache
    have hget := (Cache.config_get clock.elapsed (i.key token) cache).trans (h.config cache hcache)
    split
    · rename_i hfound
      rw [hfound] at hget
      exact .some hget
    · rename_i hfound
      rw [hfound] at hget
      split
      · exact .some ((Cache.config_erase _ _).trans hget)
      · exact .some hget

theorem HasSettings.complete (h : i.HasSettings key config) (clock : Clock) (token : String)
    (answer : Answer) : (i.complete clock token answer).1.HasSettings key config := by
  refine ⟨(key_complete clock token answer i).trans h.key, ?_⟩
  unfold Introspector.complete
  split
  · exact h.config
  · split
    · exact h.config
    · rename_i cache hcache
      split
      · exact .some ((Cache.config_insert _ _ _ _).trans (h.config cache hcache))
      · exact h.config

theorem HasSettings.purge (h : i.HasSettings key config) (now : Duration) :
    (i.purge now).1.HasSettings key config := by
  refine ⟨(key_purge now i).trans h.key, ?_⟩
  unfold Introspector.purge
  split
  · exact h.config
  · rename_i cache hcache
    exact .some ((Cache.config_purge _ _).trans (h.config cache hcache))

end

end ScopeGate.Introspector
