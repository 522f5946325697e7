import ScopeGate.Proofs.Cache.Places
import ScopeGate.Proofs.Introspection.Entries

/-!
# What a lookup takes out of the cache

The first half of a lookup drops an entry under its own key that is of no use any more, because it
is too old or because the token has expired. It touches no other entry: what is left are the other
entries in their order. This holds of a cache that is in order, and no lookup brings it out of
order.
-/

namespace ScopeGate.Introspector

def Ordered (i : Introspector) : Prop := Cache.Ordered i.cache

theorem ordered_keyed (key : String → Octets) (config : CacheConfig) : (keyed key config).Ordered :=
  Cache.ordered_new? config

theorem Ordered.begin {i : Introspector} (h : i.Ordered) (clock : Clock) (token : String) :
    (i.begin clock token).1.Ordered := by
  unfold Introspector.begin
  split
  · exact h
  · rename_i cache hcache
    obtain ⟨hin, hpos⟩ := h cache hcache
    have hget := hin.get clock.elapsed (i.key token)
    have hconfig := Cache.config_get clock.elapsed (i.key token) cache
    split
    · rename_i hfound
      rw [hfound] at hget hconfig
      exact .some hget (hconfig ▸ hpos)
    · rename_i hfound
      rw [hfound] at hget hconfig
      split
      · exact .some (hget.erase (i.key token)) (hconfig ▸ hpos)
      · exact .some hget (hconfig ▸ hpos)

theorem Ordered.complete {i : Introspector} (h : i.Ordered) (clock : Clock) (token : String)
    (answer : Answer) : (i.complete clock token answer).1.Ordered := by
  unfold Introspector.complete
  split
  · exact h
  · split
    · exact h
    · rename_i v _ cache hcache
      obtain ⟨hin, hpos⟩ := h cache hcache
      split
      · refine .some (hin.insert hpos clock.elapsed (i.key token) v) ?_
        rwa [Cache.config_insert]
      · exact h

theorem Ordered.purge {i : Introspector} (h : i.Ordered) (now : Duration) :
    (i.purge now).1.Ordered := by
  unfold Introspector.purge
  split
  · exact h
  · rename_i cache hcache
    obtain ⟨hin, hpos⟩ := h cache hcache
    refine .some (hin.purge now) ?_
    rwa [Cache.config_purge]

/-- The entry stands under the key and is of no use: it is too old, or its token has expired. -/
def isSpent (config : CacheConfig) (clock : Clock) (key : Octets) (x : Cache.Entry Octets Verdict) :
    Bool :=
  decide (x.key = key) && (x.isStale config.ttl clock.elapsed || x.value.isExpiredAt clock.now)

/-- A lookup that turns to the provider has dropped the entry under its key, and that was of no use.
-/
theorem entries_begin_of_unserved {key : String → Octets} {config : CacheConfig} {i : Introspector}
    (h : i.Ordered) (hsettings : i.HasSettings key config) {clock : Clock} {token : String}
    (hunserved : (i.begin clock token).2 = none) :
    (i.begin clock token).1.entries
      = i.entries.filter fun x => !isSpent config clock (key token) x := by
  obtain ⟨c?, made⟩ := i
  obtain rfl : key = made := hsettings.key.symm
  cases c? with
  | none => rfl
  | some cache =>
    obtain ⟨hin, -⟩ := h cache rfl
    have hconfig : cache.config = config := hsettings.config cache rfl
    -- What is left are the entries under other keys, so it is to be shown that one under the key is
    -- of no use.
    suffices hleft : (begin clock token ⟨some cache, key⟩).1.entries = cache.others (key token)
        ∧ ∀ x ∈ cache.entries, x.key = key token →
          (x.isStale config.ttl clock.elapsed || x.value.isExpiredAt clock.now) = true by
      rw [hleft.1, entries_some, Cache.others]
      apply List.filter_congr
      intro x hx
      by_cases hkey : x.key = key token
      · simp [isSpent, hkey, hleft.2 x hx hkey]
      · simp [isSpent, hkey]
    have hothers := cache.others_get clock.elapsed (key token)
    unfold begin at hunserved ⊢
    rcases hget : cache.get clock.elapsed (key token) with ⟨cache', found⟩
    rw [hget] at hothers
    simp only [hget] at hunserved ⊢
    cases found with
    | none =>
      have hnone : (cache.get clock.elapsed (key token)).2 = none := by rw [hget]
      refine ⟨?_, ?_⟩
      · have hentries := Cache.entries_of_get_eq_none hnone
        rwa [hget] at hentries
      · intro x hx hkey
        rw [← hconfig, hin.isStale_of_get_eq_none hnone hx hkey, Bool.true_or]
    | some v =>
      have hsome : (cache.get clock.elapsed (key token)).2 = some v := by rw [hget]
      cases hexpired : v.isExpiredAt clock.now with
      | false => simp [hexpired] at hunserved
      | true =>
        simp only [hexpired, if_true]
        refine ⟨hothers, ?_⟩
        intro x hx hkey
        obtain ⟨e, he, hown, rfl, -⟩ := Cache.exists_mem_of_get_eq_some hsome
        rw [hin.entry_unique hx he (hkey.trans hown.symm), hexpired, Bool.or_true]

end ScopeGate.Introspector
