import ScopeGate.Proofs.Cache.History

/-!
# What a purge leaves

A purge collects the keys of the entries that are too old and then takes them out one after the
other, while the list of entries gets shorter. No two entries have the same key, so each key takes
the one entry with it from which it was collected, and no other entry moves
(`InOrder.entries_purge`). What is left are the entries that are not too old, as they were and in
their order.

Whoever looks for a key next cannot tell whether the cache has been purged: an entry that the purge
has dropped would have been passed over.
-/

namespace ScopeGate.Cache

variable {κ ν : Type}

/-- `c'` is what is left of the cache `c` when the entries older than the time to live are gone.
Each of these is counted, as `dropped` says, and nothing else is. -/
structure PurgesTo (now : Duration) (c c' : Cache κ ν) (dropped : Nat) : Prop where
  left : c' =
    { c with
      entries := c.entries.filter fun e => !e.isStale c.config.ttl now
      counters := { c.counters with expirations := c.counters.expirations + dropped } }
  counted : dropped = c.entries.countP (Entry.isStale c.config.ttl now)

variable [DecidableEq κ]

theorem InOrder.purgesTo {c : Cache κ ν} (h : c.InOrder) (now : Duration) :
    PurgesTo now c (c.purge now).1 (c.purge now).2 where
  left := by
    rw [← h.entries_purge, purge_eq]
  counted := by
    rw [purge_eq, staleKeys, List.length_map, List.countP_eq_length_filter]

/-- A look-up after a purge at the same time finds what it would have found before. -/
theorem InOrder.get_purge {c : Cache κ ν} (h : c.InOrder) (now : Duration) (k : κ) :
    ((c.purge now).1.get now k).2 = (c.get now k).2 := by
  apply Option.ext
  intro v
  rw [(h.purge now).get_eq_some_iff, h.get_eq_some_iff, config_purge, h.entries_purge]
  constructor
  · rintro ⟨e, he, hfound⟩
    exact ⟨e, (List.mem_filter.mp he).1, hfound⟩
  · rintro ⟨e, he, hkey, hvalue, hfresh⟩
    exact ⟨e, List.mem_filter.mpr ⟨he, by rw [hfresh]; rfl⟩, hkey, hvalue, hfresh⟩

theorem InOrder.staleKeys_purge {c : Cache κ ν} (h : c.InOrder) (now : Duration) :
    (c.purge now).1.staleKeys now = [] := by
  rw [staleKeys, config_purge, h.entries_purge, List.map_eq_nil_iff, List.filter_eq_nil_iff]
  intro e he
  simpa using (List.mem_filter.mp he).2

theorem InOrder.purge_purge {c : Cache κ ν} (h : c.InOrder) (now : Duration) :
    (c.purge now).1.purge now = ((c.purge now).1, 0) := by
  have hnone := h.staleKeys_purge now
  generalize (c.purge now).1 = c' at hnone ⊢
  rw [Cache.purge, hnone]
  rfl

/-- Whatever has happened to a cache and whenever it is purged, exactly the entries older than the
time to live are dropped, counted as expirations and reported; the others stay as they are and in
their order. No look-up at that time finds more or less than it would have found without the purge,
and a second purge at that time drops nothing. -/
theorem purge_drops_stale_unnoticed {start : Duration} {config : CacheConfig} {w : World κ ν}
    (hw : World.new? start config = some w) (events : List (Event κ ν)) (now : Duration) :
    let c := (w.run events).cache
    PurgesTo now c (c.purge now).1 (c.purge now).2
      ∧ (∀ k, ((c.purge now).1.get now k).2 = (c.get now k).2)
      ∧ (c.purge now).1.purge now = ((c.purge now).1, 0) := by
  intro c
  have hin : c.InOrder := (traced_run hw events).inOrder
  exact ⟨hin.purgesTo now, hin.get_purge now, hin.purge_purge now⟩

/-- The oldest of three values has been found in the meantime, so that its entry is neither the
first one nor the last. -/
def oldestInTheMiddle : List (Event String Nat) :=
  [.insert "a" 1, .advance ⟨30⟩, .insert "b" 2, .get "a", .insert "c" 3]

/-- Only the entry in the middle is dropped, and a look-up of its key would not have found it. -/
theorem middle_entry_purged :
    ∃ w, World.new? ⟨0⟩ ⟨3, ⟨50⟩⟩ = some w
      ∧ (w.run oldestInTheMiddle).cache.keys = ["c", "a", "b"]
      ∧ ((w.run oldestInTheMiddle).cache.purge ⟨60⟩).1.keys = ["c", "b"]
      ∧ ((w.run oldestInTheMiddle).cache.purge ⟨60⟩).2 = 1
      ∧ (((w.run oldestInTheMiddle).cache.purge ⟨60⟩).1.get ⟨60⟩ "a").2 = none
      ∧ (((w.run oldestInTheMiddle).cache.purge ⟨60⟩).1.purge ⟨60⟩).2 = 0 := by
  have hnew : World.new? ⟨0⟩ ⟨3, ⟨50⟩⟩ = some (⟨⟨0⟩, ⟨⟨3, ⟨50⟩⟩, [], {}⟩⟩ : World String Nat) := rfl
  obtain ⟨⟨hleft, hcounted⟩, hget, hagain⟩ :=
    purge_drops_stale_unnoticed hnew oldestInTheMiddle ⟨60⟩
  refine ⟨_, hnew, by decide, ?_, hcounted.trans (by decide), (hget "a").trans (by decide), ?_⟩
  · rw [hleft]
    decide
  · rw [hagain]

end ScopeGate.Cache
