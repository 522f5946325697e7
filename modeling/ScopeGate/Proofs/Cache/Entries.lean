import ScopeGate.Cache.Basic

/-!
# Where the entries of a cache come from

No operation makes up an entry. A lookup, a purge and an erasure only drop entries, and what an
insertion adds is the entry that it was asked to add, in place of the one of the same key. A lookup
that finds a value finds it in an entry that is not too old.

A cache may be turned off. `entriesOf` and `Configured` speak of a cache that may be: it has no
entries and any settings.
-/

namespace ScopeGate.Cache

variable {κ ν : Type}

/-- An entry that is not stale was stored no longer ago than the time to live. -/
theorem Entry.le_of_isStale_eq_false {ttl now : Duration} {e : Entry κ ν}
    (h : e.isStale ttl now = false) : now.nanos ≤ e.storedAt.nanos + ttl.nanos := by
  have hage := of_decide_eq_false h
  omega

def entriesOf : Option (Cache κ ν) → List (Entry κ ν)
  | none => []
  | some c => c.entries

def Configured (config : CacheConfig) (c? : Option (Cache κ ν)) : Prop :=
  ∀ c, c? = some c → c.config = config

theorem entries_of_new? {config : CacheConfig} {c : Cache κ ν} (h : new? config = some c) :
    c.config = config ∧ c.entries = [] := by
  unfold new? at h
  split at h
  · cases h
    exact ⟨rfl, rfl⟩
  · cases h

theorem entriesOf_new? (config : CacheConfig) :
    entriesOf (new? config : Option (Cache κ ν)) = [] := by
  cases h : (new? config : Option (Cache κ ν)) with
  | none => rfl
  | some c => exact (entries_of_new? h).2

theorem configured_new? (config : CacheConfig) :
    Configured config (new? config : Option (Cache κ ν)) :=
  fun _ h => (entries_of_new? h).1

theorem Configured.some {config : CacheConfig} {c : Cache κ ν} (h : c.config = config) :
    Configured config (some c) := by
  intro _ h'
  rw [← Option.some.inj h', h]

variable [DecidableEq κ]

/-- A purge in one go: the entries under the keys that were collected are left out. -/
theorem purge_eq (now : Duration) (c : Cache κ ν) :
    c.purge now =
      ({ c with
          entries := c.entries.filter fun e => e.key ∉ c.staleKeys now
          counters :=
            { c.counters with
              expirations := c.counters.expirations + (c.staleKeys now).length } },
        (c.staleKeys now).length) := by
  simp only [purge, eraseAll_eq]

theorem config_purge (now : Duration) (c : Cache κ ν) : (c.purge now).1.config = c.config := by
  rw [purge_eq]

theorem purge_sublist (now : Duration) (c : Cache κ ν) :
    (c.purge now).1.entries.Sublist c.entries := by
  rw [purge_eq]
  exact List.filter_sublist

theorem mem_of_mem_purge {now : Duration} {c : Cache κ ν} {e : Entry κ ν}
    (h : e ∈ (c.purge now).1.entries) : e ∈ c.entries :=
  (purge_sublist now c).subset h

theorem mem_others_iff {k : κ} {c : Cache κ ν} {e : Entry κ ν} :
    e ∈ c.others k ↔ e ∈ c.entries ∧ e.key ≠ k := by
  simp [others]

theorem mem_erase_iff {k : κ} {c : Cache κ ν} {e : Entry κ ν} :
    e ∈ (c.erase k).1.entries ↔ e ∈ c.entries ∧ e.key ≠ k :=
  mem_others_iff

theorem mem_of_find?_eq_some {k : κ} {c : Cache κ ν} {e : Entry κ ν} (h : c.find? k = some e) :
    e ∈ c.entries ∧ e.key = k := by
  refine ⟨List.mem_of_find?_eq_some h, ?_⟩
  simpa using List.find?_some h

theorem key_ne_of_find?_eq_none {k : κ} {c : Cache κ ν} (h : c.find? k = none) {e : Entry κ ν}
    (he : e ∈ c.entries) : e.key ≠ k := by
  simpa using List.find?_eq_none.mp h e he

theorem get_of_absent {k : κ} {c : Cache κ ν} (h : c.find? k = none) (now : Duration) :
    c.get now k = ({ c with counters := { c.counters with misses := c.counters.misses + 1 } }, none)
      := by
  simp only [get, h]

theorem get_of_stale {now : Duration} {k : κ} {c : Cache κ ν} {e : Entry κ ν}
    (h : c.find? k = some e) (hstale : e.isStale c.config.ttl now = true) :
    c.get now k =
      ({ c with
          entries := c.others k
          counters :=
            { c.counters with
              misses := c.counters.misses + 1
              expirations := c.counters.expirations + 1 } },
        none) := by
  simp only [get, h, hstale, if_true]

theorem get_of_fresh {now : Duration} {k : κ} {c : Cache κ ν} {e : Entry κ ν}
    (h : c.find? k = some e) (hfresh : e.isStale c.config.ttl now = false) :
    c.get now k =
      ({ c with
          entries := e :: c.others k
          counters := { c.counters with hits := c.counters.hits + 1 } },
        some e.value) := by
  simp only [get, h, hfresh, Bool.false_eq_true, if_false]

theorem mem_of_mem_get {now : Duration} {k : κ} {c : Cache κ ν} {e : Entry κ ν}
    (h : e ∈ (c.get now k).1.entries) : e ∈ c.entries := by
  unfold get at h
  split at h
  · exact h
  · rename_i found hfound
    split at h
    · exact (mem_others_iff.mp h).1
    · rcases List.mem_cons.mp h with rfl | h
      · exact (mem_of_find?_eq_some hfound).1
      · exact (mem_others_iff.mp h).1

/-- The value that a lookup finds stands in an entry under the key that is not stale. -/
theorem exists_mem_of_get_eq_some {now : Duration} {k : κ} {c : Cache κ ν} {v : ν}
    (h : (c.get now k).2 = some v) :
    ∃ e ∈ c.entries, e.key = k ∧ e.value = v ∧ e.isStale c.config.ttl now = false := by
  unfold get at h
  split at h
  · cases h
  · rename_i found hfound
    obtain ⟨hmem, hkey⟩ := mem_of_find?_eq_some hfound
    split at h
    · cases h
    · rename_i hstale
      exact ⟨found, hmem, hkey, Option.some.inj h, by simpa using hstale⟩

/-- An entry after an insertion is the new one, or one under another key that was there before. -/
theorem eq_or_mem_of_mem_insert {now : Duration} {k : κ} {v : ν} {c : Cache κ ν} {e : Entry κ ν}
    (h : e ∈ (c.insert now k v).entries) :
    e = ⟨k, v, now⟩ ∨ (e ∈ c.entries ∧ e.key ≠ k) := by
  unfold insert at h
  dsimp only at h
  split at h
  · rcases List.mem_cons.mp h with he | he
    · exact .inl he
    · exact .inr (mem_others_iff.mp he)
  · rename_i hnew
    have hnone : c.find? k = none := by simpa using hnew
    split at h
    · rcases List.mem_cons.mp h with he | he
      · exact .inl he
      · exact .inr ⟨he, key_ne_of_find?_eq_none hnone he⟩
    · rcases List.mem_cons.mp h with he | he
      · exact .inl he
      · have hmem := List.dropLast_subset c.entries he
        exact .inr ⟨hmem, key_ne_of_find?_eq_none hnone hmem⟩

end ScopeGate.Cache
