import Mathlib.Data.List.Nodup
import ScopeGate.Proofs.Cache.Entries

/-!
# Places in a cache

A cache is in order when no two of its entries have the same key and it holds no more of them than
it may. Every operation keeps it so.

In such a cache the entry of a key has one place, with the more recent entries before it and the
others after it. Each operation on a key is read off that place: a hit takes the entry out of it and
puts it in front, an entry that is too old is taken out, and the entries around it stay in their
order.
-/

namespace ScopeGate.Cache

variable {κ ν : Type}

/-- The keys of the entries, the most recent first. -/
def keys (c : Cache κ ν) : List κ := c.entries.map Entry.key

theorem mem_keys_of_mem {c : Cache κ ν} {e : Entry κ ν} (h : e ∈ c.entries) : e.key ∈ c.keys :=
  List.mem_map_of_mem h

/-- The cache has one entry for a key at most, and no more entries than it may. -/
structure InOrder (c : Cache κ ν) : Prop where
  nodup_keys : c.keys.Nodup
  size_le : c.size ≤ c.config.capacity

theorem inOrder_new? {config : CacheConfig} {c : Cache κ ν} (h : new? config = some c) :
    c.InOrder := by
  obtain ⟨-, hentries⟩ := entries_of_new? h
  constructor
  · rw [keys, hentries]
    exact List.nodup_nil
  · rw [size, hentries]
    exact Nat.zero_le _

theorem capacity_pos_of_new? {config : CacheConfig} {c : Cache κ ν} (h : new? config = some c) :
    0 < config.capacity := by
  unfold new? at h
  split at h
  · rename_i henabled
    simpa [CacheConfig.isEnabled, Nat.pos_iff_ne_zero] using henabled
  · cases h

theorem InOrder.of_sublist {c : Cache κ ν} (h : c.InOrder) {entries : List (Entry κ ν)}
    {counters : Counters} (hsub : entries.Sublist c.entries) :
    (Cache.mk c.config entries counters).InOrder where
  nodup_keys := h.nodup_keys.sublist (hsub.map Entry.key)
  size_le := Nat.le_trans hsub.length_le h.size_le

theorem InOrder.entry_unique {c : Cache κ ν} (h : c.InOrder) {e e' : Entry κ ν}
    (he : e ∈ c.entries) (he' : e' ∈ c.entries) (hkey : e.key = e'.key) : e = e' :=
  List.inj_on_of_nodup_map h.nodup_keys he he' hkey

/-- An entry goes with the keys that a purge collects exactly if it is too old, since no other entry
has its key. -/
theorem InOrder.mem_staleKeys_iff {c : Cache κ ν} (h : c.InOrder) {now : Duration} {e : Entry κ ν}
    (he : e ∈ c.entries) :
    e.key ∈ c.staleKeys now ↔ e.isStale c.config.ttl now = true := by
  constructor
  · intro hkey
    obtain ⟨e', he', hsame⟩ := List.mem_map.mp hkey
    obtain ⟨hmem, hstale⟩ := List.mem_filter.mp he'
    rwa [← h.entry_unique hmem he hsame]
  · intro hstale
    exact List.mem_map_of_mem (List.mem_filter.mpr ⟨he, hstale⟩)

variable [DecidableEq κ]

theorem InOrder.entries_purge {c : Cache κ ν} (h : c.InOrder) (now : Duration) :
    (c.purge now).1.entries = c.entries.filter fun e => !e.isStale c.config.ttl now := by
  rw [purge_eq]
  apply List.filter_congr
  intro e he
  simp [h.mem_staleKeys_iff he]

theorem InOrder.purge {c : Cache κ ν} (h : c.InOrder) (now : Duration) :
    (c.purge now).1.InOrder := by
  rw [purge_eq]
  exact h.of_sublist List.filter_sublist

theorem others_sublist (k : κ) (c : Cache κ ν) : (c.others k).Sublist c.entries :=
  List.filter_sublist

theorem InOrder.find?_eq_some_iff {c : Cache κ ν} (h : c.InOrder) {k : κ} {e : Entry κ ν} :
    c.find? k = some e ↔ e ∈ c.entries ∧ e.key = k := by
  refine ⟨mem_of_find?_eq_some, ?_⟩
  rintro ⟨hmem, hkey⟩
  cases hfind : c.find? k with
  | none => exact absurd hkey (key_ne_of_find?_eq_none hfind hmem)
  | some e' =>
    obtain ⟨hmem', hkey'⟩ := mem_of_find?_eq_some hfind
    rw [h.entry_unique hmem' hmem (hkey'.trans hkey.symm)]

/-- The entry of a key, between the entries that are more recent and the others. -/
theorem InOrder.exists_place {c : Cache κ ν} (h : c.InOrder) {k : κ} {e : Entry κ ν}
    (he : c.find? k = some e) :
    ∃ before after, c.entries = before ++ e :: after ∧ c.others k = before ++ after := by
  obtain ⟨hmem, hkey⟩ := mem_of_find?_eq_some he
  obtain ⟨before, after, hplace⟩ := List.append_of_mem hmem
  refine ⟨before, after, hplace, ?_⟩
  have hnodup := h.nodup_keys
  rw [keys, hplace, List.map_append, List.map_cons, List.nodup_append, List.nodup_cons] at hnodup
  obtain ⟨-, ⟨hafter, -⟩, hbefore⟩ := hnodup
  have hkept : ∀ x ∈ before ++ after, (!decide (x.key = k)) = true := by
    intro x hx
    rw [Bool.not_eq_true', decide_eq_false_iff_not, ← hkey]
    rcases List.mem_append.mp hx with hx | hx
    · exact hbefore _ (List.mem_map_of_mem hx) _ List.mem_cons_self
    · intro hxe
      exact hafter (hxe ▸ List.mem_map_of_mem hx)
  rw [others, hplace, List.filter_append, List.filter_cons_of_neg (by simp [hkey]),
    ← List.filter_append, List.filter_eq_self.mpr hkept]

theorem nodup_keys_cons_others {c : Cache κ ν} (h : c.InOrder) {k : κ} {e : Entry κ ν}
    (hkey : e.key = k) : ((e :: c.others k).map Entry.key).Nodup := by
  rw [List.map_cons, List.nodup_cons]
  refine ⟨?_, h.nodup_keys.sublist ((others_sublist k c).map Entry.key)⟩
  rw [List.mem_map]
  rintro ⟨x, hx, hxe⟩
  exact key_ne_of_mem_others hx (hxe.trans hkey)

theorem InOrder.length_others {c : Cache κ ν} (h : c.InOrder) {k : κ} (hk : k ∈ c.keys) :
    (c.others k).length + 1 = c.size := by
  obtain ⟨e, he, rfl⟩ := List.mem_map.mp hk
  obtain ⟨before, after, hplace, hothers⟩ := h.exists_place (h.find?_eq_some_iff.mpr ⟨he, rfl⟩)
  rw [hothers, size, hplace, List.length_append, List.length_append, List.length_cons]
  rfl

theorem InOrder.erase {c : Cache κ ν} (h : c.InOrder) (k : κ) : (c.erase k).1.InOrder :=
  h.of_sublist (others_sublist k c)

theorem find?_eq_none_iff {k : κ} {c : Cache κ ν} : c.find? k = none ↔ k ∉ c.keys := by
  simp [Cache.find?, keys]

theorem others_eq_self {k : κ} {c : Cache κ ν} (h : k ∉ c.keys) : c.others k = c.entries := by
  rw [others, List.filter_eq_self]
  intro e he
  simpa using fun hkey : e.key = k => h (hkey ▸ mem_keys_of_mem he)

/-- An insertion drops no other entry while the key has one already or the cache has room. -/
theorem insert_of_room {c : Cache κ ν} {k : κ} (h : k ∈ c.keys ∨ c.size < c.config.capacity)
    (now : Duration) (v : ν) :
    c.insert now k v = { c with entries := ⟨k, v, now⟩ :: c.others k } := by
  unfold Cache.insert
  dsimp only
  split
  · rfl
  · rename_i hnew
    have hkey : k ∉ c.keys := find?_eq_none_iff.mp (by simpa using hnew)
    rw [if_pos (h.resolve_left hkey), others_eq_self hkey]

/-- An insertion of a new key into a full cache drops the last entry. -/
theorem insert_of_full {c : Cache κ ν} (hpos : 0 < c.config.capacity) {k : κ}
    (hkey : k ∉ c.keys) (hfull : c.size = c.config.capacity) (now : Duration) (v : ν) :
    ∃ front e, c.entries = front ++ [e]
      ∧ c.insert now k v =
        { c with
          entries := ⟨k, v, now⟩ :: front
          counters := { c.counters with evictions := c.counters.evictions + 1 } } := by
  have hne : c.entries ≠ [] := by
    intro hnil
    rw [size, hnil, List.length_nil] at hfull
    omega
  refine ⟨c.entries.dropLast, c.entries.getLast hne, (List.dropLast_append_getLast hne).symm, ?_⟩
  unfold Cache.insert
  rw [find?_eq_none_iff.mpr hkey, if_neg (by simp), if_neg (by omega)]

theorem InOrder.get {c : Cache κ ν} (h : c.InOrder) (now : Duration) (k : κ) :
    (c.get now k).1.InOrder := by
  cases hfind : c.find? k with
  | none =>
    rw [get_of_absent hfind]
    exact h.of_sublist (List.Sublist.refl _)
  | some e =>
    obtain ⟨he, hkey⟩ := mem_of_find?_eq_some hfind
    cases hstale : e.isStale c.config.ttl now with
    | true =>
      rw [get_of_stale hfind hstale]
      exact h.of_sublist (others_sublist k c)
    | false =>
      rw [get_of_fresh hfind hstale]
      refine ⟨nodup_keys_cons_others h hkey, ?_⟩
      exact Nat.le_trans (Nat.le_of_eq (h.length_others (hkey ▸ mem_keys_of_mem he))) h.size_le

/-- Either an insertion drops no other entry, or the key is new and the last entry gives way. -/
theorem InOrder.insert_cases {c : Cache κ ν} (h : c.InOrder) (hpos : 0 < c.config.capacity)
    (now : Duration) (k : κ) (v : ν) :
    ((k ∈ c.keys ∨ c.size < c.config.capacity)
        ∧ c.insert now k v = { c with entries := ⟨k, v, now⟩ :: c.others k })
      ∨ (k ∉ c.keys ∧ c.size = c.config.capacity ∧ ∃ front e, c.entries = front ++ [e]
        ∧ c.insert now k v =
          { c with
            entries := ⟨k, v, now⟩ :: front
            counters := { c.counters with evictions := c.counters.evictions + 1 } }) := by
  by_cases hroom : k ∈ c.keys ∨ c.size < c.config.capacity
  · exact .inl ⟨hroom, insert_of_room hroom now v⟩
  · obtain ⟨hkey, hfull⟩ := not_or.mp hroom
    have hsize : c.size = c.config.capacity := Nat.le_antisymm h.size_le (Nat.not_lt.mp hfull)
    exact .inr ⟨hkey, hsize, insert_of_full hpos hkey hsize now v⟩

theorem InOrder.insert {c : Cache κ ν} (h : c.InOrder) (hpos : 0 < c.config.capacity)
    (now : Duration) (k : κ) (v : ν) : (c.insert now k v).InOrder := by
  rcases h.insert_cases hpos now k v with
    ⟨hroom, hinsert⟩ | ⟨hkey, hsize, front, e, hplace, hinsert⟩
  · rw [hinsert]
    refine ⟨nodup_keys_cons_others h rfl, ?_⟩
    rcases hroom with hkey | hroom
    · exact Nat.le_trans (Nat.le_of_eq (h.length_others hkey)) h.size_le
    · exact Nat.lt_of_le_of_lt (others_sublist k c).length_le hroom
  · have hnodup := h.nodup_keys
    rw [keys, hplace, List.map_append, List.nodup_append] at hnodup
    rw [keys, hplace, List.map_append, List.mem_append, not_or] at hkey
    rw [size, hplace, List.length_append, List.length_singleton] at hsize
    rw [hinsert]
    exact ⟨List.nodup_cons.mpr ⟨hkey.1, hnodup.1⟩, Nat.le_of_eq hsize⟩

/-- What a look-up does to the entries and what it gives, by the place of the entry: an entry that
is too old leaves its place, a fresh one moves to the front as it is, and the entries around it stay
in their order. -/
theorem InOrder.get_of_place {c : Cache κ ν} (h : c.InOrder) (now : Duration) {k : κ}
    {e : Entry κ ν} (he : c.find? k = some e) :
    ∃ before after, c.entries = before ++ e :: after
      ∧ (c.get now k).1.entries =
        (if e.isStale c.config.ttl now then before ++ after else e :: (before ++ after))
      ∧ (c.get now k).2 = if e.isStale c.config.ttl now then none else some e.value := by
  obtain ⟨before, after, hplace, hothers⟩ := h.exists_place he
  refine ⟨before, after, hplace, ?_⟩
  rw [← hothers]
  cases hstale : e.isStale c.config.ttl now with
  | true =>
    rw [get_of_stale he hstale]
    exact ⟨rfl, rfl⟩
  | false =>
    rw [get_of_fresh he hstale]
    exact ⟨rfl, rfl⟩

/-- A look-up gives the value of the key's entry, if that is not too old. -/
theorem InOrder.get_eq_some_iff {c : Cache κ ν} (h : c.InOrder) (now : Duration) {k : κ} {v : ν} :
    (c.get now k).2 = some v ↔
      ∃ e ∈ c.entries, e.key = k ∧ e.value = v ∧ e.isStale c.config.ttl now = false := by
  refine ⟨exists_mem_of_get_eq_some, ?_⟩
  rintro ⟨e, hmem, hkey, rfl, hfresh⟩
  obtain ⟨_, _, _, _, hfound⟩ := h.get_of_place now (h.find?_eq_some_iff.mpr ⟨hmem, hkey⟩)
  rw [hfound, hfresh]
  rfl

/-- A look-up that finds nothing leaves no entry of the key, and the others as they were. -/
theorem entries_of_get_eq_none {now : Duration} {k : κ} {c : Cache κ ν}
    (h : (c.get now k).2 = none) : (c.get now k).1.entries = c.others k := by
  cases hfind : c.find? k with
  | none =>
    rw [get_of_absent hfind]
    exact (others_eq_self (find?_eq_none_iff.mp hfind)).symm
  | some e =>
    cases hstale : e.isStale c.config.ttl now with
    | true => rw [get_of_stale hfind hstale]
    | false =>
      rw [get_of_fresh hfind hstale] at h
      cases h

theorem others_get (now : Duration) (k : κ) (c : Cache κ ν) :
    (c.get now k).1.others k = c.others k := by
  cases hfind : c.find? k with
  | none => rw [get_of_absent hfind]; rfl
  | some e =>
    have hkey := (mem_of_find?_eq_some hfind).2
    cases hstale : e.isStale c.config.ttl now with
    | true =>
      rw [get_of_stale hfind hstale]
      simp [others, List.filter_filter]
    | false =>
      rw [get_of_fresh hfind hstale]
      simp [others, List.filter_filter, hkey]

theorem InOrder.isStale_of_get_eq_none {c : Cache κ ν} (h : c.InOrder) {now : Duration} {k : κ}
    (hnone : (c.get now k).2 = none) {e : Entry κ ν} (he : e ∈ c.entries) (hkey : e.key = k) :
    e.isStale c.config.ttl now = true := by
  cases hstale : e.isStale c.config.ttl now with
  | true => rfl
  | false =>
    have hfound := (h.get_eq_some_iff now).mpr ⟨e, he, hkey, rfl, hstale⟩
    rw [hnone] at hfound
    cases hfound

/-- What a look-up that finds nothing leaves of a cache: an entry of the key is gone if it is too
old, and it has been counted. -/
def missed (now : Duration) (k : κ) (c : Cache κ ν) : Cache κ ν :=
  let gone (e : Entry κ ν) : Bool := decide (e.key = k) && e.isStale c.config.ttl now
  { c with
    entries := c.entries.filter fun e => !gone e
    counters :=
      { c.counters with
        misses := c.counters.misses + 1
        expirations := c.counters.expirations + c.entries.countP gone } }

theorem InOrder.get_eq_missed {c : Cache κ ν} (h : c.InOrder) {now : Duration} {k : κ}
    (hnone : (c.get now k).2 = none) : (c.get now k).1 = c.missed now k := by
  have hgone : ∀ e ∈ c.entries,
      (decide (e.key = k) && e.isStale c.config.ttl now) = decide (e.key = k) := by
    intro e he
    by_cases hkey : e.key = k
    · simp [hkey, h.isStale_of_get_eq_none hnone he hkey]
    · simp [hkey]
  have hothers : c.entries.filter
      (fun e => !(decide (e.key = k) && e.isStale c.config.ttl now)) = c.others k :=
    List.filter_congr fun e he => congrArg Bool.not (hgone e he)
  have hcount : c.entries.countP (fun e => decide (e.key = k) && e.isStale c.config.ttl now)
      + (c.others k).length = c.size := by
    rw [← hothers, ← List.countP_eq_length_filter, size,
      List.length_eq_countP_add_countP
        (fun e => decide (e.key = k) && e.isStale c.config.ttl now)]
    simp
  rw [missed, hothers]
  cases hfind : c.find? k with
  | none =>
    have hkey := find?_eq_none_iff.mp hfind
    rw [others_eq_self hkey, size] at hcount
    rw [get_of_absent hfind, others_eq_self hkey]
    simp only [Nat.add_eq_right.mp hcount, Nat.add_zero]
  | some e =>
    obtain ⟨he, hkey⟩ := mem_of_find?_eq_some hfind
    have hone := h.length_others (hkey ▸ mem_keys_of_mem he)
    have hstale := h.isStale_of_get_eq_none hnone he hkey
    rw [get_of_stale hfind hstale]
    rw [← hone, Nat.add_comm, Nat.add_left_cancel_iff] at hcount
    simp only [hcount]

def Ordered (c? : Option (Cache κ ν)) : Prop :=
  ∀ c, c? = some c → c.InOrder ∧ 0 < c.config.capacity

omit [DecidableEq κ] in
theorem ordered_new? (config : CacheConfig) : Ordered (new? config : Option (Cache κ ν)) := by
  intro c h
  refine ⟨inOrder_new? h, ?_⟩
  rw [(entries_of_new? h).1]
  exact capacity_pos_of_new? h

omit [DecidableEq κ] in
theorem Ordered.some {c : Cache κ ν} (h : c.InOrder) (hpos : 0 < c.config.capacity) :
    Ordered (some c) := by
  intro c' h'
  cases h'
  exact ⟨h, hpos⟩

end ScopeGate.Cache
