import ScopeGate.Cache.Schedule
import ScopeGate.Proofs.Cache.Places
import ScopeGate.Proofs.Run.Moments

/-!
# What a cache holds, told by its history

The entries of a cache are told by its past alone: they are the values that were stored under their
keys last and have been in the cache ever since. `Keeps` says what a moment must not do to an entry,
and `KeptSince` that no moment since the insertion did. Looking a key up is not among these things,
and it leaves the age of every entry alone. So what a look-up finds was stored no longer ago than
the time to live, however often it has been found in between.
-/

namespace ScopeGate.Cache

variable {κ ν : Type} [DecidableEq κ]

namespace World

def history (w : World κ ν) (events : List (Event κ ν)) : List (Moment (World κ ν) (Event κ ν)) :=
  moments next w events

theorem cache_next_get (w : World κ ν) (k : κ) :
    (w.next (.get k)).cache = (w.cache.get w.now k).1 := rfl

theorem reply_get (w : World κ ν) (k : κ) :
    w.reply (.get k) = .got (w.cache.get w.now k).2 := rfl

/-- The entries after an event: one that the event has stored, or one that it has neither replaced
nor taken out. -/
theorem mem_entries_next {w : World κ ν} {ev : Event κ ν} {e : Entry κ ν}
    (h : e ∈ (w.next ev).cache.entries) :
    (ev = .insert e.key e.value ∧ e.storedAt = w.now)
      ∨ (e ∈ w.cache.entries ∧ (∀ v, ev ≠ .insert e.key v) ∧ ev ≠ .erase e.key) := by
  cases ev with
  | get k => exact .inr ⟨mem_of_mem_get h, by simp, by simp⟩
  | insert k v =>
    rcases eq_or_mem_of_mem_insert h with rfl | ⟨hmem, hkey⟩
    · exact .inl ⟨rfl, rfl⟩
    · exact .inr ⟨hmem, by simp [Ne.symm hkey], by simp⟩
  | erase k =>
    obtain ⟨hmem, hkey⟩ := mem_erase_iff.mp h
    exact .inr ⟨hmem, by simp, by simp [Ne.symm hkey]⟩
  | purge => exact .inr ⟨mem_of_mem_purge h, by simp, by simp⟩
  | advance d => exact .inr ⟨h, by simp, by simp⟩

theorem mem_entries_next_insert (w : World κ ν) (k : κ) (v : ν) :
    ⟨k, v, w.now⟩ ∈ (w.next (.insert k v)).cache.entries := by
  change _ ∈ (w.cache.insert w.now k v).entries
  unfold Cache.insert
  dsimp only
  split
  · exact List.mem_cons_self
  · split <;> exact List.mem_cons_self

theorem config_next (w : World κ ν) (ev : Event κ ν) :
    (w.next ev).cache.config = w.cache.config := by
  cases ev with
  | get k => exact config_get _ _ _
  | insert k v => exact config_insert _ _ _ _
  | erase k => rfl
  | purge => exact config_purge _ _
  | advance d => rfl

omit [DecidableEq κ] in
theorem capacity_pos_of_new? {now : Duration} {config : CacheConfig} {w : World κ ν}
    (hw : new? now config = some w) : 0 < config.capacity := by
  unfold new? at hw
  obtain ⟨c, hc, -⟩ := Option.map_eq_some_iff.mp hw
  exact Cache.capacity_pos_of_new? hc

theorem inOrder_next {w : World κ ν} (h : w.cache.InOrder) (hpos : 0 < w.cache.config.capacity)
    (ev : Event κ ν) : (w.next ev).cache.InOrder := by
  cases ev with
  | get k => exact h.get _ _
  | insert k v => exact h.insert hpos _ _ _
  | erase k => exact h.erase _
  | purge => exact h.purge _
  | advance d => exact h

end World

def StoresAt (k : κ) (v : ν) (t : Duration) (m : Moment (World κ ν) (Event κ ν)) : Prop :=
  m.event = .insert k v ∧ m.state.now = t

/-- The moment takes the entry of the key out: because it was asked to, because the entry is too
old, or to make room for another. -/
def Drops (k : κ) (m : Moment (World κ ν) (Event κ ν)) : Prop :=
  k ∈ m.state.cache.keys ∧ k ∉ (m.state.next m.event).cache.keys

/-- The moment stores nothing under the key and leaves its entry in the cache. -/
def Keeps (k : κ) (m : Moment (World κ ν) (Event κ ν)) : Prop :=
  (∀ v, m.event ≠ .insert k v) ∧ m.event ≠ .erase k ∧ ¬ Drops k m

/-- The value was stored under the key at the moment `i`, when the clock showed `t`, and it has been
in the cache since. -/
def KeptSince (k : κ) (v : ν) (t : Duration) (ms : List (Moment (World κ ν) (Event κ ν)))
    (i : Nat) : Prop :=
  Since (StoresAt k v t) (Keeps k) ms i

structure Traced (config : CacheConfig) (past : List (Moment (World κ ν) (Event κ ν)))
    (w : World κ ν) : Prop where
  config_eq : w.cache.config = config
  inOrder : w.cache.InOrder
  mem_entries_iff : ∀ e : Entry κ ν,
    e ∈ w.cache.entries ↔ ∃ i, KeptSince e.key e.value e.storedAt past i

variable {config : CacheConfig}

theorem traced_new? {now : Duration} {w : World κ ν} (hw : World.new? now config = some w) :
    Traced config [] w := by
  unfold World.new? at hw
  obtain ⟨c, hc, rfl⟩ := Option.map_eq_some_iff.mp hw
  obtain ⟨hconfig, hentries⟩ := entries_of_new? hc
  refine ⟨hconfig, inOrder_new? hc, ?_⟩
  intro e
  have hnone : e ∉ c.entries := by simp [hentries]
  refine ⟨fun he => absurd he hnone, ?_⟩
  rintro ⟨i, hi⟩
  exact absurd hi (not_since_nil _ _ i)

/-- An entry is in the cache after an event exactly if the event stores it or keeps it. -/
theorem Traced.mem_entries_next_iff {past : List (Moment (World κ ν) (Event κ ν))} {w : World κ ν}
    (h : Traced config past w) (ev : Event κ ν) (e : Entry κ ν) :
    e ∈ (w.next ev).cache.entries ↔
      StoresAt e.key e.value e.storedAt ⟨w, ev⟩ ∨ (e ∈ w.cache.entries ∧ Keeps e.key ⟨w, ev⟩) := by
  constructor
  · intro he
    rcases World.mem_entries_next he with ⟨hev, ht⟩ | ⟨hold, hinsert, herase⟩
    · exact .inl ⟨hev, ht.symm⟩
    · exact .inr ⟨hold, hinsert, herase, fun hdrops => hdrops.2 (mem_keys_of_mem he)⟩
  · rintro (⟨hev, ht⟩ | ⟨hold, hinsert, -, hdrops⟩)
    · obtain ⟨k, v, t⟩ := e
      dsimp only at hev ht
      rw [hev, ← ht]
      exact w.mem_entries_next_insert k v
    · have hkey : e.key ∈ (w.next ev).cache.keys := by
        by_contra hgone
        exact hdrops ⟨mem_keys_of_mem hold, hgone⟩
      obtain ⟨e', he', hsame⟩ := List.mem_map.mp hkey
      rcases World.mem_entries_next he' with ⟨hev, -⟩ | ⟨hold', -, -⟩
      · exact absurd (hsame ▸ hev) (hinsert _)
      · exact h.inOrder.entry_unique hold' hold hsame ▸ he'

theorem Traced.next {past : List (Moment (World κ ν) (Event κ ν))} {w : World κ ν}
    (h : Traced config past w) (hpos : 0 < config.capacity) (ev : Event κ ν) :
    Traced config (past ++ [⟨w, ev⟩]) (w.next ev) := by
  refine ⟨(w.config_next ev).trans h.config_eq,
    World.inOrder_next h.inOrder (by rw [h.config_eq]; exact hpos) ev, ?_⟩
  intro e
  rw [h.mem_entries_next_iff, h.mem_entries_iff]
  simp only [KeptSince, since_append_singleton_iff, exists_or, exists_eq_left, exists_and_right]

section

variable {now : Duration} {w : World κ ν} (hw : World.new? now config = some w)

include hw

theorem traced_run (events : List (Event κ ν)) :
    Traced config (w.history events) (w.run events) :=
  run_induction (traced_new? hw) (fun _ _ e h => h.next (World.capacity_pos_of_new? hw) e) events

theorem traced_moment {events : List (Event κ ν)} {i : Nat}
    {m : Moment (World κ ν) (Event κ ν)} (hm : (w.history events)[i]? = some m) :
    Traced config ((w.history events).take i) m.state :=
  moment_induction (traced_new? hw) (fun _ _ e h => h.next (World.capacity_pos_of_new? hw) e) hm

end

/-- A look-up finds a value exactly if it is the one that was stored under the key last, has been in
the cache ever since, and was stored no longer ago than the time to live. -/
theorem Traced.found_iff {past : List (Moment (World κ ν) (Event κ ν))} {w : World κ ν}
    (h : Traced config past w) (k : κ) (v : ν) :
    w.reply (.get k) = .got (some v) ↔
      ∃ j t, KeptSince k v t past j ∧ w.now.nanos ≤ t.nanos + config.ttl.nanos := by
  rw [World.reply_get, Reply.got.injEq, h.inOrder.get_eq_some_iff, h.config_eq]
  constructor
  · rintro ⟨e, hmem, rfl, rfl, hfresh⟩
    obtain ⟨j, hj⟩ := (h.mem_entries_iff e).mp hmem
    exact ⟨j, e.storedAt, hj, Entry.le_of_isStale_eq_false hfresh⟩
  · rintro ⟨j, t, hj, hle⟩
    refine ⟨⟨k, v, t⟩, (h.mem_entries_iff _).mpr ⟨j, hj⟩, rfl, rfl, ?_⟩
    rw [Entry.isStale, decide_eq_false_iff_not]
    dsimp only
    omega

/-- A value that was stored longer ago than the time to live is not found, whatever has happened
since. -/
theorem Traced.not_found_of_late {past : List (Moment (World κ ν) (Event κ ν))} {w : World κ ν}
    (h : Traced config past w) {k : κ} {v : ν} {t : Duration} {j : Nat}
    (hkept : KeptSince k v t past j) (hlate : t.nanos + config.ttl.nanos < w.now.nanos) :
    w.reply (.get k) = .got none := by
  have hmem := (h.mem_entries_iff ⟨k, v, t⟩).mpr ⟨j, hkept⟩
  obtain ⟨_, _, _, _, hfound⟩ :=
    h.inOrder.get_of_place w.now (h.inOrder.find?_eq_some_iff.mpr ⟨hmem, rfl⟩)
  have hstale : (⟨k, v, t⟩ : Entry κ ν).isStale w.cache.config.ttl w.now = true := by
    rw [h.config_eq, Entry.isStale, decide_eq_true_eq]
    dsimp only
    omega
  rw [World.reply_get, hfound, if_pos hstale]

/-- After any run of a cache that is on, it holds no more entries than it may and no key twice. And
at every moment that looks a key up,
- the value that is found is the one that was stored last and has been in the cache ever since, and
  it was stored no longer ago than the time to live;
- a value that was stored longer ago is not found, however often it has been found since;
- an entry of the key that is too old leaves its place, a fresh one moves to the front with its age,
  and the entries around it stay as they are and in their order. -/
theorem found_iff_kept {now : Duration} {w : World κ ν} (hw : World.new? now config = some w)
    (events : List (Event κ ν)) :
    ((w.run events).cache.size ≤ config.capacity ∧ (w.run events).cache.keys.Nodup)
      ∧ ∀ i m k, (w.history events)[i]? = some m → m.event = .get k →
        (∀ v, m.state.reply m.event = .got (some v) ↔
            ∃ j t, KeptSince k v t ((w.history events).take i) j
              ∧ m.state.now.nanos ≤ t.nanos + config.ttl.nanos)
          ∧ (∀ j v t, KeptSince k v t ((w.history events).take i) j →
            t.nanos + config.ttl.nanos < m.state.now.nanos → m.state.reply m.event = .got none)
          ∧ ∀ e ∈ m.state.cache.entries, e.key = k →
            ∃ before after, m.state.cache.entries = before ++ e :: after
              ∧ (m.state.next m.event).cache.entries =
                if e.isStale config.ttl m.state.now then before ++ after
                else e :: (before ++ after) := by
  have hrun := traced_run hw events
  refine ⟨⟨?_, hrun.inOrder.nodup_keys⟩, ?_⟩
  · rw [← hrun.config_eq]
    exact hrun.inOrder.size_le
  · rintro i ⟨s, ev⟩ k hm rfl
    have htraced := traced_moment hw hm
    refine ⟨htraced.found_iff k, fun j v t => htraced.not_found_of_late, ?_⟩
    intro e hmem hkey
    obtain ⟨before, after, hplace, hnext, -⟩ :=
      htraced.inOrder.get_of_place s.now (htraced.inOrder.find?_eq_some_iff.mpr ⟨hmem, hkey⟩)
    refine ⟨before, after, hplace, ?_⟩
    rw [World.cache_next_get, hnext, htraced.config_eq]

/-- A value is stored, and looked for before its time is over and once more after. -/
def twoVisits : List (Event String Nat) :=
  [.insert "a" 1, .advance ⟨40⟩, .get "a", .advance ⟨20⟩, .get "a"]

/-- The first look-up finds the value, which was stored at the start and kept; the second does not,
although the first has found it in the meantime. -/
theorem hit_renews_nothing :
    ∃ w, World.new? ⟨0⟩ ⟨2, ⟨50⟩⟩ = some w
      ∧ (∃ j t, KeptSince "a" 1 t ((w.history twoVisits).take 2) j ∧ 40 ≤ t.nanos + 50)
      ∧ ∃ m, (w.history twoVisits)[4]? = some m ∧ m.state.reply m.event = .got none := by
  have hnew : World.new? ⟨0⟩ ⟨2, ⟨50⟩⟩ = some (⟨⟨0⟩, ⟨⟨2, ⟨50⟩⟩, [], {}⟩⟩ : World String Nat) := rfl
  obtain ⟨hfound, -⟩ := (found_iff_kept hnew twoVisits).2 2 _ "a" rfl rfl
  exact ⟨_, hnew, (hfound 1).mp rfl, _, rfl, rfl⟩

end ScopeGate.Cache
