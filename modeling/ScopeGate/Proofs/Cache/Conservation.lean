import ScopeGate.Proofs.Cache.Counters
import ScopeGate.Proofs.Cache.History

/-!
# Every entry is accounted for

An entry that enters a cache under a new key stays, or leaves in one of three ways: it expires, it
is evicted, or somebody takes it out. `balance_next` says that each event keeps the account of
these, and the balance of a run follows. What an event makes leave is `leaving`, and as many
departures are counted with it as there are keys in it, no more and no fewer (`length_leaving`).
-/

namespace ScopeGate.Cache

variable {κ ν : Type}

/-- How many entries have left the cache other than by request. -/
def Counters.departures (c : Counters) : Nat := c.evictions + c.expirations

variable [DecidableEq κ]

def looksUp (m : Moment (World κ ν) (Event κ ν)) : Bool :=
  match m.event with
  | .get _ => true
  | _ => false

/-- The moment finds the value that it looks for. -/
def finds (m : Moment (World κ ν) (Event κ ν)) : Bool :=
  match m.state.reply m.event with
  | .got (some _) => true
  | _ => false

/-- The moment stores a value under a key that has none. -/
def adds (m : Moment (World κ ν) (Event κ ν)) : Bool :=
  match m.event with
  | .insert k _ => decide (k ∉ m.state.cache.keys)
  | _ => false

/-- The moment takes a value out because it was asked to. -/
def takesOut (m : Moment (World κ ν) (Event κ ν)) : Bool :=
  match m.state.reply m.event with
  | .erased (some _) => true
  | _ => false

/-- The keys that have an entry before the moment and none after it. -/
def leaving (m : Moment (World κ ν) (Event κ ν)) : List κ :=
  m.state.cache.keys.filter fun k => k ∉ (m.state.next m.event).cache.keys

namespace World

theorem hits_next (w : World κ ν) (ev : Event κ ν) :
    (w.next ev).cache.counters.hits
      = w.cache.counters.hits + if finds ⟨w, ev⟩ then 1 else 0 := by
  cases ev with
  | get k =>
    have hfinds : finds ⟨w, .get k⟩ = (w.cache.get w.now k).2.isSome := by
      rw [finds, reply_get]
      cases (w.cache.get w.now k).2 <;> rfl
    rw [hfinds]
    exact w.cache.hits_get w.now k
  | insert k v => exact w.cache.hits_insert w.now k v
  | erase k => rfl
  | purge => exact w.cache.hits_purge w.now
  | advance d => rfl

theorem lookups_next (w : World κ ν) (ev : Event κ ν) :
    (w.next ev).cache.counters.lookups
      = w.cache.counters.lookups + if looksUp ⟨w, ev⟩ then 1 else 0 := by
  cases ev with
  | get k => exact w.cache.lookups_get w.now k
  | insert k v => exact w.cache.lookups_insert w.now k v
  | erase k => rfl
  | purge => exact w.cache.lookups_purge w.now
  | advance d => rfl

end World

theorem balance_get {c : Cache κ ν} (h : c.InOrder) (now : Duration) (k : κ) :
    (c.get now k).1.size + (c.get now k).1.counters.departures
      = c.size + c.counters.departures := by
  cases hfind : c.find? k with
  | none =>
    rw [get_of_absent hfind]
    rfl
  | some e =>
    obtain ⟨hmem, hkey⟩ := mem_of_find?_eq_some hfind
    have hothers := h.length_others (hkey ▸ mem_keys_of_mem hmem)
    cases hstale : e.isStale c.config.ttl now with
    | true =>
      rw [get_of_stale hfind hstale]
      simp only [size, Counters.departures] at hothers ⊢
      omega
    | false =>
      rw [get_of_fresh hfind hstale]
      simp only [size, Counters.departures, List.length_cons] at hothers ⊢
      omega

theorem balance_insert {c : Cache κ ν} (h : c.InOrder) (hpos : 0 < c.config.capacity)
    (now : Duration) (k : κ) (v : ν) :
    (c.insert now k v).size + (c.insert now k v).counters.departures
      = c.size + c.counters.departures + if k ∉ c.keys then 1 else 0 := by
  by_cases hkey : k ∈ c.keys
  · have hothers := h.length_others hkey
    rw [insert_of_room (.inl hkey), if_neg (not_not_intro hkey)]
    simp only [size, List.length_cons] at hothers ⊢
    omega
  · rw [if_pos hkey]
    rcases Nat.lt_or_eq_of_le h.size_le with hroom | hfull
    · rw [insert_of_room (.inr hroom), others_eq_self hkey]
      simp only [size, List.length_cons]
      omega
    · obtain ⟨front, e, hplace, hinsert⟩ := insert_of_full hpos hkey hfull now v
      rw [hinsert]
      simp only [size, Counters.departures, hplace, List.length_append, List.length_cons,
        List.length_nil]
      omega

theorem balance_erase {c : Cache κ ν} (h : c.InOrder) (k : κ) :
    (c.erase k).1.size + (if (c.erase k).2.isSome then 1 else 0) = c.size := by
  cases hfind : c.find? k with
  | none =>
    have hothers : c.others k = c.entries := others_eq_self (find?_eq_none_iff.mp hfind)
    simp [erase, hfind, hothers, size]
  | some e =>
    obtain ⟨hmem, hkey⟩ := mem_of_find?_eq_some hfind
    have hothers := h.length_others (hkey ▸ mem_keys_of_mem hmem)
    simpa [erase, hfind, size] using hothers

theorem balance_purge {c : Cache κ ν} (h : c.InOrder) (now : Duration) :
    (c.purge now).1.size + (c.purge now).1.counters.departures
      = c.size + c.counters.departures := by
  have hsplit := List.length_eq_countP_add_countP (Entry.isStale c.config.ttl now) (l := c.entries)
  have hkept : (c.purge now).1.size
      = c.entries.countP fun e => decide ¬ e.isStale c.config.ttl now = true := by
    simp [size, h.entries_purge, List.countP_eq_length_filter]
  have hdropped : (c.purge now).1.counters.departures
      = c.counters.departures + c.entries.countP (Entry.isStale c.config.ttl now) := by
    simp [purge_eq, Counters.departures, staleKeys, List.countP_eq_length_filter, Nat.add_assoc]
  rw [hkept, hdropped, size]
  omega

/-- What is in the cache and what has left it, after an event and before it. -/
theorem World.balance_next {w : World κ ν} (h : w.cache.InOrder)
    (hpos : 0 < w.cache.config.capacity) (ev : Event κ ν) :
    (w.next ev).cache.size + (w.next ev).cache.counters.departures
        + (if takesOut ⟨w, ev⟩ then 1 else 0)
      = w.cache.size + w.cache.counters.departures + if adds ⟨w, ev⟩ then 1 else 0 := by
  cases ev with
  | get k => exact balance_get h w.now k
  | insert k v => exact (balance_insert h hpos w.now k v).trans (by simp [adds])
  | erase k =>
    have htakes : takesOut ⟨w, .erase k⟩ = (w.cache.erase k).2.isSome := by
      change (match Reply.erased (w.cache.erase k).2 with
        | .erased (some _) => true
        | _ => false) = _
      cases (w.cache.erase k).2 <;> rfl
    have hbalance := balance_erase h k
    rw [htakes, show adds ⟨w, .erase k⟩ = false from rfl]
    simp only [Bool.false_eq_true, if_false, Nat.add_zero]
    change (w.cache.erase k).1.size + w.cache.counters.departures + _ = _
    omega
  | purge => exact balance_purge h w.now
  | advance d => rfl

/-! ## Departures -/

/-- What the first list has beyond the second makes up for what the second has beyond the first. -/
theorem length_filter_notMem_add {xs ys : List κ} (hxs : xs.Nodup) (hys : ys.Nodup) :
    (xs.filter fun x => x ∉ ys).length + ys.length
      = xs.length + (ys.filter fun y => y ∉ xs).length := by
  have hshared : (xs.filter fun x => x ∈ ys).Perm (ys.filter fun y => y ∈ xs) := by
    rw [List.perm_ext_iff_of_nodup (hxs.filter _) (hys.filter _)]
    intro x
    simp [and_comm]
  have hsplit : ∀ zs zs' : List κ, zs.length
      = (zs.filter fun z => z ∈ zs').length + (zs.filter fun z => z ∉ zs').length := by
    intro zs zs'
    have hcount := List.length_eq_countP_add_countP (fun z => decide (z ∈ zs')) (l := zs)
    simpa only [List.countP_eq_length_filter, decide_eq_true_eq] using hcount
  have hxs' := hsplit xs ys
  have hys' := hsplit ys xs
  have hlength := hshared.length_eq
  omega

theorem length_entering {w : World κ ν} (h : w.cache.InOrder)
    (hpos : 0 < w.cache.config.capacity) (ev : Event κ ν) :
    ((w.next ev).cache.keys.filter fun k => k ∉ w.cache.keys).length
      = if adds ⟨w, ev⟩ then 1 else 0 := by
  have henters : ∀ k ∈ (w.next ev).cache.keys, k ∈ w.cache.keys ∨ ∃ v, ev = .insert k v := by
    intro k hk
    obtain ⟨e, he, rfl⟩ := List.mem_map.mp hk
    rcases World.mem_entries_next he with ⟨hev, -⟩ | ⟨hold, -⟩
    · exact .inr ⟨e.value, hev⟩
    · exact .inl (mem_keys_of_mem hold)
  cases hadds : adds ⟨w, ev⟩ with
  | false =>
    rw [if_neg Bool.false_ne_true, List.length_eq_zero_iff, List.filter_eq_nil_iff]
    intro k hk
    rcases henters k hk with hold | ⟨v, rfl⟩
    · simpa using hold
    · simpa [adds] using hadds
  | true =>
    cases ev with
    | insert k v =>
      have hnew : k ∉ w.cache.keys := of_decide_eq_true hadds
      have hin : k ∈ (w.next (.insert k v)).cache.keys :=
        mem_keys_of_mem (w.mem_entries_next_insert k v)
      have hnodup := (World.inOrder_next h hpos (.insert k v)).nodup_keys
      have honly :
          ((w.next (.insert k v)).cache.keys.filter fun x => x ∉ w.cache.keys).Perm [k] := by
        rw [List.perm_ext_iff_of_nodup (hnodup.filter _) (List.nodup_singleton k)]
        intro x
        rw [List.mem_filter, List.mem_singleton, decide_eq_true_eq]
        constructor
        · rintro ⟨hx, hx'⟩
          rcases henters x hx with hold | ⟨v', hev⟩
          · exact absurd hold hx'
          · cases hev
            rfl
        · rintro rfl
          exact ⟨hin, hnew⟩
      exact honly.length_eq
    | _ => cases hadds

/-- Whatever leaves is counted once, as an eviction, as an expiration, or as what was asked for. -/
theorem length_leaving {w : World κ ν} (h : w.cache.InOrder)
    (hpos : 0 < w.cache.config.capacity) (ev : Event κ ν) :
    (leaving ⟨w, ev⟩).length + w.cache.counters.departures
      = (w.next ev).cache.counters.departures + if takesOut ⟨w, ev⟩ then 1 else 0 := by
  have hbalance := w.balance_next h hpos ev
  have hentering := length_entering h hpos ev
  have hexchange :=
    length_filter_notMem_add h.nodup_keys (World.inOrder_next h hpos ev).nodup_keys
  have hsize : w.cache.keys.length = w.cache.size := List.length_map _
  have hsize' : (w.next ev).cache.keys.length = (w.next ev).cache.size := List.length_map _
  rw [hentering, hsize, hsize'] at hexchange
  rw [leaving]
  dsimp only at hexchange ⊢
  omega

/-! ## Runs -/

structure Conserved (past : List (Moment (World κ ν) (Event κ ν))) (w : World κ ν) : Prop where
  lookups : w.cache.counters.lookups = past.countP looksUp
  hits : w.cache.counters.hits = past.countP finds
  balance : past.countP adds
    = w.cache.size + w.cache.counters.departures + past.countP takesOut

theorem Conserved.next {past : List (Moment (World κ ν) (Event κ ν))} {w : World κ ν}
    (h : Conserved past w) (hin : w.cache.InOrder) (hpos : 0 < w.cache.config.capacity)
    (ev : Event κ ν) : Conserved (past ++ [⟨w, ev⟩]) (w.next ev) := by
  obtain ⟨hlookups, hhits, hbalance⟩ := h
  have hstep := w.balance_next hin hpos ev
  constructor
  · rw [w.lookups_next, hlookups, List.countP_append, List.countP_singleton]
  · rw [w.hits_next, hhits, List.countP_append, List.countP_singleton]
  · simp only [List.countP_append, List.countP_singleton]
    omega

section

variable {config : CacheConfig} {now : Duration} {w : World κ ν}
  (hw : World.new? now config = some w)

include hw

theorem conserved_nil : Conserved [] w := by
  unfold World.new? at hw
  obtain ⟨c, hc, rfl⟩ := Option.map_eq_some_iff.mp hw
  unfold Cache.new? at hc
  split at hc
  · cases hc
    exact ⟨rfl, rfl, rfl⟩
  · cases hc

/-- After any run of a cache that is on, its statistics say this.
- Every look-up is counted once, and as a hit exactly if it found a value.
- The entries that were added under new keys are those that are still there, those that were evicted
  or have expired, and those that were taken out.

And whatever keys an event makes leave the cache, it counts as many evictions and expirations,
unless it was asked to take one out. -/
theorem entries_accounted_for (events : List (Event κ ν)) :
    let ms := w.history events
    let s := (w.run events).cache.stats
    (s.counters.hits + s.counters.misses = ms.countP looksUp ∧ s.counters.hits = ms.countP finds)
      ∧ ms.countP adds
        = s.entries + s.counters.evictions + s.counters.expirations + ms.countP takesOut
      ∧ ∀ m ∈ ms, (leaving m).length + m.state.cache.counters.departures
        = (m.state.next m.event).cache.counters.departures + if takesOut m then 1 else 0 := by
  intro ms s
  have hpos := World.capacity_pos_of_new? hw
  have hrun : Traced config ms (w.run events) ∧ Conserved ms (w.run events) := by
    refine run_induction (P := fun past v => Traced config past v ∧ Conserved past v)
      ⟨traced_new? hw, conserved_nil hw⟩ ?_ events
    rintro past v ev ⟨htraced, hconserved⟩
    refine ⟨htraced.next hpos ev, hconserved.next htraced.inOrder ?_ ev⟩
    rwa [htraced.config_eq]
  obtain ⟨hlookups, hhits, hbalance⟩ := hrun.2
  refine ⟨⟨hlookups, hhits⟩, ?_, ?_⟩
  · rw [hbalance, Counters.departures, ← Nat.add_assoc]
    rfl
  · intro m hm
    obtain ⟨i, hi⟩ := List.getElem?_of_mem hm
    have htraced := traced_moment hw hi
    refine length_leaving htraced.inOrder ?_ m.event
    rwa [htraced.config_eq]

end

/-- A value is replaced when it is too old already. Later one that is too old is evicted, another
one is purged, and the last one is taken out. -/
def departuresOfEachKind : List (Event String Nat) :=
  [.insert "a" 1, .advance ⟨60⟩, .insert "a" 2, .insert "b" 3, .advance ⟨60⟩, .insert "c" 4, .purge,
    .get "b", .erase "c"]

/-- Three keys were added. One of them was evicted, one has expired and one was taken out. -/
theorem one_departure_of_each_kind :
    ∃ w, World.new? ⟨0⟩ ⟨2, ⟨50⟩⟩ = some w
      ∧ (w.history departuresOfEachKind).countP adds = 3
      ∧ (w.run departuresOfEachKind).cache.stats = ⟨⟨0, 1, 1, 1⟩, 0, 2⟩
      ∧ (w.history departuresOfEachKind).countP takesOut = 1 := by
  have hnew : World.new? ⟨0⟩ ⟨2, ⟨50⟩⟩ = some (⟨⟨0⟩, ⟨⟨2, ⟨50⟩⟩, [], {}⟩⟩ : World String Nat) := rfl
  obtain ⟨-, hbalance, -⟩ := entries_accounted_for hnew departuresOfEachKind
  exact ⟨_, hnew, hbalance.trans (by decide), by decide, by decide⟩

end ScopeGate.Cache
