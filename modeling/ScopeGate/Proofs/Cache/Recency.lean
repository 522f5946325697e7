import Mathlib.Data.Finset.Card
import Mathlib.Data.List.Pairwise
import ScopeGate.Proofs.Cache.History

/-!
# What a cache must retain

A key is used when a value is stored under it and when it is looked for and found. `idle` lists the
moments since a key was used last, and `rivals` collects the keys that were used in them. The
entries of a cache stand in the order in which their keys were used last (`ByUse`), so the entries
before that of a key all belong to its rivals. An entry is crowded out only from the last place of a
full cache. Its key has then as many rivals as the cache has places, and until there are so many the
entry stays, whatever else comes and goes.
-/

namespace ScopeGate.Cache

/-- Of two runs from the front of a list, the longer one goes beyond an element that ends the
shorter. -/
theorem exists_mem_takeWhile_of_lt {α : Type} {p q : α → Bool} {xs : List α}
    (h : (xs.takeWhile p).length < (xs.takeWhile q).length) :
    ∃ x ∈ xs.takeWhile q, p x = false := by
  induction xs with
  | nil => simp at h
  | cons x xs ih =>
    cases hq : q x with
    | false => simp [List.takeWhile_cons, hq] at h
    | true =>
      cases hp : p x with
      | false => exact ⟨x, by simp [hq], hp⟩
      | true =>
        simp only [List.takeWhile_cons, hp, hq, if_true, List.length_cons,
          Nat.succ_lt_succ_iff] at h
        obtain ⟨y, hy, hpy⟩ := ih h
        exact ⟨y, by simp [hq, hy], hpy⟩

variable {κ ν : Type} [DecidableEq κ]

def used? (m : Moment (World κ ν) (Event κ ν)) : Option κ :=
  match m.event with
  | .get k => (m.state.cache.get m.state.now k).2.map fun _ => k
  | .insert k _ => some k
  | _ => none

/-- The moments since the key was used last, the latest first, and all moments if it never was. -/
def idle (k : κ) (ms : List (Moment (World κ ν) (Event κ ν))) :
    List (Moment (World κ ν) (Event κ ν)) :=
  ms.reverse.takeWhile fun m => used? m ≠ some k

/-- The keys that were used since this one was used last. -/
def rivals (k : κ) (ms : List (Moment (World κ ν) (Event κ ν))) : Finset κ :=
  ((idle k ms).filterMap used?).toFinset

/-- The first key was used later than the second one. -/
def UsedAfter (ms : List (Moment (World κ ν) (Event κ ν))) (a b : κ) : Prop :=
  (idle a ms).length < (idle b ms).length

/-- The value was stored under the key at the moment `i`, when the clock showed `t`. Since then no
value has been stored under the key, and nobody has asked to take it out. -/
def StoredSince (k : κ) (v : ν) (t : Duration) (ms : List (Moment (World κ ν) (Event κ ν)))
    (i : Nat) : Prop :=
  Since (StoresAt k v t) (fun m => (∀ v', m.event ≠ .insert k v') ∧ m.event ≠ .erase k) ms i

theorem used?_get (w : World κ ν) (k : κ) :
    used? ⟨w, .get k⟩ = (w.cache.get w.now k).2.map fun _ => k := rfl

theorem idle_append_singleton (k : κ) (ms : List (Moment (World κ ν) (Event κ ν)))
    (m : Moment (World κ ν) (Event κ ν)) :
    idle k (ms ++ [m]) = if used? m = some k then [] else m :: idle k ms := by
  rw [idle, List.reverse_append, List.reverse_singleton, List.singleton_append,
    List.takeWhile_cons]
  by_cases h : used? m = some k <;> simp [h, idle]

theorem UsedAfter.append {ms : List (Moment (World κ ν) (Event κ ν))} {a b : κ}
    (h : UsedAfter ms a b) {m : Moment (World κ ν) (Event κ ν)} (ha : used? m ≠ some a)
    (hb : used? m ≠ some b) : UsedAfter (ms ++ [m]) a b := by
  rw [UsedAfter, idle_append_singleton, idle_append_singleton, if_neg ha, if_neg hb]
  exact Nat.succ_lt_succ h

theorem usedAfter_of_used {m : Moment (World κ ν) (Event κ ν)} {a b : κ}
    (ha : used? m = some a) (hne : b ≠ a) (ms : List (Moment (World κ ν) (Event κ ν))) :
    UsedAfter (ms ++ [m]) a b := by
  have hb : used? m ≠ some b := by
    rw [ha]
    simpa using Ne.symm hne
  rw [UsedAfter, idle_append_singleton, idle_append_singleton, if_pos ha, if_neg hb]
  exact Nat.succ_pos _

theorem mem_rivals_iff {k x : κ} {ms : List (Moment (World κ ν) (Event κ ν))} :
    x ∈ rivals k ms ↔ ∃ m ∈ idle k ms, used? m = some x := by
  rw [rivals, List.mem_toFinset, List.mem_filterMap]

theorem UsedAfter.mem_rivals {ms : List (Moment (World κ ν) (Event κ ν))} {a b : κ}
    (h : UsedAfter ms a b) : a ∈ rivals b ms := by
  obtain ⟨m, hm, hused⟩ := exists_mem_takeWhile_of_lt h
  exact mem_rivals_iff.mpr ⟨m, hm, by simpa using hused⟩

/-- A further moment that does not use the key adds to its rivals the key that it uses. -/
theorem mem_rivals_append_iff {k x : κ} {ms : List (Moment (World κ ν) (Event κ ν))}
    {m : Moment (World κ ν) (Event κ ν)} (hm : used? m ≠ some k) :
    x ∈ rivals k (ms ++ [m]) ↔ used? m = some x ∨ x ∈ rivals k ms := by
  simp only [mem_rivals_iff, idle_append_singleton, if_neg hm, List.mem_cons, or_and_right,
    exists_or, exists_eq_left]

/-! ## The order of the entries -/

/-- The entries stand in the order in which their keys were used, the last one first. -/
def ByUse (past : List (Moment (World κ ν) (Event κ ν))) (c : Cache κ ν) : Prop :=
  c.keys.Pairwise (UsedAfter past)

namespace World

/-- An event that uses a key puts its entry in front, and apart from that no event changes the order
of the entries. -/
theorem entries_next_cases (w : World κ ν) (ev : Event κ ν) :
    (used? ⟨w, ev⟩ = none ∧ (w.next ev).cache.entries.Sublist w.cache.entries)
      ∨ ∃ e rest, used? ⟨w, ev⟩ = some e.key ∧ (w.next ev).cache.entries = e :: rest
        ∧ rest.Sublist w.cache.entries := by
  cases ev with
  | get k =>
    rw [cache_next_get, used?_get]
    cases hfind : w.cache.find? k with
    | none =>
      rw [get_of_absent hfind]
      exact .inl ⟨rfl, List.Sublist.refl _⟩
    | some e =>
      cases hstale : e.isStale w.cache.config.ttl w.now with
      | true =>
        rw [get_of_stale hfind hstale]
        exact .inl ⟨rfl, others_sublist k w.cache⟩
      | false =>
        rw [get_of_fresh hfind hstale]
        have hkey := (mem_of_find?_eq_some hfind).2
        exact .inr ⟨e, _, congrArg some hkey.symm, rfl, others_sublist k w.cache⟩
  | insert k v =>
    change _ ∨ ∃ e rest, _ ∧ (w.cache.insert w.now k v).entries = e :: rest ∧ _
    unfold Cache.insert
    dsimp only
    split
    · exact .inr ⟨_, _, rfl, rfl, others_sublist k w.cache⟩
    · split
      · exact .inr ⟨_, _, rfl, rfl, List.Sublist.refl _⟩
      · exact .inr ⟨_, _, rfl, rfl, List.dropLast_sublist _⟩
  | erase k => exact .inl ⟨rfl, others_sublist k w.cache⟩
  | purge => exact .inl ⟨rfl, purge_sublist w.now w.cache⟩
  | advance d => exact .inl ⟨rfl, List.Sublist.refl _⟩

/-- A key leaves the cache because somebody asks for it, because its entry is too old, or from the
last place when a new key is stored in a full cache. -/
theorem drops_cases {w : World κ ν} {ev : Event κ ν} (h : w.cache.InOrder)
    (hpos : 0 < w.cache.config.capacity) {e : Entry κ ν} (he : e ∈ w.cache.entries)
    (hdrops : e.key ∉ (w.next ev).cache.keys) :
    ev = .erase e.key ∨ e.isStale w.cache.config.ttl w.now = true
      ∨ ∃ k front, used? ⟨w, ev⟩ = some k ∧ k ∉ w.cache.keys
        ∧ w.cache.size = w.cache.config.capacity ∧ w.cache.entries = front ++ [e] := by
  have hgone : ∀ x ∈ (w.next ev).cache.entries, x.key ≠ e.key :=
    fun x hx hkey => hdrops (hkey ▸ mem_keys_of_mem hx)
  cases ev with
  | get k =>
    rw [cache_next_get] at hgone
    cases hfind : w.cache.find? k with
    | none =>
      rw [get_of_absent hfind] at hgone
      exact absurd rfl (hgone e he)
    | some found =>
      obtain ⟨hmem, hkey⟩ := mem_of_find?_eq_some hfind
      cases hstale : found.isStale w.cache.config.ttl w.now with
      | true =>
        rw [get_of_stale hfind hstale] at hgone
        by_cases hek : e.key = k
        · obtain rfl := h.entry_unique hmem he (hkey.trans hek.symm)
          exact .inr (.inl hstale)
        · exact absurd rfl (hgone e (mem_others_iff.mpr ⟨he, hek⟩))
      | false =>
        rw [get_of_fresh hfind hstale] at hgone
        by_cases hek : e.key = k
        · exact absurd (hkey.trans hek.symm) (hgone found List.mem_cons_self)
        · exact absurd rfl (hgone e (List.mem_cons_of_mem _ (mem_others_iff.mpr ⟨he, hek⟩)))
  | insert k v =>
    have hne : k ≠ e.key := hgone _ (w.mem_entries_next_insert k v)
    change ∀ x ∈ (w.cache.insert w.now k v).entries, x.key ≠ e.key at hgone
    rcases h.insert_cases hpos w.now k v with
      ⟨-, hinsert⟩ | ⟨hnew, hfull, front, last, hplace, hinsert⟩
    · rw [hinsert] at hgone
      have hother := mem_others_iff.mpr ⟨he, Ne.symm hne⟩
      exact absurd rfl (hgone e (List.mem_cons_of_mem _ hother))
    · rw [hinsert] at hgone
      rw [hplace, List.mem_append, List.mem_singleton] at he
      rcases he with hfront | rfl
      · exact absurd rfl (hgone e (List.mem_cons_of_mem _ hfront))
      · exact .inr (.inr ⟨k, front, rfl, hnew, hfull, hplace⟩)
  | erase k =>
    by_cases hek : e.key = k
    · exact .inl (by rw [hek])
    · exact absurd rfl (hgone e (mem_erase_iff.mpr ⟨he, hek⟩))
  | purge =>
    right
    left
    by_contra hfresh
    have hkept : e ∈ (w.cache.purge w.now).1.entries := by
      rw [h.entries_purge]
      exact List.mem_filter.mpr ⟨he, by simpa using hfresh⟩
    exact hgone e hkept rfl
  | advance d => exact absurd rfl (hgone e he)

end World

theorem ByUse.next {past : List (Moment (World κ ν) (Event κ ν))} {w : World κ ν}
    (h : ByUse past w.cache) (hpos : 0 < w.cache.config.capacity) (hin : w.cache.InOrder)
    (ev : Event κ ν) : ByUse (past ++ [⟨w, ev⟩]) (w.next ev).cache := by
  have hnodup := (World.inOrder_next hin hpos ev).nodup_keys
  rcases w.entries_next_cases ev with ⟨hunused, hsub⟩ | ⟨e, rest, hused, hentries, hsub⟩
  · have hkeys := List.Pairwise.sublist (hsub.map Entry.key) h
    exact hkeys.imp fun hab => hab.append (by simp [hunused]) (by simp [hunused])
  · have hrest := List.Pairwise.sublist (hsub.map Entry.key) h
    rw [keys, hentries, List.map_cons, List.nodup_cons] at hnodup
    rw [ByUse, keys, hentries, List.map_cons, List.pairwise_cons]
    have hother : ∀ k ∈ rest.map Entry.key, k ≠ e.key :=
      fun k hk heq => hnodup.1 (heq ▸ hk)
    refine ⟨fun k hk => usedAfter_of_used hused (hother k hk) past, ?_⟩
    refine List.Pairwise.imp_of_mem ?_ hrest
    intro a b ha hb hab
    refine hab.append ?_ ?_
    · rw [hused]
      simpa using Ne.symm (hother a ha)
    · rw [hused]
      simpa using Ne.symm (hother b hb)

/-! ## Retention -/

/-- A key whose entry is crowded out has as many rivals as the cache has places. -/
theorem ByUse.capacity_le_card_rivals {past : List (Moment (World κ ν) (Event κ ν))}
    {w : World κ ν} (h : ByUse past w.cache) (hin : w.cache.InOrder) {ev : Event κ ν} {k : κ}
    {front : List (Entry κ ν)} {e : Entry κ ν} (hused : used? ⟨w, ev⟩ = some k)
    (hnew : k ∉ w.cache.keys) (hfull : w.cache.size = w.cache.config.capacity)
    (hplace : w.cache.entries = front ++ [e]) :
    w.cache.config.capacity ≤ (rivals e.key (past ++ [⟨w, ev⟩])).card := by
  have hkeys : w.cache.keys = front.map Entry.key ++ [e.key] := by
    rw [keys, hplace, List.map_append, List.map_singleton]
  have hnodup := hin.nodup_keys
  rw [hkeys] at hnew hnodup
  have hother : used? ⟨w, ev⟩ ≠ some e.key := by
    rw [hused]
    intro hsame
    rw [Option.some.inj hsame] at hnew
    simp at hnew
  have hfront : (k :: front.map Entry.key).Nodup :=
    List.nodup_cons.mpr ⟨fun hk => hnew (List.mem_append_left _ hk), hnodup.of_append_left⟩
  have hsub : (k :: front.map Entry.key).toFinset ⊆ rivals e.key (past ++ [⟨w, ev⟩]) := by
    intro x hx
    rw [mem_rivals_append_iff hother]
    rcases List.mem_cons.mp (List.mem_toFinset.mp hx) with rfl | hx
    · exact .inl hused
    · right
      rw [ByUse, hkeys, List.pairwise_append] at h
      exact (h.2.2 x hx e.key List.mem_cons_self).mem_rivals
  have hlength : w.cache.config.capacity = (k :: front.map Entry.key).length := by
    rw [← hfull, size, hplace]
    simp
  rw [hlength, ← List.toFinset_card_of_nodup hfront]
  exact Finset.card_le_card hsub

variable {config : CacheConfig}

/-- What the past tells about the order of the entries, and which entries it must have left. -/
structure Retaining (config : CacheConfig) (past : List (Moment (World κ ν) (Event κ ν)))
    (w : World κ ν) : Prop where
  traced : Traced config past w
  byUse : ByUse past w.cache
  kept : ∀ i k v t, StoredSince k v t past i → (rivals k past).card < config.capacity →
    w.now.nanos ≤ t.nanos + config.ttl.nanos → KeptSince k v t past i

theorem retaining_new? {now : Duration} {w : World κ ν} (hw : World.new? now config = some w) :
    Retaining config [] w := by
  have htraced := traced_new? hw
  refine ⟨htraced, ?_, fun i k v t h => absurd h (not_since_nil _ _ i)⟩
  have hnone : w.cache.entries = [] := by
    rw [List.eq_nil_iff_forall_not_mem]
    intro e he
    obtain ⟨i, hi⟩ := (htraced.mem_entries_iff e).mp he
    exact not_since_nil _ _ i hi
  rw [ByUse, keys, hnone]
  exact List.Pairwise.nil

omit [DecidableEq κ] in
theorem StoredSince.unique {k : κ} {v v' : ν} {t t' : Duration}
    {ms : List (Moment (World κ ν) (Event κ ν))} {i j : Nat} (h : StoredSince k v t ms i)
    (h' : StoredSince k v' t' ms j) : v = v' ∧ t = t' ∧ i = j := by
  obtain ⟨⟨m, hm, hevent, ht⟩, hlater⟩ := h
  obtain ⟨⟨n, hn, hevent', ht'⟩, hlater'⟩ := h'
  rcases Nat.lt_trichotomy i j with hlt | rfl | hlt
  · exact absurd hevent' ((hlater j n hlt hn).1 v')
  · rw [hm] at hn
    cases hn
    rw [hevent] at hevent'
    cases hevent'
    exact ⟨rfl, ht.symm.trans ht', rfl⟩
  · exact absurd hevent ((hlater' i m hlt hm).1 v)

theorem KeptSince.storedSince {k : κ} {v : ν} {t : Duration}
    {ms : List (Moment (World κ ν) (Event κ ν))} {i : Nat} (h : KeptSince k v t ms i) :
    StoredSince k v t ms i :=
  ⟨h.1, fun j m hj hm => ⟨(h.2 j m hj hm).1, (h.2 j m hj hm).2.1⟩⟩

/-- A look-up that finds the value of a key leaves its entry in the cache, and it is the value that
was stored last. -/
theorem Traced.kept_of_found {past : List (Moment (World κ ν) (Event κ ν))} {w : World κ ν}
    (h : Traced config past w) {ev : Event κ ν} {k : κ} (hused : used? ⟨w, ev⟩ = some k)
    (hinsert : ∀ v, ev ≠ .insert k v) {v : ν} {t : Duration} {i : Nat}
    (hstored : StoredSince k v t past i) : KeptSince k v t past i ∧ ¬ Drops k ⟨w, ev⟩ := by
  cases ev with
  | get k' =>
    obtain ⟨v', hfound, rfl⟩ := Option.map_eq_some_iff.mp hused
    obtain ⟨j, t', hkept, -⟩ := (h.found_iff k' v').mp (congrArg Reply.got hfound)
    obtain ⟨rfl, rfl, rfl⟩ := hstored.unique hkept.storedSince
    refine ⟨hkept, fun hdrops => hdrops.2 ?_⟩
    rcases w.entries_next_cases (.get k') with ⟨hunused, -⟩ | ⟨e, rest, hused', hentries, -⟩
    · rw [hunused] at hused
      cases hused
    · obtain rfl := Option.some.inj (hused.symm.trans hused')
      exact mem_keys_of_mem (by rw [hentries]; exact List.mem_cons_self)
  | insert k' v' =>
    cases hused
    exact absurd rfl (hinsert v')
  | _ => cases hused

/-- An entry that is not too old stays as long as its key has fewer rivals than the cache has
places. -/
theorem Retaining.not_drops {past : List (Moment (World κ ν) (Event κ ν))} {w : World κ ν}
    (h : Retaining config past w) (hpos : 0 < config.capacity) {ev : Event κ ν} {k : κ} {v : ν}
    {t : Duration} {i : Nat} (hkept : KeptSince k v t past i) (herase : ev ≠ .erase k)
    (hage : w.now.nanos ≤ t.nanos + config.ttl.nanos)
    (hcard : (rivals k (past ++ [⟨w, ev⟩])).card < config.capacity) : ¬ Drops k ⟨w, ev⟩ := by
  have hconfig := h.traced.config_eq
  rw [← hconfig] at hpos hage hcard
  have hmem : (⟨k, v, t⟩ : Entry κ ν) ∈ w.cache.entries :=
    (h.traced.mem_entries_iff _).mpr ⟨i, hkept⟩
  intro hdrops
  rcases World.drops_cases h.traced.inOrder hpos hmem hdrops.2 with
    hasked | hstale | ⟨x, front, hx, hnew, hfull, hplace⟩
  · exact herase hasked
  · have hold := of_decide_eq_true hstale
    dsimp only at hold
    omega
  · have hcrowded := h.byUse.capacity_le_card_rivals h.traced.inOrder hx hnew hfull hplace
    exact Nat.not_lt_of_le hcrowded hcard

theorem Retaining.next {past : List (Moment (World κ ν) (Event κ ν))} {w : World κ ν}
    (h : Retaining config past w) (hpos : 0 < config.capacity) (ev : Event κ ν) :
    Retaining config (past ++ [⟨w, ev⟩]) (w.next ev) := by
  refine ⟨h.traced.next hpos ev,
    h.byUse.next (by rwa [h.traced.config_eq]) h.traced.inOrder ev, ?_⟩
  intro i k v t hstored hcard hage
  rcases (since_append_singleton_iff _ _ _ _ _).mp hstored with hnew | ⟨hold, hstays⟩
  · exact (since_append_singleton_iff _ _ _ _ _).mpr (.inl hnew)
  have hnext : KeptSince k v t past i ∧ ¬ Drops k ⟨w, ev⟩ := by
    by_cases hused : used? ⟨w, ev⟩ = some k
    · exact h.traced.kept_of_found hused hstays.1 hold
    · have hfewer : (rivals k past).card ≤ (rivals k (past ++ [⟨w, ev⟩])).card :=
        Finset.card_le_card fun x hx => (mem_rivals_append_iff hused).mpr (.inr hx)
      have hclock : w.now.nanos ≤ (w.next ev).now.nanos := by
        cases ev with
        | advance d => exact Nat.le_add_right _ _
        | _ => exact Nat.le_refl _
      have hkept := h.kept i k v t hold (Nat.lt_of_le_of_lt hfewer hcard) (hclock.trans hage)
      exact ⟨hkept, h.not_drops hpos hkept hstays.2 (hclock.trans hage) hcard⟩
  exact (since_append_singleton_iff _ _ _ _ _).mpr
    (.inr ⟨hnext.1, hstays.1, hstays.2, hnext.2⟩)

section

variable {now : Duration} {w : World κ ν} (hw : World.new? now config = some w)

include hw

theorem retaining_run (events : List (Event κ ν)) :
    Retaining config (w.history events) (w.run events) :=
  run_induction (retaining_new? hw) (fun _ _ e h => h.next (World.capacity_pos_of_new? hw) e) events

theorem retaining_moment {events : List (Event κ ν)} {i : Nat}
    {m : Moment (World κ ν) (Event κ ν)} (hm : (w.history events)[i]? = some m) :
    Retaining config ((w.history events).take i) m.state :=
  moment_induction (retaining_new? hw) (fun _ _ e h => h.next (World.capacity_pos_of_new? hw) e) hm

end

/-- After any run of a cache that is on, a value is found that was stored no longer ago than the
time to live, unless its key has been stored again, has been taken out, or has had as many rivals as
the cache has places. And whenever a value is stored, no entry of another key is dropped, unless the
key is new and the cache is full; then the one entry whose key was used longest ago is dropped. -/
theorem found_unless_crowded_out {now : Duration} {w : World κ ν}
    (hw : World.new? now config = some w) (events : List (Event κ ν)) :
    (∀ i k v t, StoredSince k v t (w.history events) i →
        (rivals k (w.history events)).card < config.capacity →
        (w.run events).now.nanos ≤ t.nanos + config.ttl.nanos →
        (w.run events).reply (.get k) = .got (some v))
      ∧ ∀ i m k v, (w.history events)[i]? = some m → m.event = .insert k v →
        (¬ (k ∉ m.state.cache.keys ∧ m.state.cache.size = config.capacity) →
          (m.state.next m.event).cache.entries = ⟨k, v, m.state.now⟩ :: m.state.cache.others k)
        ∧ (k ∉ m.state.cache.keys ∧ m.state.cache.size = config.capacity →
          ∃ front e, m.state.cache.entries = front ++ [e]
            ∧ (m.state.next m.event).cache.entries = ⟨k, v, m.state.now⟩ :: front
            ∧ ∀ x ∈ front, UsedAfter ((w.history events).take i) x.key e.key) := by
  have hpos := World.capacity_pos_of_new? hw
  refine ⟨?_, ?_⟩
  · intro i k v t hstored hcard hage
    have hrun := retaining_run hw events
    exact (hrun.traced.found_iff k v).mpr ⟨i, t, hrun.kept i k v t hstored hcard hage, hage⟩
  · rintro i ⟨s, ev⟩ k v hm rfl
    obtain ⟨htraced, hbyUse, -⟩ := retaining_moment hw hm
    dsimp only at htraced hbyUse ⊢
    have hconfig := htraced.config_eq
    rw [← hconfig] at hpos ⊢
    refine ⟨fun hroom => ?_, fun ⟨hnew, hfull⟩ => ?_⟩
    · rcases htraced.inOrder.insert_cases hpos s.now k v with ⟨-, hinsert⟩ | ⟨hnew, hfull, -⟩
      · exact congrArg Cache.entries hinsert
      · exact absurd ⟨hnew, hfull⟩ hroom
    · obtain ⟨front, e, hplace, hinsert⟩ := insert_of_full hpos hnew hfull s.now v
      refine ⟨front, e, hplace, congrArg Cache.entries hinsert, ?_⟩
      intro x hx
      rw [ByUse, keys, hplace, List.map_append, List.pairwise_append] at hbyUse
      exact hbyUse.2.2 x.key (List.mem_map_of_mem hx) e.key (by simp)

/-- Two values are stored in a cache with two places, and the first one is found before a third is
stored. -/
def thirdValue : List (Event String Nat) :=
  [.insert "a" 1, .insert "b" 2, .get "a", .insert "c" 3, .purge, .get "b", .advance ⟨50⟩]

/-- The first value is still found when it is as old as it may be, for only one other key was used
since it was found before. The second value was the last one when the third was stored, and had to
go. -/
theorem first_value_found_again :
    ∃ w, World.new? ⟨0⟩ ⟨2, ⟨50⟩⟩ = some w ∧ (w.run thirdValue).reply (.get "a") = .got (some 1)
      ∧ ∃ m, (w.history thirdValue)[3]? = some m ∧ m.state.cache.keys = ["a", "b"]
        ∧ ∃ front e, m.state.cache.entries = front ++ [e]
          ∧ (m.state.next m.event).cache.entries = ⟨"c", 3, ⟨0⟩⟩ :: front
          ∧ ∀ x ∈ front, UsedAfter ((w.history thirdValue).take 3) x.key e.key := by
  have hnew : World.new? ⟨0⟩ ⟨2, ⟨50⟩⟩ = some (⟨⟨0⟩, ⟨⟨2, ⟨50⟩⟩, [], {}⟩⟩ : World String Nat) := rfl
  obtain ⟨hfound, hinsert⟩ := found_unless_crowded_out hnew thirdValue
  refine ⟨_, hnew, hfound 0 "a" 1 ⟨0⟩ ⟨⟨_, rfl, rfl, rfl⟩, ?_⟩ (by decide) (by decide),
    _, rfl, by decide, (hinsert 3 _ "c" 3 rfl rfl).2 (by decide)⟩
  intro j m hj hm
  have hevent : (thirdValue.drop 1)[j - 1]? = some m.event := by
    rw [List.getElem?_drop, Nat.add_sub_cancel' hj, ← map_event_moments World.next _ thirdValue,
      List.getElem?_map]
    exact congrArg (Option.map Moment.event) hm
  have hlater : ∀ e ∈ thirdValue.drop 1, (∀ v, e ≠ .insert "a" v) ∧ e ≠ .erase "a" := by
    simp [thirdValue]
  exact hlater m.event (List.mem_of_getElem? hevent)

end ScopeGate.Cache
