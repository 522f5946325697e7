import Mathlib.Logic.Function.Basic
import ScopeGate.Cache.Basic

/-!
# Caches under other keys

A cache only ever compares its keys. Where other keys take their place, no two different ones by the
same, it finds, stores, drops and counts the same.
-/

namespace ScopeGate.Cache

variable {κ ν : Type}

def Entry.rekeyed (g : κ → κ) (e : Entry κ ν) : Entry κ ν := { e with key := g e.key }

def rekeyed (g : κ → κ) (c : Cache κ ν) : Cache κ ν :=
  { c with entries := c.entries.map (Entry.rekeyed g) }

variable (g : κ → κ)

theorem stats_rekeyed (c : Cache κ ν) : (c.rekeyed g).stats = c.stats := by
  simp [stats, size, rekeyed]

theorem staleKeys_rekeyed (now : Duration) (c : Cache κ ν) :
    (c.rekeyed g).staleKeys now = (c.staleKeys now).map g := by
  have hstale : Entry.isStale c.config.ttl now ∘ Entry.rekeyed (ν := ν) g
      = Entry.isStale c.config.ttl now := rfl
  have hkey : Entry.key ∘ Entry.rekeyed (ν := ν) g = g ∘ Entry.key := rfl
  simp only [staleKeys, rekeyed, List.filter_map, List.map_map, hstale, hkey]

variable [DecidableEq κ] {g} (hg : Function.Injective g)

include hg

theorem find?_rekeyed (k : κ) (c : Cache κ ν) :
    (c.rekeyed g).find? (g k) = (c.find? k).map (Entry.rekeyed g) := by
  have hkey : ((fun e : Entry κ ν => decide (e.key = g k)) ∘ Entry.rekeyed g)
      = fun e => decide (e.key = k) := by
    funext e
    simp [Entry.rekeyed, hg.eq_iff]
  rw [find?, find?, rekeyed, List.find?_map, hkey]

theorem others_rekeyed (k : κ) (c : Cache κ ν) :
    (c.rekeyed g).others (g k) = (c.others k).map (Entry.rekeyed g) := by
  have hkey : ((fun e : Entry κ ν => !decide (e.key = g k)) ∘ Entry.rekeyed g)
      = fun e => !decide (e.key = k) := by
    funext e
    simp [Entry.rekeyed, hg.eq_iff]
  rw [others, others, rekeyed, List.filter_map, hkey]

theorem get_rekeyed (now : Duration) (k : κ) (c : Cache κ ν) :
    (c.rekeyed g).get now (g k) = ((c.get now k).1.rekeyed g, (c.get now k).2) := by
  have hothers := others_rekeyed hg k c
  unfold get
  rw [find?_rekeyed hg]
  cases hfind : c.find? k with
  | none => rfl
  | some e =>
    have hstale : (Entry.rekeyed g e).isStale (c.rekeyed g).config.ttl now
        = e.isStale c.config.ttl now := rfl
    simp only [Option.map_some]
    rw [hstale, hothers]
    cases e.isStale c.config.ttl now <;> rfl

theorem insert_rekeyed (now : Duration) (k : κ) (v : ν) (c : Cache κ ν) :
    (c.rekeyed g).insert now (g k) v = (c.insert now k v).rekeyed g := by
  have hothers := others_rekeyed hg k c
  have hsize : (c.rekeyed g).size = c.size := by simp [size, rekeyed]
  have hlast : (c.entries.map (Entry.rekeyed g)).dropLast
      = c.entries.dropLast.map (Entry.rekeyed g) := List.map_dropLast.symm
  unfold insert
  rw [find?_rekeyed hg, hothers, hsize, Option.isSome_map]
  cases (c.find? k).isSome with
  | true => rfl
  | false =>
    simp only [Bool.false_eq_true, if_false]
    by_cases hlt : c.size < c.config.capacity
    · have hlt' : c.size < (c.rekeyed g).config.capacity := hlt
      rw [if_pos hlt, if_pos hlt']
      rfl
    · have hlt' : ¬ c.size < (c.rekeyed g).config.capacity := hlt
      rw [if_neg hlt, if_neg hlt']
      simp only [rekeyed, hlast]
      rfl

theorem erase_rekeyed (k : κ) (c : Cache κ ν) :
    (c.rekeyed g).erase (g k) = ((c.erase k).1.rekeyed g, (c.erase k).2) := by
  have hfind : ((c.find? k).map (Entry.rekeyed g)).map Entry.value
      = (c.find? k).map Entry.value := by
    rw [Option.map_map]
    rfl
  rw [erase, erase, find?_rekeyed hg, others_rekeyed hg, hfind]
  rfl

theorem eraseAll_rekeyed (ks : List κ) (c : Cache κ ν) :
    (c.rekeyed g).eraseAll (ks.map g) = (c.eraseAll ks).rekeyed g := by
  induction ks generalizing c with
  | nil => rfl
  | cons k ks ih =>
    have hstep : (c.rekeyed g).eraseAll ((k :: ks).map g)
        = ((c.rekeyed g).erase (g k)).1.eraseAll (ks.map g) := rfl
    rw [hstep, erase_rekeyed hg, ih]
    rfl

theorem purge_rekeyed (now : Duration) (c : Cache κ ν) :
    (c.rekeyed g).purge now = ((c.purge now).1.rekeyed g, (c.purge now).2) := by
  simp only [purge, staleKeys_rekeyed, eraseAll_rekeyed hg, List.length_map]
  rfl

end ScopeGate.Cache
