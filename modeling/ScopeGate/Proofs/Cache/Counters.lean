import ScopeGate.Cache.Basic

/-!
# What a cache counts

Every look-up is counted once, as a hit if it finds a value and as a miss if it does not. No other
operation touches these two counters.
-/

namespace ScopeGate.Cache

variable {κ ν : Type}

def countersOf : Option (Cache κ ν) → Counters
  | none => {}
  | some c => c.counters

def Counters.lookups (c : Counters) : Nat := c.hits + c.misses

variable [DecidableEq κ]

theorem counters_purge (now : Duration) (c : Cache κ ν) :
    (c.purge now).1.counters =
      { c.counters with expirations := c.counters.expirations + (c.staleKeys now).length } := by
  simp only [purge, eraseAll_eq]

theorem hits_purge (now : Duration) (c : Cache κ ν) :
    (c.purge now).1.counters.hits = c.counters.hits := by
  rw [counters_purge]

theorem lookups_purge (now : Duration) (c : Cache κ ν) :
    (c.purge now).1.counters.lookups = c.counters.lookups := by
  rw [counters_purge]
  rfl

theorem hits_get (now : Duration) (k : κ) (c : Cache κ ν) :
    (c.get now k).1.counters.hits
      = c.counters.hits + if (c.get now k).2.isSome then 1 else 0 := by
  unfold get
  split
  · rfl
  · split <;> rfl

theorem lookups_get (now : Duration) (k : κ) (c : Cache κ ν) :
    (c.get now k).1.counters.lookups = c.counters.lookups + 1 := by
  unfold get Counters.lookups
  split
  · rfl
  · split
    · rfl
    · dsimp only
      omega

theorem hits_insert (now : Duration) (k : κ) (v : ν) (c : Cache κ ν) :
    (c.insert now k v).counters.hits = c.counters.hits := by
  unfold insert
  dsimp only
  split
  · rfl
  · split <;> rfl

theorem lookups_insert (now : Duration) (k : κ) (v : ν) (c : Cache κ ν) :
    (c.insert now k v).counters.lookups = c.counters.lookups := by
  unfold insert
  dsimp only
  split
  · rfl
  · split <;> rfl

end ScopeGate.Cache
