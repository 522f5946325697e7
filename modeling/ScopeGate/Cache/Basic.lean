import ScopeGate.Time.Instant

/-!
# Caches

A cache keeps the values of the keys that were used last. Its entries are listed by recency, the
most recent first; an insertion and a hit put the entry in front, and when an insertion of a new key
finds the cache full, the last entry gives way. Recency and age are apart: a hit makes an entry
recent, but its age is counted from its insertion, and an entry older than the time to live is
dropped when it is next looked for or when the cache is purged.

The settings say how many entries a cache holds and for how long it serves them. A cache that holds
no entries is off; one that is on needs a positive time to live.

Times are readings of the clock that only grows. The counters say how each lookup ended and how
entries left other than by `erase`.
-/

namespace ScopeGate

structure CacheConfig where
  /-- The greatest number of entries. -/
  capacity : Nat
  /-- How long an entry is served. -/
  ttl : Duration
  deriving DecidableEq, Repr

namespace CacheConfig

def defaultCapacity : Nat := 10000

def token (capacity : Nat) : CacheConfig := ⟨capacity, .ofSeconds 30⟩

/-- The settings of a cache of sessions, which change far more often. -/
def session (capacity : Nat) : CacheConfig := ⟨capacity, .ofSeconds 3⟩

def disabled : CacheConfig := ⟨0, ⟨0⟩⟩

def isEnabled (c : CacheConfig) : Bool := c.capacity != 0

/-- Whether the cache is off, or serves its entries for some time. -/
def isSound (c : CacheConfig) : Bool := !c.isEnabled || !c.ttl.isZero

end CacheConfig

/-- The share of `part` in `total`, zero where nothing was counted. -/
def rate (part total : Nat) : Float :=
  if total = 0 then 0 else Float.ofNat part / Float.ofNat total

structure Lookup (α : Type) where
  value : α
  fromCache : Bool
  deriving DecidableEq, Repr

structure Cache.Entry (κ ν : Type) where
  key : κ
  value : ν
  /-- The reading of the clock at the insertion. -/
  storedAt : Duration
  deriving DecidableEq, Repr

structure Cache.Counters where
  hits : Nat := 0
  misses : Nat := 0
  expirations : Nat := 0
  evictions : Nat := 0
  deriving DecidableEq, Repr, Inhabited

structure Cache (κ ν : Type) where
  config : CacheConfig
  /-- The entries, the most recent first. -/
  entries : List (Cache.Entry κ ν)
  counters : Cache.Counters
  deriving DecidableEq, Repr

structure Cache.Stats where
  counters : Cache.Counters
  entries : Nat
  capacity : Nat
  deriving DecidableEq, Repr, Inhabited

namespace Cache

variable {κ ν : Type}

def new? (config : CacheConfig) : Option (Cache κ ν) :=
  if config.isEnabled then some ⟨config, [], {}⟩ else none

def Entry.isStale (ttl now : Duration) (e : Entry κ ν) : Bool :=
  decide (ttl.nanos < now.nanos - e.storedAt.nanos)

def size (c : Cache κ ν) : Nat := c.entries.length

def isEmpty (c : Cache κ ν) : Bool := c.entries.isEmpty

def stats (c : Cache κ ν) : Stats := ⟨c.counters, c.size, c.config.capacity⟩

def Stats.hitRate (s : Stats) : Float := rate s.counters.hits (s.counters.hits + s.counters.misses)

def staleKeys (now : Duration) (c : Cache κ ν) : List κ :=
  (c.entries.filter (Entry.isStale c.config.ttl now)).map Entry.key

variable [DecidableEq κ]

def find? (k : κ) (c : Cache κ ν) : Option (Entry κ ν) := c.entries.find? fun e => e.key = k

def others (k : κ) (c : Cache κ ν) : List (Entry κ ν) := c.entries.filter fun e => !(e.key = k)

/-- Looks for the value of a key. A hit makes the entry the most recent one; an entry that is found
too old is dropped, which counts as an expiration and as a miss. -/
def get (now : Duration) (k : κ) (c : Cache κ ν) : Cache κ ν × Option ν :=
  match c.find? k with
  | none => ({ c with counters := { c.counters with misses := c.counters.misses + 1 } }, none)
  | some e =>
    if e.isStale c.config.ttl now then
      ({ c with
          entries := c.others k
          counters :=
            { c.counters with
              misses := c.counters.misses + 1
              expirations := c.counters.expirations + 1 } },
        none)
    else
      ({ c with
          entries := e :: c.others k
          counters := { c.counters with hits := c.counters.hits + 1 } },
        some e.value)

/-- Stores a value in front. The entry of the same key is replaced; without one, a full cache first
gives up its last entry, which counts as an eviction. -/
def insert (now : Duration) (k : κ) (v : ν) (c : Cache κ ν) : Cache κ ν :=
  let entry : Entry κ ν := ⟨k, v, now⟩
  if (c.find? k).isSome then
    { c with entries := entry :: c.others k }
  else if c.size < c.config.capacity then
    { c with entries := entry :: c.entries }
  else
    { c with
      entries := entry :: c.entries.dropLast
      counters := { c.counters with evictions := c.counters.evictions + 1 } }

/-- Takes a key out, whatever its age, and gives the value it had. -/
def erase (k : κ) (c : Cache κ ν) : Cache κ ν × Option ν :=
  ({ c with entries := c.others k }, (c.find? k).map Entry.value)

def eraseAll (ks : List κ) (c : Cache κ ν) : Cache κ ν := ks.foldl (fun c k => (c.erase k).1) c

/-- Drops the entries older than the time to live and counts them. Their keys are collected first
and then taken out one after the other. -/
def purge (now : Duration) (c : Cache κ ν) : Cache κ ν × Nat :=
  let dropped := c.staleKeys now
  let swept := c.eraseAll dropped
  ({ swept with
      counters :=
        { swept.counters with expirations := swept.counters.expirations + dropped.length } },
    dropped.length)

theorem config_get (now : Duration) (k : κ) (c : Cache κ ν) :
    (c.get now k).1.config = c.config := by
  rw [get]
  split
  · rfl
  · split <;> rfl

theorem config_insert (now : Duration) (k : κ) (v : ν) (c : Cache κ ν) :
    (c.insert now k v).config = c.config := by
  rw [insert]
  split
  · rfl
  · split <;> rfl

theorem config_erase (k : κ) (c : Cache κ ν) : (c.erase k).1.config = c.config := rfl

/-- Taking keys out leaves the entries of all other keys, and nothing is counted. -/
theorem eraseAll_eq (ks : List κ) (c : Cache κ ν) :
    c.eraseAll ks = { c with entries := c.entries.filter fun e => e.key ∉ ks } := by
  induction ks generalizing c with
  | nil =>
    have hall : (c.entries.filter fun e => e.key ∉ ([] : List κ)) = c.entries :=
      List.filter_eq_self.mpr (by simp)
    rw [hall]
    rfl
  | cons k ks ih =>
    have hstep : c.eraseAll (k :: ks) = (c.erase k).1.eraseAll ks := rfl
    rw [hstep, ih]
    simp only [erase, others, List.filter_filter, List.mem_cons, not_or, Bool.decide_and,
      decide_not, Bool.and_comm]

theorem key_ne_of_mem_others {k : κ} {c : Cache κ ν} {e : Entry κ ν} (h : e ∈ c.others k) :
    e.key ≠ k := by
  simpa using (List.mem_filter.mp h).2

end Cache

end ScopeGate
