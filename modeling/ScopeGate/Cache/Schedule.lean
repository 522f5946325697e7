import ScopeGate.Cache.Basic

/-!
# Schedules of a cache

A cache and the clock by which it measures ages, driven by events: keys are looked for, stored and
taken out, what is too old is purged, and time passes.
-/

namespace ScopeGate.Cache

structure World (κ ν : Type) where
  now : Duration
  cache : Cache κ ν
  deriving DecidableEq, Repr

inductive Event (κ ν : Type) where
  | get (k : κ)
  | insert (k : κ) (v : ν)
  | erase (k : κ)
  | purge
  | advance (d : Duration)
  deriving DecidableEq, Repr

inductive Reply (ν : Type) where
  /-- The value that was found for a key. -/
  | got (value : Option ν)
  /-- The value that was taken out. -/
  | erased (value : Option ν)
  | purged (dropped : Nat)
  | done
  deriving DecidableEq, Repr

namespace World

variable {κ ν : Type}

def new? (now : Duration) (config : CacheConfig) : Option (World κ ν) :=
  (Cache.new? config).map (World.mk now)

variable [DecidableEq κ]

def step (w : World κ ν) : Event κ ν → World κ ν × Reply ν
  | .get k =>
    let (cache, found) := w.cache.get w.now k
    ({ w with cache }, .got found)
  | .insert k v => ({ w with cache := w.cache.insert w.now k v }, .done)
  | .erase k =>
    let (cache, value) := w.cache.erase k
    ({ w with cache }, .erased value)
  | .purge =>
    let (cache, dropped) := w.cache.purge w.now
    ({ w with cache }, .purged dropped)
  | .advance d => ({ w with now := w.now + d }, .done)

def next (w : World κ ν) (e : Event κ ν) : World κ ν := (w.step e).1

def reply (w : World κ ν) (e : Event κ ν) : Reply ν := (w.step e).2

def run (w : World κ ν) (events : List (Event κ ν)) : World κ ν := events.foldl next w

@[simp] theorem run_nil (w : World κ ν) : w.run [] = w := rfl

@[simp] theorem run_cons (w : World κ ν) (e : Event κ ν) (es : List (Event κ ν)) :
    w.run (e :: es) = (w.next e).run es := rfl

end World

end ScopeGate.Cache
