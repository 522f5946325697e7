import ScopeGate.Cache.Basic
import ScopeGate.Introspection.Provider
import ScopeGate.Telemetry.Signal
import ScopeGate.Text.Octets

/-!
# Introspection through a cache

A lookup of a token has two halves. `begin` looks into the cache and ends the lookup if it finds a
verdict whose token has not expired; a verdict whose token has expired is dropped. Otherwise the
provider is to be asked, and `complete` takes its answer: a verdict is kept if the token is active
and not expired at that moment, and a fault passes through. Between the two halves any time may pass
and any other lookup may run.

Without a cache every lookup asks the provider.

The cache does not hold tokens. It files verdicts under keys that are made of the tokens, and two
tokens of one key have one entry between them. How keys are made is left open.
-/

namespace ScopeGate

structure Introspector where
  cache : Option (Cache Octets Verdict)
  /-- The key of a token in the cache. -/
  key : String → Octets

namespace Introspector

/-- An introspector with a cache of the given settings, or without one if they turn it off. -/
def keyed (key : String → Octets) (config : CacheConfig) : Introspector := ⟨Cache.new? config, key⟩

/-- An introspector that takes the octets of a token for its key. -/
def new (config : CacheConfig) : Introspector := keyed Octets.ofString config

def isCaching (i : Introspector) : Bool := i.cache.isSome

def stats (i : Introspector) : Option Cache.Stats := i.cache.map Cache.stats

def purge (now : Duration) (i : Introspector) : Introspector × Nat :=
  match i.cache with
  | none => (i, 0)
  | some cache =>
    let (cache, dropped) := cache.purge now
    ({ i with cache := some cache }, dropped)

/-- The first half of a lookup: the verdict that is served from the cache, if there is one. -/
def begin (clock : Clock) (token : String) (i : Introspector) : Introspector × Option Verdict :=
  match i.cache with
  | none => (i, none)
  | some cache =>
    match cache.get clock.elapsed (i.key token) with
    | (cache, none) => ({ i with cache := some cache }, none)
    | (cache, some v) =>
      if v.isExpiredAt clock.now then
        ({ i with cache := some (cache.erase (i.key token)).1 }, none)
      else ({ i with cache := some cache }, some v)

def mayKeep (now : Instant) (v : Verdict) : Bool := v.active && !v.isExpiredAt now

def notKept (v : Verdict) : LogEvent :=
  ⟨.debug, "not caching introspection result",
    [("client_id", .string v.clientId), ("active", .bool v.active)]⟩

def complete (clock : Clock) (token : String) (answer : Answer) (i : Introspector) :
    Introspector × List LogEvent × Except IntrospectionFault (Lookup Verdict) :=
  match answer with
  | .error fault => (i, [], .error fault)
  | .ok v =>
    match i.cache with
    | none => (i, [], .ok ⟨v, false⟩)
    | some cache =>
      if mayKeep clock.now v then
        ({ i with cache := some (cache.insert clock.elapsed (i.key token) v) }, [], .ok ⟨v, false⟩)
      else (i, [notKept v], .ok ⟨v, false⟩)

theorem begin_of_uncached {i : Introspector} (h : i.cache = none) (clock : Clock) (token : String) :
    i.begin clock token = (i, none) := by
  rw [begin, h]

theorem key_begin (clock : Clock) (token : String) (i : Introspector) :
    (i.begin clock token).1.key = i.key := by
  unfold begin
  split
  · rfl
  · split
    · rfl
    · split <;> rfl

theorem key_complete (clock : Clock) (token : String) (answer : Answer) (i : Introspector) :
    (i.complete clock token answer).1.key = i.key := by
  unfold complete
  split
  · rfl
  · split
    · rfl
    · split <;> rfl

theorem key_purge (now : Duration) (i : Introspector) : (i.purge now).1.key = i.key := by
  unfold purge
  split <;> rfl

theorem complete_error (clock : Clock) (token : String) (fault : IntrospectionFault)
    (i : Introspector) : i.complete clock token (.error fault) = (i, [], .error fault) := rfl

/-- A verdict that comes from the provider is the one that it gave, and is not from the cache. -/
theorem complete_ok (clock : Clock) (token : String) (v : Verdict) (i : Introspector) :
    (i.complete clock token (.ok v)).2.2 = .ok ⟨v, false⟩ := by
  rw [complete]
  split
  · rfl
  · split <;> rfl

end Introspector

end ScopeGate
