import ScopeGate.Cache.Basic

/-!
# Metrics

How many checks ended in which way, and how many token lookups were served from the cache.
-/

namespace ScopeGate

inductive Outcome where
  | admitted
  /-- The credential is missing, malformed or inactive. -/
  | unauthenticated
  /-- The credential is valid but does not suffice. -/
  | forbidden
  | canceled
  | internal
  deriving DecidableEq, Repr

def Outcome.word : Outcome → String
  | .admitted => "admitted"
  | .unauthenticated => "unauthenticated"
  | .forbidden => "forbidden"
  | .canceled => "canceled"
  | .internal => "internal"

structure Metrics where
  totalRequests : Nat := 0
  admitted : Nat := 0
  unauthenticated : Nat := 0
  forbidden : Nat := 0
  canceled : Nat := 0
  internalErrors : Nat := 0
  tokenCacheHits : Nat := 0
  tokenCacheMisses : Nat := 0
  deriving DecidableEq, Repr, Inhabited

namespace Metrics

def recordOutcome (o : Outcome) (m : Metrics) : Metrics :=
  let m := { m with totalRequests := m.totalRequests + 1 }
  match o with
  | .admitted => { m with admitted := m.admitted + 1 }
  | .unauthenticated => { m with unauthenticated := m.unauthenticated + 1 }
  | .forbidden => { m with forbidden := m.forbidden + 1 }
  | .canceled => { m with canceled := m.canceled + 1 }
  | .internal => { m with internalErrors := m.internalErrors + 1 }

def recordLookup (fromCache : Bool) (m : Metrics) : Metrics :=
  if fromCache then { m with tokenCacheHits := m.tokenCacheHits + 1 }
  else { m with tokenCacheMisses := m.tokenCacheMisses + 1 }

def admitRate (m : Metrics) : Float := rate m.admitted m.totalRequests

def hitRate (m : Metrics) : Float := rate m.tokenCacheHits (m.tokenCacheHits + m.tokenCacheMisses)

end Metrics

end ScopeGate
