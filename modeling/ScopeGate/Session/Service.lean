import ScopeGate.Cache.Basic
import ScopeGate.Session.Basic
import ScopeGate.Telemetry.Signal

/-!
# Session lookups through a cache

A lookup of a session has two halves, between which the directory is asked; a session in the cache
ends it at once. A session that comes from the directory is kept, unless somebody was signed out of
any session meanwhile: the session may then have been read before the sign-out, so it is handed out
but not kept. Signing out drops the session from the cache, once the directory has agreed.

Every call that ends hands out one trace record.
-/

namespace ScopeGate

structure SessionService where
  cache : Option (Cache String Session)
  /-- How many users were signed out. -/
  signOuts : Nat
  deriving DecidableEq, Repr

namespace SessionService

def getSpan : String := "sessions.get_session_by_id"

def signOutSpan : String := "sessions.sign_out_session"

/-- A service with a cache of the given settings, or without one if they turn it off. -/
def new (config : CacheConfig) : SessionService := ⟨Cache.new? config, 0⟩

def stats (s : SessionService) : Option Cache.Stats := s.cache.map Cache.stats

def getRecord (fromCache : Bool) : TraceRecord :=
  (TraceRecord.new getSpan).setBool Key.sessionFromCache fromCache

/-- The first half of a lookup: the session that is served from the cache, if there is one. -/
def beginGet (clock : Clock) (id : String) (s : SessionService) :
    SessionService × Option Session :=
  match s.cache with
  | none => (s, none)
  | some cache =>
    let (cache, found) := cache.get clock.elapsed id
    ({ s with cache := some cache }, found)

def servedRecord : TraceRecord := (getRecord true).markOk

def fetchedRecord : Except SessionFault Session → TraceRecord
  | .ok _ => (getRecord false).markOk
  | .error fault => (getRecord false).markError fault.message "unable to get session"

/-- Keeps a session that was asked for when `epoch` users had been signed out. -/
def keep (clock : Clock) (epoch : Nat) (id : String) (session : Session) (s : SessionService) :
    SessionService :=
  match s.cache with
  | none => s
  | some cache =>
    let kept := cache.insert clock.elapsed id session
    { s with cache := some (if s.signOuts = epoch then kept else (kept.erase id).1) }

def completeGet (clock : Clock) (epoch : Nat) (id : String)
    (result : Except SessionFault Session) (s : SessionService) :
    SessionService × Except SessionFault (Lookup Session) :=
  match result with
  | .ok session => (s.keep clock epoch id session, .ok ⟨session, false⟩)
  | .error fault => (s, .error fault)

def signOutRecord : Except SessionFault Unit → TraceRecord
  | .ok () => (TraceRecord.new signOutSpan).markOk
  | .error fault =>
    (TraceRecord.new signOutSpan).markError fault.message "unable to sign out session"

def evicted (id : String) : LogEvent :=
  ⟨.debug, "evicted signed-out session from cache", [("session_id", .string id)]⟩

def completeSignOut (id : String) (result : Except SessionFault Unit) (s : SessionService) :
    SessionService × List LogEvent :=
  match result with
  | .error _ => (s, [])
  | .ok () =>
    let s := { s with signOuts := s.signOuts + 1 }
    match s.cache with
    | none => (s, [])
    | some cache =>
      let (cache, dropped) := cache.erase id
      ({ s with cache := some cache }, if dropped.isSome then [evicted id] else [])

theorem completeGet_error (clock : Clock) (epoch : Nat) (id : String) (fault : SessionFault)
    (s : SessionService) : s.completeGet clock epoch id (.error fault) = (s, .error fault) := rfl

theorem completeSignOut_error (id : String) (fault : SessionFault) (s : SessionService) :
    s.completeSignOut id (.error fault) = (s, []) := rfl

end SessionService

end ScopeGate
