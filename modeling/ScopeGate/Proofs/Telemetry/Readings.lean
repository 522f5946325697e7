import ScopeGate.Gate.Authorizer

/-!
# What metrics and records say

Readings of the metrics and of trace records after each way of adding to them: a counter is raised
by its own outcome and by nothing else, and an attribute is what was set last under its key.
-/

namespace ScopeGate

def Metrics.count (o : Outcome) (m : Metrics) : Nat :=
  match o with
  | .admitted => m.admitted
  | .unauthenticated => m.unauthenticated
  | .forbidden => m.forbidden
  | .canceled => m.canceled
  | .internal => m.internalErrors

theorem Outcome.exactly_one (o : Outcome) :
    (if o = .admitted then 1 else 0) + (if o = .unauthenticated then 1 else 0)
      + (if o = .forbidden then 1 else 0) + (if o = .canceled then 1 else 0)
      + (if o = .internal then 1 else 0) = 1 := by
  cases o <;> rfl

theorem Metrics.count_recordOutcome (o o' : Outcome) (m : Metrics) :
    (m.recordOutcome o).count o' = m.count o' + if o = o' then 1 else 0 := by
  cases o <;> cases o' <;> rfl

theorem Metrics.count_recordLookup (fromCache : Bool) (o : Outcome) (m : Metrics) :
    (m.recordLookup fromCache).count o = m.count o := by
  cases fromCache <;> cases o <;> rfl

theorem Metrics.lookups_recordLookup (fromCache : Bool) (m : Metrics) :
    (m.recordLookup fromCache).tokenCacheHits + (m.recordLookup fromCache).tokenCacheMisses
      = m.tokenCacheHits + m.tokenCacheMisses + 1 := by
  cases fromCache with
  | true => exact Nat.add_right_comm _ _ _
  | false => rfl

theorem Metrics.lookups_recordOutcome (o : Outcome) (m : Metrics) :
    (m.recordOutcome o).tokenCacheHits = m.tokenCacheHits
      ∧ (m.recordOutcome o).tokenCacheMisses = m.tokenCacheMisses := by
  cases o <;> exact ⟨rfl, rfl⟩

namespace TraceRecord

@[simp] theorem get?_setString_of_ne {key other : String} (s : String) (r : TraceRecord)
    (h : other ≠ key) : (r.setString key s).get? other = r.get? other :=
  get?_set_of_ne _ r h

@[simp] theorem get?_setStrings_of_ne {key other : String} (xs : List String) (r : TraceRecord)
    (h : other ≠ key) : (r.setStrings key xs).get? other = r.get? other :=
  get?_set_of_ne _ r h

theorem get?_markError_of_ne {other : String} (full safe : String) (r : TraceRecord)
    (h : other ≠ Key.fullError) : (r.markError full safe).get? other = r.get? other :=
  get?_set_of_ne _ r h

theorem get?_fullError_markError (full safe : String) (r : TraceRecord) :
    (r.markError full safe).get? Key.fullError = some (.string full) :=
  get?_set_self _ _ r

theorem get?_setDecision_of_ne {other : String} (decision : Except Rejection ClientInfo)
    (r : TraceRecord) (h : other ≠ Key.fullError) :
    (r.setDecision decision).get? other = r.get? other := by
  cases decision with
  | ok client => rfl
  | error rejection => exact get?_markError_of_ne _ _ r h

theorem get?_tokenFromCache_setVerdict (l : Lookup Verdict) (r : TraceRecord) :
    (r.setVerdict l).get? Key.tokenFromCache = some (.bool l.fromCache) := by
  have hclient : Key.tokenFromCache ≠ Key.clientId := by decide
  have hexpires : Key.tokenFromCache ≠ Key.tokenExpiresAt := by decide
  have hscopes : Key.tokenFromCache ≠ Key.tokenScopes := by decide
  unfold setVerdict
  rw [get?_setStrings_of_ne _ _ hscopes, get?_setString_of_ne _ _ hexpires,
    get?_setString_of_ne _ _ hclient]
  exact get?_set_self _ _ r

end TraceRecord

theorem recordsOf_map_log (logs : List LogEvent) : recordsOf (logs.map .log) = [] := by
  induction logs with
  | nil => rfl
  | cons e logs ih => exact ih

theorem logsOf_map_log (logs : List LogEvent) : logsOf (logs.map .log) = logs := by
  induction logs with
  | nil => rfl
  | cons e logs ih => exact congrArg (e :: ·) ih

end ScopeGate
