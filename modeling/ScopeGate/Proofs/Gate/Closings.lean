import ScopeGate.Proofs.Gate.Guards
import ScopeGate.Proofs.Gate.Provenance
import ScopeGate.Proofs.Telemetry.Readings

/-!
# Calls that come to an end

`closing?` says which checked call an event brings to an end, a check that ends or a call of a
procedure without a declaration, and what becomes of it is read off it: the counter that is raised,
the record that is handed out, and the words that stand for a failure. An event that brings no call
to an end leaves no signal and no trace in the metrics.

A record tells whether its verdict was from the cache exactly if the call rests on a verdict
(`Checks.isSome_get?_tokenFromCache`). This is so because a check starts with a record that says
nothing of it.
-/

namespace ScopeGate

namespace Gate

/-- A checked call that comes to an end. -/
inductive Closing where
  | ruled (x : Ending)
  /-- Nothing is declared for the procedure that is called. -/
  | undeclared (procedure : String)

namespace Closing

def outcome : Closing → Outcome
  | ruled x => x.ruling.outcome
  | undeclared _ => .internal

def record : Closing → TraceRecord
  | ruled x => x.ruling.record
  | undeclared procedure =>
    (Rpc.Interceptor.record procedure).markError
      ("no required scopes declared for " ++ procedure) Rpc.Interceptor.undeclaredMessage

def failure? : Closing → Option (String × String)
  | ruled x =>
    match x.decision with
    | .ok _ => none
    | .error rejection => some (rejection.message, rejection.safeMessage)
  | undeclared procedure =>
    some ("no required scopes declared for " ++ procedure, Rpc.Interceptor.undeclaredMessage)

def restsOnVerdict : Closing → Bool
  | ruled x => x.evidence.isOk
  | undeclared _ => false

def isInactive : Closing → Bool
  | ruled x =>
    match x.decision with
    | .error (.inactiveToken _) => true
    | _ => false
  | undeclared _ => false

def counted (m : Metrics) : Closing → Metrics
  | ruled x => m.recordRuling x.evidence x.ruling
  | undeclared _ => m.recordOutcome .internal

end Closing

namespace World

/-- The checked call that an event brings to an end. -/
def closing? (w : World) (e : Event) : Option Closing :=
  match w.ending? e with
  | some x => some (.ruled x)
  | none => (w.undeclared? e).map .undeclared

theorem closing?_of_ending {w : World} {e : Event} {x : Ending} (h : w.ending? e = some x) :
    w.closing? e = some (.ruled x) := by
  simp only [closing?, h]

theorem ending?_of_closing {w : World} {e : Event} {x : Ending}
    (h : w.closing? e = some (.ruled x)) : w.ending? e = some x := by
  cases hx : w.ending? e with
  | some y =>
    rw [closing?_of_ending hx] at h
    cases h
    rfl
  | none => simp [closing?, hx] at h

theorem undeclared?_of_closing {w : World} {e : Event} {procedure : String}
    (h : w.closing? e = some (.undeclared procedure)) : w.undeclared? e = some procedure := by
  cases hx : w.ending? e with
  | some y =>
    rw [closing?_of_ending hx] at h
    cases h
  | none =>
    simp only [closing?, hx] at h
    obtain ⟨other, hother, he⟩ := Option.map_eq_some_iff.mp h
    cases he
    exact hother

theorem closing?_of_undeclared {w : World} {e : Event} {procedure : String}
    (h : w.undeclared? e = some procedure) : w.closing? e = some (.undeclared procedure) := by
  obtain ⟨call, canceled, request, use, rfl, -⟩ := of_undeclared h
  have hnone : w.ending? (.rpc call canceled request use) = none := by
    cases hr : w.interceptor.arrive request with
    | undeclared => simp [ending?, answered?, settled?, asked?, going?, arrival?, hr]
    | _ => simp [undeclared?, hr] at h
  simp only [closing?, hnone, h, Option.map_some]

/-- An event that brings no checked call to an end counts nothing and hands out nothing. -/
theorem quiet_of_closing_eq_none {w : World} {e : Event} (h : w.closing? e = none) :
    (w.step e).1.authorizer.metrics = w.authorizer.metrics ∧ w.signals e = [] := by
  have hx : w.ending? e = none := by
    cases hx : w.ending? e with
    | none => rfl
    | some x =>
      rw [closing?_of_ending hx] at h
      cases h
  have hu : w.undeclared? e = none := by simpa [closing?, hx] using h
  cases hh : w.held? e with
  | some held =>
    rw [signals, step_of_held hh]
    exact ⟨rfl, rfl⟩
  | none =>
    obtain ⟨ha, hg⟩ := idle_of_none hx hh
    have hidle := idles_step ha hg
    rw [signals]
    generalize w.step e = r at hidle
    cases hidle with
    | undeclared hr => simp [undeclared?, hr] at hu
    | _ => exact ⟨rfl, rfl⟩

theorem recordsOf_signals_of_caller (caller : Caller) (ruling : Ruling) :
    recordsOf (caller.signals ruling) = [ruling.record] := by
  cases caller with
  | direct => rfl
  | rpc request use =>
    cases hd : ruling.decision <;>
      simp [Caller.signals, Rpc.Interceptor.signals, hd, recordsOf, Signal.record?]
  | http request route cancelable =>
    cases hd : ruling.decision <;>
      simp [Caller.signals, Http.Site.signals, hd, recordsOf, Signal.record?]

/-- An event that brings a checked call to an end counts it and hands out its one record. -/
theorem entered_of_closing {w : World} {e : Event} {c : Closing} (h : w.closing? e = some c) :
    (w.step e).1.authorizer.metrics = c.counted w.authorizer.metrics
      ∧ recordsOf (w.signals e) = [c.record] := by
  cases c with
  | ruled x =>
    rw [signals, step_of_ending (ending?_of_closing h)]
    refine ⟨rfl, ?_⟩
    simp only [close, deliver, recordsOf_append, recordsOf_map_log, recordsOf_signals_of_caller]
    rfl
  | undeclared procedure =>
    obtain ⟨call, canceled, request, use, -, -, -, -, hstep⟩ :=
      of_undeclared (undeclared?_of_closing h)
    rw [signals, hstep]
    exact ⟨rfl, rfl⟩

end World

namespace Closing

theorem outcome_eq_admitted_iff (c : Closing) : c.outcome = .admitted ↔ c.failure? = none := by
  cases c with
  | undeclared procedure => simp [outcome, failure?]
  | ruled x =>
    have hdecision : x.ruling.decision = x.decision := rfl
    cases hd : x.decision with
    | ok client => simp [outcome, failure?, Ruling.outcome, hdecision, hd]
    | error rejection =>
      simp [outcome, failure?, Ruling.outcome, hdecision, hd, rejection.outcome_ne_admitted]

/-- The status of a record is what the caller may know: that it is admitted, or the safe words. The
full cause stands in an attribute. -/
theorem status_record (c : Closing) :
    match c.failure? with
    | none => c.record.status = .ok
    | some (full, safe) =>
      c.record.status = .error safe ∧ c.record.get? Key.fullError = some (.string full) := by
  cases c with
  | undeclared procedure => exact ⟨rfl, TraceRecord.get?_fullError_markError _ _ _⟩
  | ruled x =>
    have hrecord : (ruled x).record = x.ruling.record := rfl
    rw [hrecord, Ending.ruling]
    unfold Check.rule
    cases hd : x.decision with
    | ok client =>
      rw [Ending.decision] at hd
      simp [failure?, Ending.decision, hd, TraceRecord.setDecision, TraceRecord.markOk]
    | error rejection =>
      rw [Ending.decision] at hd
      simp only [failure?, Ending.decision, hd, TraceRecord.setDecision]
      exact ⟨rfl, TraceRecord.get?_fullError_markError _ _ _⟩

/-- A call is counted once by its outcome, and once as a lookup if it rests on a verdict. -/
theorem exists_counted_eq (m : Metrics) (c : Closing) :
    ∃ m' : Metrics, c.counted m = m'.recordOutcome c.outcome
      ∧ m'.totalRequests = m.totalRequests ∧ (∀ o, m'.count o = m.count o)
      ∧ m'.tokenCacheHits + m'.tokenCacheMisses
        = m.tokenCacheHits + m.tokenCacheMisses + if c.restsOnVerdict then 1 else 0 := by
  cases c with
  | undeclared procedure => exact ⟨m, rfl, rfl, fun _ => rfl, rfl⟩
  | ruled x =>
    obtain ⟨caller, check, evidence⟩ := x
    cases evidence with
    | error rejection => exact ⟨m, rfl, rfl, fun _ => rfl, rfl⟩
    | ok l =>
      refine ⟨m.recordLookup l.fromCache, rfl, ?_, ?_, ?_⟩
      · cases l.fromCache <;> rfl
      · exact fun o => Metrics.count_recordLookup l.fromCache o m
      · exact Metrics.lookups_recordLookup l.fromCache m

theorem totalRequests_counted (m : Metrics) (c : Closing) :
    (c.counted m).totalRequests = m.totalRequests + 1 := by
  obtain ⟨m', heq, htotal, -, -⟩ := exists_counted_eq m c
  rw [heq, ← htotal]
  cases c.outcome <;> rfl

theorem count_counted (o : Outcome) (m : Metrics) (c : Closing) :
    (c.counted m).count o = m.count o + if c.outcome = o then 1 else 0 := by
  obtain ⟨m', heq, -, hcount, -⟩ := exists_counted_eq m c
  rw [heq, Metrics.count_recordOutcome, hcount]

theorem lookups_counted (m : Metrics) (c : Closing) :
    (c.counted m).tokenCacheHits + (c.counted m).tokenCacheMisses
      = m.tokenCacheHits + m.tokenCacheMisses + if c.restsOnVerdict then 1 else 0 := by
  obtain ⟨m', heq, -, -, hlookups⟩ := exists_counted_eq m c
  rw [heq, (Metrics.lookups_recordOutcome _ _).1, (Metrics.lookups_recordOutcome _ _).2, hlookups]

end Closing

namespace World

/-- A check ends without a verdict for want of a token or for want of an answer. -/
theorem evidence_error_of_ending {w : World} {e : Event} {x : Ending} {rejection : Rejection}
    (h : w.ending? e = some x) (hr : x.evidence = .error rejection) :
    (∃ fault, rejection = .invalidCredential fault)
      ∨ ∃ fault, rejection = .introspection fault := by
  rcases answered_or_settled_of_ending h with ⟨l, answer, -, rfl⟩ | ⟨a, -, -, -, hb⟩
  · cases answer with
    | ok v => cases hr
    | error fault =>
      cases hr
      exact .inr ⟨fault, rfl⟩
  · rw [hr] at hb
    rcases Arrival.settled_cases hb with ⟨fault, _, he⟩ | ⟨_, _, ⟨_, he⟩ | ⟨_, _, _, he⟩⟩
    · cases he
      exact .inl ⟨fault, rfl⟩
    · cases he
      exact .inr ⟨_, rfl⟩
    · cases he

/-- A call rests on a verdict exactly if it is admitted, forbidden or refused for an inactive token.
-/
theorem restsOnVerdict_of_closing {w : World} {e : Event} {c : Closing}
    (h : w.closing? e = some c) :
    (if c.restsOnVerdict then 1 else 0)
      = (if c.outcome = .admitted then 1 else 0) + (if c.outcome = .forbidden then 1 else 0)
        + if c.isInactive then 1 else 0 := by
  cases c with
  | undeclared procedure => rfl
  | ruled x =>
    have herror : ∀ rejection, x.evidence = .error rejection →
        (∃ fault, rejection = .invalidCredential fault)
          ∨ ∃ fault, rejection = .introspection fault :=
      fun _ => evidence_error_of_ending (ending?_of_closing h)
    obtain ⟨caller, check, evidence⟩ := x
    cases evidence with
    | error rejection =>
      rcases herror rejection rfl with ⟨fault, rfl⟩ | ⟨fault, rfl⟩
      · rfl
      · cases fault <;> rfl
    | ok l =>
      have hdecision : (check.rule (.ok l)).decision = l.value.judge check.required check.policy :=
        rfl
      have hown : (Ending.mk caller check (.ok l)).decision
          = l.value.judge check.required check.policy := rfl
      simp only [Closing.outcome, Closing.restsOnVerdict, Closing.isInactive, Ruling.outcome,
        Ending.ruling, hdecision, hown, Verdict.judge]
      cases l.value.active with
      | false => rfl
      | true =>
        cases check.policy.allows l.value with
        | false => rfl
        | true => cases l.value.grants.firstUnmet check.required.scopes <;> rfl

/-- A check starts with a record that tells how the call came in and nothing else. -/
theorem record_of_arrival {w : World} {e : Event} {a : Arrival} (h : w.arrival? e = some a) :
    ∃ transport, a.check.record = Check.freshRecord transport
      ∨ ∃ procedure,
        a.check.record = (Check.freshRecord transport).setString Key.procedure procedure := by
  cases arrives_of_arrival h with
  | direct => exact ⟨_, .inl rfl⟩
  | rpc => exact ⟨_, .inr ⟨_, rfl⟩⟩
  | http => exact ⟨_, .inr ⟨_, rfl⟩⟩

theorem get?_of_arrival {w : World} {e : Event} {a : Arrival} (h : w.arrival? e = some a)
    {key : String} (htransport : key ≠ Key.transport) (hprocedure : key ≠ Key.procedure) :
    a.check.record.get? key = none := by
  have hfresh : ∀ transport, (Check.freshRecord transport).get? key = none := by
    intro transport
    rw [Check.freshRecord, TraceRecord.get?_setString_of_ne _ _ htransport]
    rfl
  obtain ⟨transport, hrecord | ⟨procedure, hrecord⟩⟩ := record_of_arrival h
  · rw [hrecord, hfresh]
  · rw [hrecord, TraceRecord.get?_setString_of_ne _ _ hprocedure, hfresh]

end World

/-- The record of a check without a verdict tells no more than the one that it started with, but for
what is required and why it is refused. -/
theorem Check.get?_rule_of_error {c : Check} {key : String} (hfresh : c.record.get? key = none)
    (hrequired : key ≠ Key.requiredScopes) (herror : key ≠ Key.fullError) (rejection : Rejection) :
    (c.rule (.error rejection)).record.get? key = none := by
  unfold Check.rule
  rw [TraceRecord.get?_setDecision_of_ne _ _ herror, Check.declared,
    TraceRecord.get?_setStrings_of_ne _ _ hrequired, hfresh]

/-- The record of a check tells whether its verdict was from the cache exactly if there is one. -/
theorem Checks.isSome_get?_tokenFromCache {ms : List (Moment World Event)} {i j : Nat} {a : Arrival}
    {x : Ending} (h : Checks ms i j a x) :
    (x.ruling.record.get? Key.tokenFromCache).isSome = x.evidence.isOk := by
  obtain ⟨m, -, ha⟩ := h.begins
  have hfresh : a.check.record.get? Key.tokenFromCache = none :=
    World.get?_of_arrival ha (by decide) (by decide)
  have herror : Key.tokenFromCache ≠ Key.fullError := by decide
  rw [← h.check] at hfresh
  rw [Ending.ruling]
  cases he : x.evidence with
  | error rejection =>
    rw [Check.get?_rule_of_error hfresh (by decide) herror]
    rfl
  | ok l =>
    unfold Check.rule
    rw [TraceRecord.get?_setDecision_of_ne _ _ herror, TraceRecord.get?_tokenFromCache_setVerdict]
    rfl

end Gate

end ScopeGate
