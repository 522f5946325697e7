import ScopeGate.Proofs.Gate.Closings

/-!
# The books of the gate

Every checked call that comes to an end is entered three times: in the metrics, in the trace records
and in what its caller gets. `Balanced` says that the metrics and the records of the past agree with
the calls that have come to an end in it. Every event keeps the balance (`Balanced.next`), and so
the books of every run balance. Calls that pass as a client's own and calls that wait are entered
nowhere.
-/

namespace ScopeGate

namespace Gate

/-- The checked calls that come to an end in the moments, in order. -/
def closings (ms : List (Moment World Event)) : List Closing :=
  ms.filterMap fun m => m.state.closing? m.event

/-- The trace records that are handed out in the moments, in order. -/
def handedOut (ms : List (Moment World Event)) : List TraceRecord :=
  ms.flatMap fun m => recordsOf (m.state.signals m.event)

theorem closings_append_singleton (ms : List (Moment World Event)) (m : Moment World Event) :
    closings (ms ++ [m]) = closings ms ++ (m.state.closing? m.event).toList := by
  rw [closings, List.filterMap_append]
  cases h : m.state.closing? m.event <;> simp [closings, h]

theorem handedOut_append_singleton (ms : List (Moment World Event)) (m : Moment World Event) :
    handedOut (ms ++ [m]) = handedOut ms ++ recordsOf (m.state.signals m.event) := by
  simp [handedOut]

structure Balanced (cs : List Closing) (rs : List TraceRecord) (m : Metrics) : Prop where
  total : m.totalRequests = cs.length
  balance : m.totalRequests
    = m.admitted + m.unauthenticated + m.forbidden + m.canceled + m.internalErrors
  lookups : m.tokenCacheHits + m.tokenCacheMisses = cs.countP Closing.restsOnVerdict
  inactive : m.tokenCacheHits + m.tokenCacheMisses
    = m.admitted + m.forbidden + cs.countP Closing.isInactive
  entered : rs = cs.map Closing.record
  flagged : ∀ c ∈ cs, (c.record.get? Key.tokenFromCache).isSome = c.restsOnVerdict

theorem balanced_nil : Balanced [] [] {} where
  total := rfl
  balance := rfl
  lookups := rfl
  inactive := rfl
  entered := rfl
  flagged := by simp

/-- Books into which one more call is entered still balance, if the call has looked a verdict up
exactly when it was admitted, forbidden or refused for an inactive token, and its record tells of
that. -/
theorem Balanced.enter {cs : List Closing} {rs : List TraceRecord} {m : Metrics}
    (h : Balanced cs rs m) {c : Closing}
    (hrests : (if c.restsOnVerdict then 1 else 0)
      = (if c.outcome = .admitted then 1 else 0) + (if c.outcome = .forbidden then 1 else 0)
        + if c.isInactive then 1 else 0)
    (hflagged : (c.record.get? Key.tokenFromCache).isSome = c.restsOnVerdict) :
    Balanced (cs ++ [c]) (rs ++ [c.record]) (c.counted m) := by
  have hcounts := fun o => Closing.count_counted o m c
  have hadmitted := hcounts .admitted
  have hunauthenticated := hcounts .unauthenticated
  have hforbidden := hcounts .forbidden
  have hcanceled := hcounts .canceled
  have hinternal := hcounts .internal
  simp only [Metrics.count] at hadmitted hunauthenticated hforbidden hcanceled hinternal
  have htotal := Closing.totalRequests_counted m c
  have hlookups := Closing.lookups_counted m c
  constructor
  · rw [List.length_append, List.length_singleton, htotal, h.total]
  · have hbalance := h.balance
    have hone := c.outcome.exactly_one
    omega
  · rw [List.countP_append, List.countP_singleton, hlookups, h.lookups]
  · have hinactive := h.inactive
    rw [List.countP_append, List.countP_singleton, hlookups, hrests, hadmitted, hforbidden,
      hinactive]
    omega
  · rw [h.entered, List.map_append, List.map_singleton]
  · intro c' hc'
    rcases List.mem_append.mp hc' with hold | hnew
    · exact h.flagged c' hold
    · rw [List.mem_singleton.mp hnew]
      exact hflagged

section

variable {key : String → Octets} {config : CacheConfig} {interceptor : Rpc.Interceptor}
  {site : Http.Site}

theorem isSome_get?_tokenFromCache_of_closing {past : List (Moment World Event)}
    {m : Moment World Event} {c : Closing} (hsound : Sound key config interceptor site past m.state)
    (hc : m.state.closing? m.event = some c) :
    (c.record.get? Key.tokenFromCache).isSome = c.restsOnVerdict := by
  cases c with
  | undeclared procedure => rfl
  | ruled x =>
    have hlast : (past ++ [m])[past.length]? = some m := List.getElem?_concat_length
    obtain ⟨i, a, hchecks⟩ :=
      exists_checks_of_ending hlast (hsound.tracks.take_append [m]) (World.ending?_of_closing hc)
    exact hchecks.isSome_get?_tokenFromCache

theorem Balanced.next {past : List (Moment World Event)} {w : World}
    (h : Balanced (closings past) (handedOut past) w.authorizer.metrics)
    (hsound : Sound key config interceptor site past w) (e : Event) :
    Balanced (closings (past ++ [⟨w, e⟩])) (handedOut (past ++ [⟨w, e⟩]))
      (w.step e).1.authorizer.metrics := by
  rw [closings_append_singleton, handedOut_append_singleton]
  cases hc : w.closing? e with
  | none =>
    obtain ⟨hmetrics, hsignals⟩ := World.quiet_of_closing_eq_none hc
    rw [hmetrics, hsignals]
    simpa [recordsOf] using h
  | some c =>
    obtain ⟨hmetrics, hsignals⟩ := World.entered_of_closing hc
    rw [hmetrics, hsignals]
    exact h.enter (World.restsOnVerdict_of_closing hc)
      (isSome_get?_tokenFromCache_of_closing (m := ⟨w, e⟩) hsound hc)

def Closing.IsAnswered (ms : List (Moment World Event)) (j : Nat) (n : Moment World Event) :
    Closing → Prop
  | ruled x =>
    (∃ i a, Checks ms i j a x)
      ∧ match x.decision with
        | .ok client =>
          n.state.reply n.event =
              x.caller.admitted n.state.clock (n.state.step n.event).1.authorizer client
            ∧ (n.state.step n.event).1.ran = n.state.ran ++ x.caller.runs client
        | .error rejection =>
          n.state.reply n.event = x.caller.refused rejection
            ∧ (n.state.step n.event).1.ran = n.state.ran
  | undeclared procedure =>
    ∃ call canceled request use, n.event = .rpc call canceled request use
      ∧ request.procedure = procedure ∧ request.isClient = false
      ∧ n.state.interceptor.methods.find? procedure = none
      ∧ n.state.reply n.event = use.refused ⟨.internal, Rpc.Interceptor.undeclaredMessage⟩
      ∧ (n.state.step n.event).1.ran = n.state.ran

/-- A call that comes to an end at the moment `j` is entered once in the records and once in the
metrics, in agreement with what its caller gets. -/
structure Entered (ms : List (Moment World Event)) (j : Nat) (n : Moment World Event)
    (c : Closing) : Prop where
  answered : c.IsAnswered ms j n
  record : recordsOf (n.state.signals n.event) = [c.record]
  admitted : c.record.status = .ok ↔ c.outcome = .admitted
  failed : c.outcome ≠ .admitted → ∃ full safe, c.failure? = some (full, safe)
    ∧ c.record.status = .error safe ∧ c.record.get? Key.fullError = some (.string full)
  counted : ∀ o, (n.state.step n.event).1.authorizer.metrics.count o
    = n.state.authorizer.metrics.count o + if c.outcome = o then 1 else 0

/-- Nothing is entered at the moment. No call goes on, and one that is to be checked waits. -/
structure Unentered (n : Moment World Event) : Prop where
  metrics : (n.state.step n.event).1.authorizer.metrics = n.state.authorizer.metrics
  signals : n.state.signals n.event = []
  waits : ∀ a, n.state.arrival? n.event = some a →
    ∃ name, a.call = some name ∧ n.state.reply n.event = .pending name
  still : n.state.going? n.event = none

variable {clock : Clock} {provider : Provider} {es : List Event}

theorem Closing.isAnswered_of_closing {j : Nat} {n : Moment World Event} {c : Closing}
    (hn : (history clock provider key config interceptor site es)[j]? = some n)
    (hc : n.state.closing? n.event = some c) :
    c.IsAnswered (history clock provider key config interceptor site es) j n := by
  cases c with
  | ruled x =>
    have hx := World.ending?_of_closing hc
    refine ⟨exists_checks hn hx, ?_⟩
    cases hd : x.decision with
    | ok client => exact World.served_of_admission hx hd
    | error rejection => exact World.served_of_rejection hx hd
  | undeclared procedure =>
    obtain ⟨call, canceled, request, use, he, hprocedure, hserver, hnone, hstep⟩ :=
      World.of_undeclared (World.undeclared?_of_closing hc)
    exact ⟨call, canceled, request, use, he, hprocedure, hserver, hnone,
      by rw [World.reply, hstep], by rw [hstep]; rfl⟩

theorem entered_of_history {j : Nat} {n : Moment World Event} {c : Closing}
    (hn : (history clock provider key config interceptor site es)[j]? = some n)
    (hc : n.state.closing? n.event = some c) :
    Entered (history clock provider key config interceptor site es) j n c := by
  obtain ⟨hmetrics, hrecord⟩ := World.entered_of_closing hc
  have hstatus := c.status_record
  refine ⟨Closing.isAnswered_of_closing hn hc, hrecord, ?_, ?_, ?_⟩
  · rw [c.outcome_eq_admitted_iff]
    cases hf : c.failure? with
    | none => simpa [hf] using hstatus
    | some failure =>
      rw [hf] at hstatus
      simp [hstatus.1]
  · intro hrefused
    cases hf : c.failure? with
    | none => exact absurd (c.outcome_eq_admitted_iff.mpr hf) hrefused
    | some failure =>
      rw [hf] at hstatus
      exact ⟨failure.1, failure.2, rfl, hstatus⟩
  · intro o
    rw [hmetrics]
    exact Closing.count_counted o _ c

theorem unentered_of_closing_eq_none {n : Moment World Event}
    (hc : n.state.closing? n.event = none) : Unentered n := by
  obtain ⟨hmetrics, hsignals⟩ := World.quiet_of_closing_eq_none hc
  refine ⟨hmetrics, hsignals, ?_, ?_⟩
  · intro a ha
    rcases World.ending_or_pending_of_arrival ha with ⟨x, hx, -, -⟩ | hpending
    · rw [World.closing?_of_ending hx] at hc
      cases hc
    · exact hpending
  · cases hg : n.state.going? n.event with
    | none => rfl
    | some going =>
      rw [World.closing?_of_ending (World.ending?_of_going hg)] at hc
      cases hc

theorem Caller.refused_ne_pending (caller : Caller) (rejection : Rejection) (name : String) :
    caller.refused rejection ≠ .pending name := by
  cases caller with
  | rpc request use => cases use <;> simp [refused, CallUse.refused]
  | _ => simp [refused]

theorem Caller.admitted_ne_pending (clock : Clock) (z : Authorizer) (client : ClientInfo)
    (caller : Caller) (name : String) : caller.admitted clock z client ≠ .pending name := by
  cases caller with
  | rpc request use => cases use <;> simp [admitted, CallUse.accepted]
  | _ => simp [admitted]

theorem World.closing?_of_pending {w : World} {e : Event} {name : String}
    (h : w.reply e = .pending name) : w.closing? e = none := by
  cases hc : w.closing? e with
  | none => rfl
  | some c =>
    cases c with
    | ruled x =>
      have hx := ending?_of_closing hc
      cases hd : x.decision with
      | ok client =>
        rw [(served_of_admission hx hd).1] at h
        exact absurd h (Caller.admitted_ne_pending _ _ _ _ _)
      | error rejection =>
        rw [(served_of_rejection hx hd).1] at h
        exact absurd h (Caller.refused_ne_pending _ _ _)
    | undeclared procedure =>
      obtain ⟨call, canceled, request, use, -, -, -, -, hstep⟩ :=
        of_undeclared (undeclared?_of_closing hc)
      rw [reply, hstep] at h
      cases use <;> simp [CallUse.refused] at h

theorem World.closing?_of_unguarded {w : World} {e : Event} (h : Unguarded w.site e) :
    w.closing? e = none := by
  cases h with
  | @rpc _ _ request _ hclient =>
    have hpassed : w.interceptor.arrive request = .passed := by
      simp [Rpc.Interceptor.arrive, hclient]
    simp [closing?, ending?, answered?, settled?, asked?, going?, arrival?, undeclared?, hpassed]
  | @http _ _ _ request route hroute hopen =>
    have hunguarded : w.site.arrive request = .unguarded route := by
      simp [Http.Site.arrive, hroute, hopen]
    simp [closing?, ending?, answered?, settled?, asked?, going?, arrival?, undeclared?,
      hunguarded]

/-- A guarded call comes to an end by its own check as it arrives, or waits and nothing runs, unless
nothing is declared for its procedure. -/
theorem closes_or_waits_of_guarded {ms : List (Moment World Event)} {j : Nat}
    {n : Moment World Event} (hn : ms[j]? = some n) (h : Guarded n.state.site n.event) :
    (∃ a x, n.state.closing? n.event = some (.ruled x) ∧ Checks ms j j a x)
      ∨ (∃ procedure, n.state.closing? n.event = some (.undeclared procedure))
      ∨ ∃ name, n.state.reply n.event = .pending name
        ∧ (n.state.step n.event).1.ran = n.state.ran := by
  rcases World.arrival_or_undeclared_of_guarded h with ⟨a, ha⟩ | ⟨procedure, hprocedure⟩
  · cases hx : n.state.ending? n.event with
    | some x =>
      exact .inl ⟨a, x, World.closing?_of_ending hx, checks_of_arrival hn ha hx⟩
    | none =>
      obtain ⟨name, held, hheld, -⟩ := World.exists_held_of_arrival ha hx
      have hstep := World.step_of_held hheld
      exact .inr (.inr ⟨name, by rw [World.reply, hstep], by rw [hstep]⟩)
  · exact .inr (.inl ⟨procedure, World.closing?_of_undeclared hprocedure⟩)

/-- The books of every run balance. The total is the sum of the outcomes, the number of records and
the number of checked calls that have come to an end. The lookups are the calls that were admitted,
forbidden or refused for an inactive token, and the records that tell of the cache. Each call is
entered by its own outcome; one that waits, or that is served without a check, is not entered. No
other call escapes the books: a guarded one comes to its end as it arrives, or waits. -/
theorem books_balance (clock : Clock) (provider : Provider) (key : String → Octets)
    (config : CacheConfig) (interceptor : Rpc.Interceptor) (site : Http.Site) (es : List Event) :
    let ms := history clock provider key config interceptor site es
    let w := (World.new clock provider (.keyed key config) interceptor site).run es
    let m := w.authorizer.metrics
    (m.totalRequests
          = m.admitted + m.unauthenticated + m.forbidden + m.canceled + m.internalErrors
        ∧ m.totalRequests = (handedOut ms).length ∧ m.totalRequests = (closings ms).length)
      ∧ (m.tokenCacheHits + m.tokenCacheMisses
            = m.admitted + m.forbidden + (closings ms).countP Closing.isInactive
          ∧ m.tokenCacheHits + m.tokenCacheMisses
            = (handedOut ms).countP fun r => (r.get? Key.tokenFromCache).isSome)
      ∧ ∀ j n, ms[j]? = some n →
        (∀ c, n.state.closing? n.event = some c → Entered ms j n c)
          ∧ (n.state.closing? n.event = none → Unentered n)
          ∧ (∀ name, n.state.reply n.event = .pending name → n.state.closing? n.event = none)
          ∧ (Unguarded site n.event → n.state.closing? n.event = none)
          ∧ (Guarded site n.event →
            (∃ a x, n.state.closing? n.event = some (.ruled x) ∧ Checks ms j j a x)
              ∨ (∃ procedure, n.state.closing? n.event = some (.undeclared procedure))
              ∨ ∃ name, n.state.reply n.event = .pending name
                ∧ (n.state.step n.event).1.ran = n.state.ran) := by
  intro ms w m
  have hbooks : Sound key config interceptor site ms w
      ∧ Balanced (closings ms) (handedOut ms) m :=
    run_induction (P := fun past w =>
        Sound key config interceptor site past w
          ∧ Balanced (closings past) (handedOut past) w.authorizer.metrics)
      ⟨Sound.start clock provider, balanced_nil⟩
      (fun _ _ e h => ⟨h.1.next e, h.2.next h.1 e⟩) es
  have hbalanced := hbooks.2
  refine ⟨⟨hbalanced.balance, ?_, hbalanced.total⟩, ⟨hbalanced.inactive, ?_⟩, ?_⟩
  · rw [hbalanced.entered, List.length_map]
    exact hbalanced.total
  · rw [hbalanced.entered, List.countP_map, hbalanced.lookups]
    apply List.countP_congr
    intro c hc
    rw [Function.comp_apply, hbalanced.flagged c hc]
  · intro j n hn
    have hsite := (sound_history hn).endpoints.2
    refine ⟨fun c hc => entered_of_history hn hc, unentered_of_closing_eq_none,
      fun name hpending => World.closing?_of_pending hpending, fun hunguarded => ?_,
      fun hguarded => ?_⟩
    · rw [← hsite] at hunguarded
      exact World.closing?_of_unguarded hunguarded
    · rw [← hsite] at hguarded
      exact closes_or_waits_of_guarded hn hguarded

end

end Gate

end ScopeGate
