import ScopeGate.Proofs.Gate.Afresh
import ScopeGate.Proofs.Gate.Closings
import ScopeGate.Proofs.Telemetry.Masking

/-!
# Keeping pace without a cache

A gate without a cache can keep pace with one that has a cache. It is sent the same events, but a
call that the cache serves is sent to it without a name, so that the provider's answer arrives at
once. As long as the verdicts in the cache are what the provider would answer, the two gates differ
at each event only in what is `Alike` (`KeepsPace.step`): in the counters of lookups, in what
records say of the cache, in what is told of the cache itself, and in the log event of a verdict
that is not kept.
-/

namespace ScopeGate

structure Metrics.SameButLookups (m m' : Metrics) : Prop where
  total : m'.totalRequests = m.totalRequests
  outcomes : ∀ o, m'.count o = m.count o
  lookups : m'.tokenCacheHits + m'.tokenCacheMisses = m.tokenCacheHits + m.tokenCacheMisses

theorem Introspector.complete_of_uncached {i : Introspector} (h : i.cache = none) (clock : Clock)
    (token : String) (answer : Answer) :
    (i.complete clock token answer).1 = i ∧ (i.complete clock token answer).2.1 = [] := by
  cases answer with
  | error fault => exact ⟨rfl, rfl⟩
  | ok v =>
    rw [complete, h]
    exact ⟨rfl, rfl⟩

theorem Introspector.logs_complete (clock : Clock) (token : String) (answer : Answer)
    (i : Introspector) : (i.complete clock token answer).2.1 = []
      ∨ ∃ v, (i.complete clock token answer).2.1 = [notKept v] := by
  unfold complete
  split
  · exact .inl rfl
  · split
    · exact .inl rfl
    · split
      · exact .inl rfl
      · exact .inr ⟨_, rfl⟩

namespace Gate

/-- Without a cache a check begins in the same way, unless a verdict from the cache settles it. -/
theorem Arrival.begin_of_uncached {u : Introspector} (hu : u.cache = none) (clock : Clock)
    (i : Introspector) (a : Arrival) :
    (∃ v token, (a.begin clock i).2 = .settled (.ok ⟨v, true⟩)
        ∧ Bearer.ofFields a.fields = .ok token ∧ (i.begin clock token).2 = some v
        ∧ a.begin clock u = (u, .asking token))
      ∨ ((∀ l, (a.begin clock i).2 ≠ .settled (.ok l))
        ∧ a.begin clock u = (u, (a.begin clock i).2)) := by
  unfold Arrival.begin
  cases Bearer.ofFields a.fields with
  | error fault => exact .inr ⟨by simp, rfl⟩
  | ok token =>
    cases a.canceled with
    | true => exact .inr ⟨by simp, rfl⟩
    | false =>
      cases hbegin : i.begin clock token with
      | mk j found =>
        cases found with
        | none => exact .inr ⟨by simp [hbegin], by simp [hbegin, Introspector.begin_of_uncached hu]⟩
        | some v =>
          exact .inl ⟨v, token, by simp [hbegin], rfl, by rw [hbegin],
            by simp [Introspector.begin_of_uncached hu]⟩

def Event.atOnce : Event → Event
  | .authorize _ canceled fields required policy => .authorize none canceled fields required policy
  | .rpc _ canceled request use => .rpc none canceled request use
  | .http _ canceled cancelable request => .http none canceled cancelable request
  | e => e

namespace World

/-- The event that lets a gate without a cache keep pace. -/
def paced (w : World) (e : Event) : Event :=
  match w.settled? e with
  | some ⟨_, _, .ok _⟩ => e.atOnce
  | _ => e

theorem arrival?_atOnce (w : World) (e : Event) :
    w.arrival? e.atOnce = (w.arrival? e).map fun a => { a with call := none } := by
  cases e with
  | rpc call canceled request use =>
    simp only [Event.atOnce, arrival?]
    cases w.interceptor.arrive request <;> rfl
  | http call canceled cancelable request =>
    simp only [Event.atOnce, arrival?]
    cases w.site.arrive request <;> rfl
  | _ => rfl

end World

inductive Ending.SameButCached : Ending → Ending → Prop where
  | same (x : Ending) : SameButCached x x
  | cached (caller : Caller) (check : Check) (v : Verdict) :
      SameButCached ⟨caller, check, .ok ⟨v, true⟩⟩ ⟨caller, check, .ok ⟨v, false⟩⟩

namespace Ending.SameButCached

variable {x y : Ending}

theorem caller (h : SameButCached x y) : y.caller = x.caller := by
  cases h <;> rfl

theorem decision (h : SameButCached x y) : y.ruling.decision = x.ruling.decision := by
  cases h <;> rfl

theorem restsOnVerdict (h : SameButCached x y) :
    (Closing.ruled y).restsOnVerdict = (Closing.ruled x).restsOnVerdict := by
  cases h <;> rfl

theorem outcome (h : SameButCached x y) :
    (Closing.ruled y).outcome = (Closing.ruled x).outcome := by
  cases h <;> rfl

theorem masked_record (h : SameButCached x y) :
    y.ruling.record.masked [Key.tokenFromCache] = x.ruling.record.masked [Key.tokenFromCache] := by
  have herror : Key.fullError ∉ [Key.tokenFromCache] := by decide
  cases h with
  | same => rfl
  | cached caller check v =>
    have hrecord : ∀ fromCache, (check.rule (.ok ⟨v, fromCache⟩)).record
        = (check.declared.setVerdict ⟨v, fromCache⟩).setDecision
          (v.judge check.required check.policy) := fun _ => rfl
    rw [Ending.ruling, Ending.ruling, hrecord, hrecord, TraceRecord.masked_setDecision _ herror,
      TraceRecord.masked_setDecision _ herror, TraceRecord.masked_setVerdict,
      TraceRecord.masked_setVerdict]

end Ending.SameButCached

/-- What two gates reply to the same event: the same, but pages are served that may tell of the
gate, and the gates may have purged different numbers of verdicts. -/
inductive Reply.SameButGate : Reply → Reply → Prop where
  | same (r : Reply) : SameButGate r r
  | served (clock : Clock) (route : Http.Route) (request : Http.Request) (z z' : Authorizer) :
      SameButGate (.responded (shown clock z request route))
        (.responded (shown clock z' request route))
  | purged (dropped dropped' : Nat) : SameButGate (.purged dropped) (.purged dropped')

theorem Caller.sameButGate_serve (clock : Clock) (z z' : Authorizer) {ruling ruling' : Ruling}
    (h : ruling'.decision = ruling.decision) (caller : Caller) :
    Reply.SameButGate (caller.serve clock z ruling).reply (caller.serve clock z' ruling').reply
      ∧ (caller.serve clock z' ruling').ran = (caller.serve clock z ruling).ran := by
  cases hd : ruling.decision with
  | ok client =>
    rw [serve_of_ok clock z hd, serve_of_ok clock z' (h.trans hd)]
    refine ⟨?_, rfl⟩
    cases caller with
    | http request route cancelable => exact .served _ _ _ _ _
    | _ => exact .same _
  | error rejection =>
    rw [serve_of_error clock z hd, serve_of_error clock z' (h.trans hd)]
    exact ⟨.same _, rfl⟩

theorem Caller.logsOf_signals {ruling ruling' : Ruling} (h : ruling'.decision = ruling.decision)
    (caller : Caller) :
    logsOf (caller.signals ruling') = logsOf (caller.signals ruling) := by
  cases caller with
  | direct => rfl
  | rpc request use =>
    simp only [signals, Rpc.Interceptor.signals, h]
    rfl
  | http request route cancelable =>
    simp only [signals, Http.Site.signals, h]
    rfl

theorem sameButLookups_counted {m m' : Metrics} (h : m.SameButLookups m') (c c' : Closing)
    (ho : c'.outcome = c.outcome) (hr : c'.restsOnVerdict = c.restsOnVerdict) :
    (c.counted m).SameButLookups (c'.counted m') := by
  constructor
  · rw [Closing.totalRequests_counted, Closing.totalRequests_counted, h.total]
  · intro o
    rw [Closing.count_counted, Closing.count_counted, h.outcomes, ho]
  · rw [Closing.lookups_counted, Closing.lookups_counted, h.lookups, hr]

/-- The gate `u` has no cache and is otherwise where the gate `w` is. -/
structure KeepsPace (w u : World) : Prop where
  clock : u.clock = w.clock
  answers : u.provider.answers = w.provider.answers
  waiting : u.waiting = w.waiting
  interceptor : u.interceptor = w.interceptor
  site : u.site = w.site
  uncached : u.authorizer.introspector.cache = none
  metrics : w.authorizer.metrics.SameButLookups u.authorizer.metrics
  ran : u.ran = w.ran

/-- What comes of an event at two gates differs only in what concerns the cache of the first. -/
structure Alike (r r' : World × Reply × List Signal) : Prop where
  pace : KeepsPace r.1 r'.1
  reply : Reply.SameButGate r.2.1 r'.2.1
  records : (recordsOf r'.2.2).map (TraceRecord.masked [Key.tokenFromCache])
    = (recordsOf r.2.2).map (TraceRecord.masked [Key.tokenFromCache])
  logs : ∃ logs, (logs = [] ∨ ∃ v, logs = [Introspector.notKept v])
    ∧ logsOf r.2.2 = logs ++ logsOf r'.2.2

namespace KeepsPace

variable {w u : World}

theorem alike (h : KeepsPace w u) {r r' : Reply} (hr : Reply.SameButGate r r')
    (signals : List Signal) : Alike (w, r, signals) (u, r', signals) :=
  ⟨h, hr, rfl, [], .inl rfl, rfl⟩

theorem deliver (h : KeepsPace w u) {service service' : Service}
    (hreply : Reply.SameButGate service.reply service'.reply) (hran : service'.ran = service.ran)
    (signals : List Signal) : Alike (w.deliver service signals) (u.deliver service' signals) := by
  refine ⟨⟨h.clock, h.answers, h.waiting, h.interceptor, h.site, h.uncached, h.metrics, ?_⟩, hreply,
    rfl, [], .inl rfl, rfl⟩
  simp only [World.deliver, h.ran, hran]

theorem close (h : KeepsPace w u) {x y : Ending} (hxy : x.SameButCached y) (i : Introspector)
    {logs : List LogEvent} (hlogs : logs = [] ∨ ∃ v, logs = [Introspector.notKept v]) :
    Alike (w.close i logs x) (u.close u.authorizer.introspector [] y) := by
  obtain ⟨hreply, hran⟩ := Caller.sameButGate_serve w.clock
    ⟨i, w.authorizer.metrics.recordRuling x.evidence x.ruling⟩
    ⟨u.authorizer.introspector, u.authorizer.metrics.recordRuling y.evidence y.ruling⟩ hxy.decision
    x.caller
  refine ⟨⟨h.clock, h.answers, h.waiting, h.interceptor, h.site, h.uncached, ?_, ?_⟩, ?_, ?_, logs,
    hlogs, ?_⟩
  · exact sameButLookups_counted h.metrics _ _ hxy.outcome hxy.restsOnVerdict
  · simp only [World.close, World.deliver, hxy.caller, h.clock, h.ran, hran]
  · simp only [World.close, World.deliver, hxy.caller, h.clock]
    exact hreply
  · simp only [World.close, World.deliver, recordsOf_append, recordsOf_map_log,
      World.recordsOf_signals_of_caller, List.nil_append, List.map_cons, List.map_nil,
      hxy.masked_record]
  · simp only [World.close, World.deliver, logsOf_append, logsOf_map_log, hxy.caller,
      Caller.logsOf_signals hxy.decision, List.nil_append]

theorem finish (h : KeepsPace w u) (l : Waiting) (answer : Answer) :
    Alike (w.finish l answer) (u.finish l answer) := by
  obtain ⟨hkept, hlogs⟩ := Introspector.complete_of_uncached h.uncached u.clock l.token answer
  rw [World.finish_eq, World.finish_eq, hkept, hlogs]
  exact h.close (.same _) _ (Introspector.logs_complete _ _ _ _)

theorem going? (h : KeepsPace w u) (e : Event) : u.going? e = w.going? e := by
  cases e <;> simp only [World.going?, h.waiting]

theorem arrival? (h : KeepsPace w u) (e : Event) : u.arrival? e = w.arrival? e := by
  cases e <;> simp only [World.arrival?, h.interceptor, h.site]

theorem step_of_idle (h : KeepsPace w u) {e : Event} (he : e.setsAnswer = false)
    (ha : w.arrival? e = none) (hg : w.going? e = none) : Alike (w.step e) (u.step e) := by
  have hidle := World.idles_step ha hg
  generalize w.step e = r at hidle
  cases hidle with
  | passed harrive =>
    simp only [World.step, World.receiveCall, h.interceptor, harrive]
    exact h.deliver (.same _) rfl _
  | undeclared harrive =>
    simp only [World.step, World.receiveCall, h.interceptor, harrive]
    have hcount : KeepsPace (w.count .internal) (u.count .internal) :=
      ⟨h.clock, h.answers, h.waiting, h.interceptor, h.site, h.uncached,
        sameButLookups_counted h.metrics (.undeclared "") (.undeclared "") rfl rfl, h.ran⟩
    exact hcount.deliver (.same _) rfl _
  | unknown harrive =>
    simp only [World.step, World.receiveRequest, h.site, harrive]
    exact h.alike (.same _) _
  | unguarded harrive =>
    simp only [World.step, World.receiveRequest, h.site, h.clock, harrive, ofServed_serve]
    refine h.deliver ?_ ?_ _
    · exact .served _ _ _ _ _
    · rfl
  | @absent _ name hname hl =>
    have hl' : u.waiting.find? name = none := by rw [h.waiting, hl]
    rw [World.step_of_absent hname hl']
    exact h.alike (.same _) _
  | stayed hl hstays =>
    simp only [World.step, World.resume, h.waiting, hl, hstays]
    exact h.alike (.same _) _
  | purged =>
    refine ⟨⟨h.clock, h.answers, h.waiting, h.interceptor, h.site, ?_, h.metrics, h.ran⟩,
      .purged _ _, rfl, [], .inl rfl, rfl⟩
    simp only [World.step, Authorizer.purge, Introspector.purge, h.uncached]
  | answerSet => cases he
  | advanced =>
    refine ⟨⟨?_, h.answers, h.waiting, h.interceptor, h.site, h.uncached, h.metrics, h.ran⟩,
      .same _, rfl, [], .inl rfl, rfl⟩
    simp only [World.step, h.clock]

/-- A call that the cache of the first gate serves is answered by the provider at the second, in the
same way. -/
theorem step_of_served (h : KeepsPace w u) {e : Event} {a : Arrival} {v : Verdict} {token : String}
    (ha : w.arrival? e = some a)
    (hb : (a.begin w.clock w.authorizer.introspector).2 = .settled (.ok ⟨v, true⟩))
    (hub : a.begin w.clock u.authorizer.introspector
      = (u.authorizer.introspector, .asking token))
    (hanswer : w.provider.answers token = .ok v) :
    Alike (w.step e) (u.step (w.paced e)) := by
  have hpaced : w.paced e = e.atOnce := by simp only [World.paced, World.settled?, ha, hb]
  have hu : u.arrival? e.atOnce = some { a with call := none } := by
    rw [World.arrival?_atOnce, h.arrival?, ha]
    rfl
  have hub : Arrival.begin u.clock u.authorizer.introspector { a with call := none }
      = (u.authorizer.introspector, .asking token) := by
    rw [h.clock]
    exact hub
  have hasked : KeepsPace w { u with provider := (u.provider.ask token).1 } :=
    ⟨h.clock, h.answers, h.waiting, h.interceptor, h.site, h.uncached, h.metrics, h.ran⟩
  obtain ⟨hkept, hlogs⟩ := Introspector.complete_of_uncached h.uncached u.clock token (.ok v)
  rw [World.step_of_arrival ha, World.start_eq, hpaced, World.step_of_arrival hu, World.start_eq,
    hub]
  simp only [h.answers, hanswer]
  rw [World.finish_eq, hkept, hlogs]
  cases hbegin : a.begin w.clock w.authorizer.introspector with
  | mk i b =>
    obtain rfl : b = _ := (congrArg Prod.snd hbegin).symm.trans hb
    exact hasked.close (.cached a.caller a.check v) i (.inl rfl)

/-- A call that the cache does not serve begins in the same way at both gates. -/
theorem step_of_unserved (h : KeepsPace w u) {e : Event} {a : Arrival}
    (ha : w.arrival? e = some a)
    (hb : ∀ l, (a.begin w.clock w.authorizer.introspector).2 ≠ .settled (.ok l))
    (hub : a.begin w.clock u.authorizer.introspector
      = (u.authorizer.introspector, (a.begin w.clock w.authorizer.introspector).2)) :
    Alike (w.step e) (u.step (w.paced e)) := by
  have hpaced : w.paced e = e := by
    cases hbegin : (a.begin w.clock w.authorizer.introspector).2 with
    | settled evidence =>
      cases evidence with
      | ok l => exact absurd hbegin (hb l)
      | error rejection => simp only [World.paced, World.settled?, ha, hbegin]
    | asking token => simp only [World.paced, World.settled?, ha, hbegin]
  have hu : u.arrival? e = some a := by rw [h.arrival?, ha]
  have hub : a.begin u.clock u.authorizer.introspector
      = (u.authorizer.introspector, (a.begin w.clock w.authorizer.introspector).2) := by
    rw [h.clock]
    exact hub
  rw [hpaced, World.step_of_arrival ha, World.step_of_arrival hu, World.start_eq, World.start_eq,
    hub]
  cases a.begin w.clock w.authorizer.introspector with
  | mk i b =>
    cases b with
    | settled evidence => exact h.close (.same _) i (.inl rfl)
    | asking token =>
      have hasked : KeepsPace
          { w with
            authorizer := { w.authorizer with introspector := i }
            provider := (w.provider.ask token).1 }
          { u with provider := (u.provider.ask token).1 } :=
        ⟨h.clock, h.answers, h.waiting, h.interceptor, h.site, h.uncached, h.metrics, h.ran⟩
      simp only [h.answers]
      cases a.call with
      | none => exact hasked.finish _ _
      | some name =>
        refine ⟨⟨h.clock, h.answers, ?_, h.interceptor, h.site, h.uncached, h.metrics, h.ran⟩,
          .same _, rfl, [], .inl rfl, rfl⟩
        simp only [h.waiting]

theorem step_of_arrival (h : KeepsPace w u) {e : Event} (htrue : w.ServesTruth e) {a : Arrival}
    (ha : w.arrival? e = some a) : Alike (w.step e) (u.step (w.paced e)) := by
  rcases a.begin_of_uncached h.uncached w.clock w.authorizer.introspector with
    ⟨v, token, hb, htoken, hserved, hub⟩ | ⟨hb, hub⟩
  · exact h.step_of_served ha hb hub (htrue token v (World.token?_of_arrival ha htoken) hserved)
  · exact h.step_of_unserved ha hb hub

/-- What comes of one event at both gates. -/
theorem step (h : KeepsPace w u) {e : Event} (htrue : w.ServesTruth e)
    (he : e.setsAnswer = false) : Alike (w.step e) (u.step (w.paced e)) := by
  cases ha : w.arrival? e with
  | some a => exact h.step_of_arrival htrue ha
  | none =>
    have hpaced : w.paced e = e := by simp only [World.paced, World.settled?, ha]
    rw [hpaced]
    cases hg : w.going? e with
    | none => exact h.step_of_idle he ha hg
    | some going =>
      obtain ⟨name, l, answer⟩ := going
      have hug : u.going? e = some (name, l, answer) := by rw [h.going?, hg]
      have hdropped : KeepsPace { w with waiting := w.waiting.drop name }
          { u with waiting := u.waiting.drop name } :=
        ⟨h.clock, h.answers, by simp only [h.waiting], h.interceptor, h.site, h.uncached, h.metrics,
          h.ran⟩
      rw [World.step_of_going hg, World.step_of_going hug]
      exact hdropped.finish l answer

end KeepsPace

end Gate

end ScopeGate
