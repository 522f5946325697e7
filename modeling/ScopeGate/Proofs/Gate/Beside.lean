import ScopeGate.Proofs.Gate.Closings
import ScopeGate.Proofs.Run.SideBySide
import ScopeGate.Proofs.Telemetry.Masking

/-!
# Gates beside each other

Two gates stay `Beside` each other when they differ in nothing but the callers of the calls that
wait and in what is to be recorded of their transports. The same event then has the same effect at
both, see `Beside.parallel`, and so have calls that are to be checked alike, see
`Beside.parallel_of_arrival`: both ask the provider the same, keep the same verdicts and count the
same outcomes. The callers decide one thing before a check ends, which is whether it can be
canceled.
-/

namespace ScopeGate

/-- The keys under which a record tells of the transport. -/
def transportKeys : List String := [Key.transport, Key.procedure]

/-- Two checks ask the same. Only what their records say of the transport may differ. -/
structure Check.Twins (c c' : Check) : Prop where
  required : c'.required = c.required
  policy : c'.policy = c.policy
  record : c'.record.masked transportKeys = c.record.masked transportKeys

namespace Check.Twins

variable {c c' : Check}

theorem refl (c : Check) : Twins c c := ⟨rfl, rfl, rfl⟩

theorem decide (h : Twins c c') (evidence : Except Rejection (Lookup Verdict)) :
    c'.decide evidence = c.decide evidence := by
  cases evidence with
  | error rejection => rfl
  | ok l => rw [Check.decide, Check.decide, h.required, h.policy]

theorem outcome (h : Twins c c') (evidence : Except Rejection (Lookup Verdict)) :
    (c'.rule evidence).outcome = (c.rule evidence).outcome := by
  have hdecision : (c'.rule evidence).decision = (c.rule evidence).decision := h.decide evidence
  rw [Ruling.outcome, Ruling.outcome, hdecision]

theorem declared (h : Twins c c') :
    c'.declared.masked transportKeys = c.declared.masked transportKeys := by
  have hrequired : Key.requiredScopes ∉ transportKeys := by decide
  have htexts : c'.required.texts = c.required.texts := by rw [h.required]
  rw [Check.declared, Check.declared, TraceRecord.masked_setStrings _ hrequired,
    TraceRecord.masked_setStrings _ hrequired, h.record, htexts]

theorem masked_record (h : Twins c c') (evidence : Except Rejection (Lookup Verdict)) :
    (c'.rule evidence).record.masked transportKeys
      = (c.rule evidence).record.masked transportKeys := by
  have herror : Key.fullError ∉ transportKeys := by decide
  have hverdict : ∀ key ∈ TraceRecord.verdictKeys, key ∉ transportKeys := by decide
  simp only [Check.rule, TraceRecord.masked_setDecision _ herror, h.decide]
  cases evidence with
  | error rejection => rw [h.declared]
  | ok l =>
    rw [TraceRecord.masked_setVerdict_of_notMem _ hverdict,
      TraceRecord.masked_setVerdict_of_notMem _ hverdict, h.declared]

end Check.Twins

namespace Gate

def Event.cancels (name : String) : Event → Bool
  | .cancel other => other == name
  | .cancelRelease other => other == name
  | _ => false

/-- Two calls that wait under a name go on alike, unless only one of them can be canceled and is.
That does not happen under a spared name. -/
structure Waiting.Twins (spared : String → Prop) (name : String) (l l' : Waiting) : Prop where
  check : Check.Twins l.check l'.check
  token : l'.token = l.token
  answer : l'.answer = l.answer
  cancelable : spared name ∨ l'.caller.isCancelable = l.caller.isCancelable

structure Ending.Twins (x x' : Ending) : Prop where
  check : Check.Twins x.check x'.check
  evidence : x'.evidence = x.evidence

structure Arrival.Twins (spared : String → Prop) (a a' : Arrival) : Prop where
  call : a'.call = a.call
  canceled : a'.canceled = a.canceled
  fields : a'.fields = a.fields
  check : Check.Twins a.check a'.check
  cancelable : (∀ name, a.call = some name → spared name)
    ∨ a'.caller.isCancelable = a.caller.isCancelable

/-- The two gates differ in nothing but the callers of calls that wait, and in what is to be
recorded of their transports. -/
structure Beside (spared : String → Prop) (w u : World) : Prop where
  clock : u.clock = w.clock
  provider : u.provider = w.provider
  authorizer : u.authorizer = w.authorizer
  interceptor : u.interceptor = w.interceptor
  site : u.site = w.site
  waiting : w.waiting.Related (Waiting.Twins spared) u.waiting

/-- What comes of an event at the two gates is the same but for the transport in records. -/
structure SameButTransport (spared : String → Prop) (r r' : World × Reply × List Signal) :
    Prop where
  beside : Beside spared r.1 r'.1
  records : (recordsOf r'.2.2).map (TraceRecord.masked transportKeys)
    = (recordsOf r.2.2).map (TraceRecord.masked transportKeys)

structure SameCourse (m m' : Moment World Event) : Prop where
  names : traffic.SameNames m m'
  evidence : (m'.state.ending? m'.event).map Ending.evidence
    = (m.state.ending? m.event).map Ending.evidence

structure Parallel (spared : String → Prop) (m m' : Moment World Event) : Prop where
  beside : Beside spared m.state m'.state
  course : SameCourse m m'
  same : SameButTransport spared (m.state.step m.event) (m'.state.step m'.event)

/-- The same is replied at both moments, and the same handlers and pages run. -/
structure SameService (m m' : Moment World Event) : Prop where
  reply : m'.state.reply m'.event = m.state.reply m.event
  runs : m'.state.runs m'.event = m.state.runs m.event

theorem SameCourse.symm {m m' : Moment World Event} (h : SameCourse m m') : SameCourse m' m :=
  ⟨h.names.symm, h.evidence.symm⟩

theorem SameCourse.exists_ending {m m' : Moment World Event} (h : SameCourse m m') {x : Ending}
    (hx : m.state.ending? m.event = some x) :
    ∃ x', m'.state.ending? m'.event = some x' ∧ x'.evidence = x.evidence := by
  have hevidence := h.evidence
  rw [hx, Option.map_some] at hevidence
  exact Option.map_eq_some_iff.mp hevidence

theorem SameCourse.decision_eq {m m' : Moment World Event} (h : SameCourse m m') {x x' : Ending}
    (hx : m.state.ending? m.event = some x) (hx' : m'.state.ending? m'.event = some x')
    (hcheck : Check.Twins x.check x'.check) : x'.decision = x.decision := by
  obtain ⟨y, hy, hevidence⟩ := h.exists_ending hx
  obtain rfl : x' = y := Option.some.inj (hx'.symm.trans hy)
  rw [Ending.decision, Ending.decision, hevidence, hcheck.decide]

theorem exists_checks_of_sameCourse {ms ms' : List (Moment World Event)}
    (h : List.Forall₂ SameCourse ms ms') {i j : Nat} {a a' : Arrival} {x : Ending}
    {m' : Moment World Event} (hchecks : Checks ms i j a x)
    (htracks : ∀ n', ms'[j]? = some n' → traffic.Tracks (ms'.take j) n'.state)
    (hm' : ms'[i]? = some m') (ha' : m'.state.arrival? m'.event = some a') :
    ∃ x', Checks ms' i j a' x' := by
  obtain ⟨n, hn, hx⟩ := hchecks.ends
  obtain ⟨n', hn', hsame⟩ := getElem?_of_forall₂ h hn
  obtain ⟨x', hx', -⟩ := hsame.exists_ending hx
  have hspans := (Traffic.spans_iff (h.imp fun _ _ hc => hc.names) i j).mp hchecks.spans
  exact ⟨x', checks_of_spans (htracks n' hn') hspans hm' ha' hn' hx'⟩

theorem Beside.refl {spared : String → Prop} (w : World) : Beside spared w w := by
  refine ⟨rfl, rfl, rfl, rfl, rfl, ?_⟩
  exact List.forall₂_same.mpr fun c _ => ⟨rfl, .refl _, rfl, rfl, .inr rfl⟩

theorem Parallel.refl {spared : String → Prop} (m : Moment World Event) : Parallel spared m m :=
  ⟨.refl _, ⟨⟨rfl, rfl⟩, rfl⟩, .refl _, rfl⟩

namespace Beside

variable {spared : String → Prop} {w u : World}

theorem close (h : Beside spared w u) (i : Introspector) (logs : List LogEvent) {x x' : Ending}
    (hx : x.Twins x') : SameButTransport spared (w.close i logs x) (u.close i logs x') := by
  constructor
  · refine ⟨h.clock, h.provider, ?_, h.interceptor, h.site, h.waiting⟩
    simp only [World.close, World.deliver, Metrics.recordRuling, Ending.ruling, hx.evidence,
      hx.check.outcome, h.authorizer]
  · simp only [World.close, World.deliver, recordsOf_append, recordsOf_map_log,
      World.recordsOf_signals_of_caller, List.nil_append, List.map_cons, List.map_nil,
      Ending.ruling, hx.evidence, hx.check.masked_record]

theorem finish (h : Beside spared w u) (l l' : Waiting) (hcheck : Check.Twins l.check l'.check)
    (htoken : l'.token = l.token) (answer : Answer) :
    SameButTransport spared (w.finish l answer) (u.finish l' answer) := by
  rw [World.finish_eq, World.finish_eq, h.clock, h.authorizer, htoken]
  exact h.close _ _ ⟨hcheck, rfl⟩

theorem deliver (h : Beside spared w u) (service : Service) (signals : List Signal) :
    SameButTransport spared (w.deliver service signals) (u.deliver service signals) :=
  ⟨⟨h.clock, h.provider, h.authorizer, h.interceptor, h.site, h.waiting⟩, rfl⟩

theorem arrival? (h : Beside spared w u) (e : Event) : u.arrival? e = w.arrival? e := by
  cases e <;> simp only [World.arrival?, h.interceptor, h.site]

theorem begin (h : Beside spared w u) {a a' : Arrival} (htwins : a.Twins spared a') :
    a'.begin u.clock u.authorizer.introspector = a.begin w.clock w.authorizer.introspector := by
  rw [Arrival.begin, Arrival.begin, h.clock, h.authorizer, htwins.fields, htwins.canceled]

theorem course_of_arrival (h : Beside spared w u) {e e' : Event} {a a' : Arrival}
    (ha : w.arrival? e = some a) (ha' : u.arrival? e' = some a') (htwins : a.Twins spared a') :
    SameCourse ⟨w, e⟩ ⟨u, e'⟩ := by
  refine ⟨⟨?_, ?_⟩, ?_⟩
  · show (u.held? e').map Prod.fst = (w.held? e).map Prod.fst
    rw [World.held?_of_arrival ha', World.held?_of_arrival ha, h.begin htwins, htwins.call]
    cases (a.begin w.clock w.authorizer.introspector).2 with
    | settled evidence => rfl
    | asking token => cases a.call <;> rfl
  · show u.freed? e' = w.freed? e
    rw [World.freed?_eq_none_of_arrival ha, World.freed?_eq_none_of_arrival ha']
  · show (u.ending? e').map Ending.evidence = (w.ending? e).map Ending.evidence
    rw [World.ending?_of_arrival ha', World.ending?_of_arrival ha, h.begin htwins, htwins.call,
      h.provider]
    cases (a.begin w.clock w.authorizer.introspector).2 with
    | settled evidence => rfl
    | asking token => cases a.call <;> rfl

theorem same_of_arrival (h : Beside spared w u) {e e' : Event} {a a' : Arrival}
    (ha : w.arrival? e = some a) (ha' : u.arrival? e' = some a') (htwins : a.Twins spared a') :
    SameButTransport spared (w.step e) (u.step e') := by
  rw [World.step_of_arrival ha, World.step_of_arrival ha', World.start_eq, World.start_eq,
    h.begin htwins]
  cases a.begin w.clock w.authorizer.introspector with
  | mk i b =>
    cases b with
    | settled evidence => exact h.close i [] ⟨htwins.check, rfl⟩
    | asking token =>
      have hasked : Beside spared
          { w with
            authorizer := { w.authorizer with introspector := i }
            provider := (w.provider.ask token).1 }
          { u with
            authorizer := { u.authorizer with introspector := i }
            provider := (w.provider.ask token).1 } :=
        ⟨h.clock, rfl, by rw [h.authorizer], h.interceptor, h.site, h.waiting⟩
      simp only [htwins.call, h.provider]
      cases hc : a.call with
      | none =>
        exact hasked.finish ⟨a.caller, a.check, token, w.provider.answers token⟩
          ⟨a'.caller, a'.check, token, w.provider.answers token⟩ htwins.check rfl _
      | some name =>
        refine ⟨⟨h.clock, rfl, hasked.authorizer, h.interceptor, h.site, ?_⟩, rfl⟩
        refine h.waiting.hold ⟨htwins.check, rfl, rfl, ?_⟩
        rcases htwins.cancelable with hnames | hsame
        · exact .inl (hnames name hc)
        · exact .inr hsame

theorem parallel_of_arrival (h : Beside spared w u) {e e' : Event} {a a' : Arrival}
    (ha : w.arrival? e = some a) (ha' : u.arrival? e' = some a') (htwins : a.Twins spared a') :
    Parallel spared ⟨w, e⟩ ⟨u, e'⟩ :=
  ⟨h, h.course_of_arrival ha ha' htwins, h.same_of_arrival ha ha' htwins⟩

theorem going? (h : Beside spared w u) {e : Event}
    (hspared : ∀ name, spared name → e.cancels name = false) :
    (w.going? e = none ∧ u.going? e = none)
      ∨ ∃ name l l' answer, w.going? e = some (name, l, answer)
        ∧ u.going? e = some (name, l', answer) ∧ Waiting.Twins spared name l l' := by
  cases e with
  | release name =>
    rcases h.waiting.find? name with ⟨hw, hu⟩ | ⟨l, l', hw, hu, hl⟩
    · exact .inl (by simp [World.going?, hw, hu])
    · exact .inr ⟨name, l, l', l.answer, by simp [World.going?, hw],
        by simp [World.going?, hu, hl.answer], hl⟩
  | cancel name =>
    rcases h.waiting.find? name with ⟨hw, hu⟩ | ⟨l, l', hw, hu, hl⟩
    · exact .inl (by simp [World.going?, hw, hu])
    · have hsame : l'.caller.isCancelable = l.caller.isCancelable :=
        hl.cancelable.resolve_left fun hs => by simpa [Event.cancels] using hspared name hs
      cases hcancelable : l.caller.isCancelable with
      | false => exact .inl (by simp [World.going?, hw, hu, hsame, hcancelable])
      | true =>
        exact .inr ⟨name, l, l', .error .canceled, by simp [World.going?, hw, hcancelable],
          by simp [World.going?, hu, hsame, hcancelable], hl⟩
  | cancelRelease name =>
    rcases h.waiting.find? name with ⟨hw, hu⟩ | ⟨l, l', hw, hu, hl⟩
    · exact .inl (by simp [World.going?, hw, hu])
    · have hsame : l'.caller.isCancelable = l.caller.isCancelable :=
        hl.cancelable.resolve_left fun hs => by simpa [Event.cancels] using hspared name hs
      exact .inr ⟨name, l, l', if l.caller.isCancelable then .error .canceled else l.answer,
        by simp only [World.going?, hw, Option.map_some],
        by simp only [World.going?, hu, hsame, hl.answer, Option.map_some], hl⟩
  | _ => exact .inl ⟨rfl, rfl⟩

/-- An event that makes no check and lets none go on has the same effect at both gates, and nobody
can tell them apart by it. -/
theorem same_of_idle (h : Beside spared w u) {e : Event} (ha : w.arrival? e = none)
    (hg : w.going? e = none) (hg' : u.going? e = none) :
    SameButTransport spared (w.step e) (u.step e) ∧ u.reply e = w.reply e
      ∧ ∃ rs, (w.step e).1.ran = w.ran ++ rs ∧ (u.step e).1.ran = u.ran ++ rs := by
  have hidle := World.idles_step ha hg
  rw [World.reply, World.reply]
  generalize w.step e = r at hidle
  cases hidle with
  | passed harrive =>
    simp only [World.step, World.receiveCall, h.interceptor, harrive]
    exact ⟨h.deliver _ _, rfl, _, rfl, rfl⟩
  | undeclared harrive =>
    simp only [World.step, World.receiveCall, h.interceptor, harrive]
    have hcount : Beside spared (w.count .internal) (u.count .internal) := by
      refine ⟨h.clock, h.provider, ?_, h.interceptor, h.site, h.waiting⟩
      simp only [World.count, h.authorizer]
    exact ⟨hcount.deliver _ _, rfl, _, rfl, rfl⟩
  | unknown harrive =>
    simp only [World.step, World.receiveRequest, h.site, harrive]
    exact ⟨⟨h, rfl⟩, trivial, [], by simp, by simp⟩
  | unguarded harrive =>
    simp only [World.step, World.receiveRequest, h.site, h.clock, h.authorizer, harrive]
    exact ⟨h.deliver _ _, rfl, _, rfl, rfl⟩
  | purged =>
    have hpurged : (u.authorizer.purge u.clock.elapsed) = w.authorizer.purge w.clock.elapsed := by
      rw [h.clock, h.authorizer]
    simp only [World.step, hpurged]
    exact ⟨⟨⟨h.clock, h.provider, rfl, h.interceptor, h.site, h.waiting⟩, rfl⟩, trivial, [],
      by simp, by simp⟩
  | @answerSet token answer =>
    have hset : Beside spared { w with provider := w.provider.setAnswer token answer }
        { u with provider := u.provider.setAnswer token answer } :=
      ⟨h.clock, by rw [h.provider], h.authorizer, h.interceptor, h.site, h.waiting⟩
    exact ⟨⟨hset, rfl⟩, rfl, [], by simp, by simp [World.step]⟩
  | @advanced d =>
    have hadvanced : Beside spared { w with clock := w.clock.advance d }
        { u with clock := u.clock.advance d } :=
      ⟨by rw [h.clock], h.provider, h.authorizer, h.interceptor, h.site, h.waiting⟩
    exact ⟨⟨hadvanced, rfl⟩, rfl, [], by simp, by simp [World.step]⟩
  | absent hname hw =>
    rw [World.step_of_absent hname ((h.waiting.find?_eq_none_iff _).mp hw)]
    exact ⟨⟨h, rfl⟩, rfl, [], by simp, by simp⟩
  | @stayed name l hw hstays =>
    obtain ⟨l', hu, -⟩ := h.waiting.exists_of_find? hw
    have hstays' : l'.caller.isCancelable = false := by simpa [World.going?, hu] using hg'
    simp only [World.step, World.resume, hu, hstays']
    exact ⟨⟨h, rfl⟩, rfl, [], by simp, by simp⟩

theorem parallel (h : Beside spared w u) {e : Event}
    (hspared : ∀ name, spared name → e.cancels name = false) :
    Parallel spared ⟨w, e⟩ ⟨u, e⟩ := by
  cases ha : w.arrival? e with
  | some a =>
    have ha' : u.arrival? e = some a := by rw [h.arrival?, ha]
    exact h.parallel_of_arrival ha ha' ⟨rfl, rfl, rfl, .refl _, .inr rfl⟩
  | none =>
    have ha' : u.arrival? e = none := by rw [h.arrival?, ha]
    have hasked : w.asked? e = none := by simp only [World.asked?, ha]
    have hasked' : u.asked? e = none := by simp only [World.asked?, ha']
    have hheld : (u.held? e).map Prod.fst = (w.held? e).map Prod.fst := by
      simp only [World.held?, hasked, hasked']
    rcases h.going? hspared with ⟨hg, hg'⟩ | ⟨name, l, l', answer, hg, hg', hl⟩
    · refine ⟨h, ⟨⟨hheld, ?_⟩, ?_⟩, (h.same_of_idle ha hg hg').1⟩
      · show u.freed? e = w.freed? e
        rw [World.freed?, World.freed?, hg, hg']
      · show (u.ending? e).map Ending.evidence = (w.ending? e).map Ending.evidence
        simp only [World.ending?, World.answered?, hg, hg', hasked, hasked', World.settled?, ha,
          ha', Option.map_none]
    · refine ⟨h, ⟨⟨hheld, ?_⟩, ?_⟩, ?_⟩
      · show u.freed? e = w.freed? e
        rw [World.freed?, World.freed?, hg, hg']
        rfl
      · show (u.ending? e).map Ending.evidence = (w.ending? e).map Ending.evidence
        rw [World.ending?_of_going hg, World.ending?_of_going hg']
        rfl
      · have hdropped : Beside spared { w with waiting := w.waiting.drop name }
            { u with waiting := u.waiting.drop name } :=
          ⟨h.clock, h.provider, h.authorizer, h.interceptor, h.site, h.waiting.drop name⟩
        show SameButTransport spared (w.step e) (u.step e)
        rw [World.step_of_going hg, World.step_of_going hg']
        exact hdropped.finish l l' hl.check hl.token answer

end Beside

namespace Parallel

variable {spared : String → Prop} {m m' : Moment World Event}

theorem service_of_held (h : Parallel spared m m') {name : String} {l : Waiting}
    (hh : m.state.held? m.event = some (name, l)) : SameService m m' := by
  obtain ⟨l', hh'⟩ := h.course.names.exists_held hh
  have hstep := World.step_of_held hh
  have hstep' := World.step_of_held hh'
  have hruns : m.state.runs m.event = [] :=
    World.runs_of_ran_step (by rw [hstep, List.append_nil])
  have hruns' : m'.state.runs m'.event = [] :=
    World.runs_of_ran_step (by rw [hstep', List.append_nil])
  exact ⟨by rw [World.reply, World.reply, hstep, hstep'], by rw [hruns, hruns']⟩

theorem service_of_unended {w u : World} {e : Event} (h : Parallel spared ⟨w, e⟩ ⟨u, e⟩)
    (hx : w.ending? e = none) : SameService ⟨w, e⟩ ⟨u, e⟩ := by
  cases hh : w.held? e with
  | some held => exact h.service_of_held hh
  | none =>
    have hnames := h.course.names.held.trans (congrArg (Option.map Prod.fst) hh)
    have hevidence := h.course.evidence.trans (congrArg (Option.map Ending.evidence) hx)
    have hh' : u.held? e = none := Option.map_eq_none_iff.mp hnames
    have hx' : u.ending? e = none := Option.map_eq_none_iff.mp hevidence
    obtain ⟨ha, hg⟩ := World.idle_of_none hx hh
    obtain ⟨-, hg'⟩ := World.idle_of_none hx' hh'
    obtain ⟨-, hreply, rs, hran, hran'⟩ := h.beside.same_of_idle ha hg hg'
    exact ⟨hreply, (World.runs_of_ran_step hran').trans (World.runs_of_ran_step hran).symm⟩

theorem service_of_ended (h : Parallel spared m m') {x x' : Ending}
    (hx : m.state.ending? m.event = some x) (hx' : m'.state.ending? m'.event = some x')
    (hcaller : x'.caller = x.caller) (hdecision : x'.decision = x.decision) :
    SameService m m' := by
  cases hd : x.decision with
  | ok client =>
    obtain ⟨hreply, hran⟩ := World.served_of_admission hx hd
    obtain ⟨hreply', hran'⟩ := World.served_of_admission hx' (hdecision.trans hd)
    refine ⟨?_, ?_⟩
    · rw [hreply, hreply', hcaller, h.beside.clock, h.same.beside.authorizer]
    · rw [World.runs_of_ran_step hran, World.runs_of_ran_step hran', hcaller]
  | error rejection =>
    obtain ⟨hreply, hran⟩ := World.served_of_rejection hx hd
    obtain ⟨hreply', hran'⟩ := World.served_of_rejection hx' (hdecision.trans hd)
    refine ⟨by rw [hreply, hreply', hcaller], ?_⟩
    rw [World.runs_of_ran_step (hran.trans (List.append_nil _).symm),
      World.runs_of_ran_step (hran'.trans (List.append_nil _).symm)]

end Parallel

end Gate

end ScopeGate
