import ScopeGate.Proofs.Gate.Arrivals
import ScopeGate.Proofs.Run.Calls

/-!
# What an event does to checks

An event can begin a check, let it wait, let it go on and end it, and each of these has a function
of its own here: `arrival?`, `held?`, `going?` and `ending?`. What becomes of a check as it begins
is said once (`Begins`). A step is read off these functions, see `step_of_ending`, `step_of_held`
and `step_of_idle`. Whatever ends a check ends it through `close`: with what the introspector has
become, and with a reply and signals that the ruling decides.
-/

namespace ScopeGate.Gate

def evidenceOf : Answer → Except Rejection (Lookup Verdict)
  | .ok v => .ok ⟨v, false⟩
  | .error fault => .error (.introspection fault)

def Event.resumes? : Event → Option String
  | .release name => some name
  | .cancel name => some name
  | .cancelRelease name => some name
  | _ => none

def Waiting.ending (l : Waiting) (answer : Answer) : Ending :=
  ⟨l.caller, l.check, evidenceOf answer⟩

namespace World

def close (i : Introspector) (logs : List LogEvent) (x : Ending) (w : World) :
    World × Reply × List Signal :=
  let authorizer : Authorizer := ⟨i, w.authorizer.metrics.recordRuling x.evidence x.ruling⟩
  { w with authorizer }.deliver (x.caller.serve w.clock authorizer x.ruling)
    (logs.map Signal.log ++ x.caller.signals x.ruling)

theorem finish_eq (w : World) (l : Waiting) (answer : Answer) :
    w.finish l answer =
      w.close (w.authorizer.introspector.complete w.clock l.token answer).1
        (w.authorizer.introspector.complete w.clock l.token answer).2.1 (l.ending answer) := by
  cases answer with
  | error fault => rfl
  | ok v =>
    have hresult := Introspector.complete_ok w.clock l.token v w.authorizer.introspector
    simp only [finish, Authorizer.finish, hresult]
    rfl

/-- The call for which an event is to make a check. -/
def arrival? (w : World) : Event → Option Arrival
  | .authorize call canceled fields required policy =>
    some ⟨call, canceled, fields, .direct, ⟨required, policy, Check.freshRecord "direct"⟩⟩
  | .rpc call canceled request use =>
    match w.interceptor.arrive request with
    | .checked check => some ⟨call, canceled, request.fields, .rpc request use, check⟩
    | _ => none
  | .http call canceled cancelable request =>
    match w.site.arrive request with
    | .checked route check =>
      some ⟨call, canceled && cancelable, request.fields, .http request route cancelable, check⟩
    | _ => none
  | _ => none

/-- The check that waited until an event, with its name and the answer that it goes on with. -/
def going? (w : World) : Event → Option (String × Waiting × Answer)
  | .release name => (w.waiting.find? name).map fun l => (name, l, l.answer)
  | .cancel name =>
    ((w.waiting.find? name).filter fun l => l.caller.isCancelable).map fun l =>
      (name, l, .error .canceled)
  | .cancelRelease name =>
    (w.waiting.find? name).map fun l =>
      (name, l, if l.caller.isCancelable then .error .canceled else l.answer)
  | _ => none

def asked? (w : World) (e : Event) : Option (Option String × Waiting) :=
  match w.arrival? e with
  | none => none
  | some a =>
    match (a.begin w.clock w.authorizer.introspector).2 with
    | .settled _ => none
    | .asking token => some (a.call, ⟨a.caller, a.check, token, w.provider.answers token⟩)

def held? (w : World) (e : Event) : Option (String × Waiting) :=
  match w.asked? e with
  | some (some name, l) => some (name, l)
  | _ => none

def freed? (w : World) (e : Event) : Option String := (w.going? e).map Prod.fst

def answered? (w : World) (e : Event) : Option (Waiting × Answer) :=
  match w.going? e, w.asked? e with
  | some (_, l, answer), _ => some (l, answer)
  | none, some (none, l) => some (l, l.answer)
  | none, _ => none

def settled? (w : World) (e : Event) : Option Ending :=
  match w.arrival? e with
  | none => none
  | some a =>
    match (a.begin w.clock w.authorizer.introspector).2 with
    | .settled evidence => some ⟨a.caller, a.check, evidence⟩
    | .asking _ => none

/-- The check that an event ends. -/
def ending? (w : World) (e : Event) : Option Ending :=
  match w.answered? e with
  | some (l, answer) => some (l.ending answer)
  | none => w.settled? e

def looked (w : World) (e : Event) : Introspector :=
  match w.arrival? e, e with
  | some a, _ => (a.begin w.clock w.authorizer.introspector).1
  | none, .purge => (w.authorizer.introspector.purge w.clock.elapsed).1
  | none, _ => w.authorizer.introspector

def consulted (w : World) (e : Event) : Provider :=
  match w.asked? e with
  | none => w.provider
  | some (_, l) => (w.provider.ask l.token).1

/-- The introspector once it has taken the answer that an event ends a check with, and what it logs
of it. -/
def taken (w : World) (e : Event) : Introspector × List LogEvent :=
  match w.answered? e with
  | none => (w.looked e, [])
  | some (l, answer) =>
    let (i, logs, _) := (w.looked e).complete w.clock l.token answer
    (i, logs)

end World

def traffic : Traffic World Event Waiting := ⟨World.waiting, World.held?, World.freed?⟩

namespace World

inductive Arrives (w : World) : Event → Arrival → Prop where
  | direct {call : Option String} {canceled : Bool} {fields : List Http.Field}
      {required : RequiredScopes} {policy : CredentialPolicy} :
      Arrives w (.authorize call canceled fields required policy)
        ⟨call, canceled, fields, .direct, ⟨required, policy, Check.freshRecord "direct"⟩⟩
  | rpc {call : Option String} {canceled : Bool} {request : Rpc.Request} {use : CallUse}
      {required : RequiredScopes} (hserver : request.isClient = false)
      (hrequired : w.interceptor.methods.find? request.procedure = some required) :
      Arrives w (.rpc call canceled request use)
        ⟨call, canceled, request.fields, .rpc request use,
          ⟨required, w.interceptor.policy, Rpc.Interceptor.record request.procedure⟩⟩
  | http {call : Option String} {canceled cancelable : Bool} {request : Http.Request}
      {route : Http.Route} {required : RequiredScopes}
      (hroute : w.site.route? request.path = some route)
      (hrequired : route.required = some required) :
      Arrives w (.http call canceled cancelable request)
        ⟨call, canceled && cancelable, request.fields, .http request route cancelable,
          ⟨required, w.site.policy, Http.Site.record request⟩⟩

theorem arrives_of_arrival {w : World} {e : Event} {a : Arrival} (h : w.arrival? e = some a) :
    w.Arrives e a := by
  cases e with
  | authorize call canceled fields required policy =>
    cases h
    exact .direct
  | rpc call canceled request use =>
    have harrives := Rpc.arrives w.interceptor request
    dsimp only [arrival?] at h
    generalize w.interceptor.arrive request = r at harrives h
    cases harrives with
    | checked hserver hrequired =>
      cases h
      exact .rpc hserver hrequired
    | _ => cases h
  | http call canceled cancelable request =>
    have harrives := Http.arrives w.site request
    dsimp only [arrival?] at h
    generalize w.site.arrive request = r at harrives h
    cases harrives with
    | checked hroute hrequired =>
      cases h
      exact .http hroute hrequired
    | _ => cases h
  | _ => cases h

theorem arrival?_eq_none_of_going {w : World} {e : Event} {x : String × Waiting × Answer}
    (h : w.going? e = some x) : w.arrival? e = none := by
  cases e with
  | release name => rfl
  | cancel name => rfl
  | cancelRelease name => rfl
  | _ => cases h

theorem going?_eq_none_of_arrival {w : World} {e : Event} {a : Arrival}
    (h : w.arrival? e = some a) : w.going? e = none := by
  cases hg : w.going? e with
  | none => rfl
  | some x =>
    rw [arrival?_eq_none_of_going hg] at h
    cases h

theorem freed?_eq_none_of_arrival {w : World} {e : Event} {a : Arrival}
    (h : w.arrival? e = some a) : w.freed? e = none := by
  rw [freed?, going?_eq_none_of_arrival h, Option.map_none]

/-- Whoever makes a call that is to be checked, it is checked in the same way. -/
theorem step_of_arrival {w : World} {e : Event} {a : Arrival} (h : w.arrival? e = some a) :
    w.step e = w.start a.call a.canceled a.fields a.caller a.check := by
  cases e with
  | authorize call canceled fields required policy =>
    cases h
    rfl
  | rpc call canceled request use =>
    cases hr : w.interceptor.arrive request with
    | checked check =>
      simp only [arrival?, hr, Option.some.injEq] at h
      rw [← h]
      simp [step, receiveCall, hr]
    | _ => simp [arrival?, hr] at h
  | http call canceled cancelable request =>
    cases hr : w.site.arrive request with
    | checked route check =>
      simp only [arrival?, hr, Option.some.injEq] at h
      rw [← h]
      simp [step, receiveRequest, hr]
    | _ => simp [arrival?, hr] at h
  | _ => cases h

theorem start_eq (w : World) (a : Arrival) :
    w.start a.call a.canceled a.fields a.caller a.check =
      match a.begin w.clock w.authorizer.introspector with
      | (i, .settled evidence) => w.close i [] ⟨a.caller, a.check, evidence⟩
      | (i, .asking token) =>
        let l : Waiting := ⟨a.caller, a.check, token, w.provider.answers token⟩
        let w : World :=
          { w with
            authorizer := { w.authorizer with introspector := i }
            provider := (w.provider.ask token).1 }
        match a.call with
        | none => w.finish l l.answer
        | some name => ({ w with waiting := w.waiting.hold name l }, .pending name, []) := by
  unfold start
  rw [Arrival.start_eq]
  cases a.begin w.clock w.authorizer.introspector with
  | mk i b =>
    cases b with
    | settled evidence => rfl
    | asking token => cases a.call <;> rfl

theorem step_of_going {w : World} {e : Event} {name : String} {l : Waiting} {answer : Answer}
    (h : w.going? e = some (name, l, answer)) :
    w.step e = { w with waiting := w.waiting.drop name }.finish l answer := by
  cases e with
  | release other =>
    obtain ⟨l', hl, he⟩ := Option.map_eq_some_iff.mp h
    cases he
    simp [step, resume, hl]
  | cancel other =>
    obtain ⟨l', hl, he⟩ := Option.map_eq_some_iff.mp h
    obtain ⟨hl, hcancelable⟩ := Option.filter_eq_some_iff.mp hl
    cases he
    simp [step, resume, hl, hcancelable]
  | cancelRelease other =>
    obtain ⟨l', hl, he⟩ := Option.map_eq_some_iff.mp h
    cases he
    cases hcancelable : l.caller.isCancelable <;> simp [step, resume, hl, hcancelable]
  | _ => cases h

theorem step_of_absent {w : World} {e : Event} {name : String} (he : e.resumes? = some name)
    (h : w.waiting.find? name = none) : w.step e = (w, .noSuchCall, []) := by
  cases e with
  | release other =>
    cases he
    simp only [step, resume, h]
  | cancel other =>
    cases he
    simp only [step, resume, h]
  | cancelRelease other =>
    cases he
    simp only [step, resume, h]
  | _ => cases he

inductive Idles (w : World) : Event → World × Reply × List Signal → Prop where
  | passed {call : Option String} {canceled : Bool} {request : Rpc.Request} {use : CallUse}
      (h : w.interceptor.arrive request = .passed) :
      Idles w (.rpc call canceled request use) (w.deliver (use.apply (.ok request)) [])
  | undeclared {call : Option String} {canceled : Bool} {request : Rpc.Request} {use : CallUse}
      (h : w.interceptor.arrive request = .undeclared) :
      Idles w (.rpc call canceled request use)
        ((w.count .internal).deliver
          (use.apply (.error ⟨.internal, Rpc.Interceptor.undeclaredMessage⟩))
          (Rpc.Interceptor.undeclaredSignals request.procedure))
  | unknown {call : Option String} {canceled cancelable : Bool} {request : Http.Request}
      (h : w.site.arrive request = .unknown) :
      Idles w (.http call canceled cancelable request) (w, .responded (.bare 404), [])
  | unguarded {call : Option String} {canceled cancelable : Bool} {request : Http.Request}
      {route : Http.Route} (h : w.site.arrive request = .unguarded route) :
      Idles w (.http call canceled cancelable request)
        (w.deliver (.ofServed route (route.serve w.clock w.authorizer request)) [])
  | absent {e : Event} {name : String} (he : e.resumes? = some name)
      (h : w.waiting.find? name = none) : Idles w e (w, .noSuchCall, [])
  | stayed {name : String} {l : Waiting} (h : w.waiting.find? name = some l)
      (hl : l.caller.isCancelable = false) : Idles w (.cancel name) (w, .pending name, [])
  | purged :
      Idles w .purge
        ({ w with authorizer := (w.authorizer.purge w.clock.elapsed).1 },
          .purged (w.authorizer.purge w.clock.elapsed).2, [])
  | answerSet {token : String} {answer : Answer} :
      Idles w (.setAnswer token answer)
        ({ w with provider := w.provider.setAnswer token answer }, .done, [])
  | advanced {d : Duration} :
      Idles w (.advance d) ({ w with clock := w.clock.advance d }, .done, [])

theorem idles_step {w : World} {e : Event} (ha : w.arrival? e = none) (hg : w.going? e = none) :
    Idles w e (w.step e) := by
  cases e with
  | authorize call canceled fields required policy => cases ha
  | rpc call canceled request use =>
    simp only [step, receiveCall]
    cases hr : w.interceptor.arrive request with
    | passed => exact .passed hr
    | undeclared => exact .undeclared hr
    | checked check => simp [arrival?, hr] at ha
  | http call canceled cancelable request =>
    simp only [step, receiveRequest]
    cases hr : w.site.arrive request with
    | unknown => exact .unknown hr
    | unguarded route => exact .unguarded hr
    | checked route check => simp [arrival?, hr] at ha
  | release name =>
    have hnone : w.waiting.find? name = none := by simpa [going?] using hg
    rw [step_of_absent rfl hnone]
    exact .absent rfl hnone
  | cancel name =>
    cases hl : w.waiting.find? name with
    | none =>
      rw [step_of_absent rfl hl]
      exact .absent rfl hl
    | some l =>
      have hstays : l.caller.isCancelable = false := by simpa [going?, hl] using hg
      simp only [step, resume, hl, hstays]
      exact .stayed hl hstays
  | cancelRelease name =>
    have hnone : w.waiting.find? name = none := by simpa [going?] using hg
    rw [step_of_absent rfl hnone]
    exact .absent rfl hnone
  | purge => exact .purged
  | setAnswer token answer => exact .answerSet
  | advance d => exact .advanced

/-- An event that makes no check and lets none go on may purge the cache. It leaves the checks that
wait and the endpoints as they are. -/
theorem step_of_idle {w : World} {e : Event} (ha : w.arrival? e = none) (hg : w.going? e = none) :
    (w.step e).1.authorizer.introspector = w.looked e ∧ (w.step e).1.waiting = w.waiting
      ∧ (w.step e).1.interceptor = w.interceptor ∧ (w.step e).1.site = w.site := by
  have hidle := idles_step ha hg
  unfold looked
  generalize w.step e = r at hidle
  cases hidle with
  | absent he =>
    refine ⟨?_, rfl, rfl, rfl⟩
    cases e with
    | purge => cases he
    | _ => simp only [ha]
  | purged => exact ⟨rfl, rfl, rfl, rfl⟩
  | undeclared => exact ⟨by simp only [ha]; rfl, rfl, rfl, rfl⟩
  | _ => exact ⟨by simp only [ha, deliver], rfl, rfl, rfl⟩

theorem looked_of_arrival {w : World} {e : Event} {a : Arrival} (h : w.arrival? e = some a) :
    w.looked e = (a.begin w.clock w.authorizer.introspector).1 := by
  simp only [looked, h]

theorem looked_of_going {w : World} {e : Event} {x : String × Waiting × Answer}
    (h : w.going? e = some x) : w.looked e = w.authorizer.introspector := by
  have ha := arrival?_eq_none_of_going h
  cases e with
  | purge => cases h
  | _ => simp only [looked, ha]

theorem asked?_of_settled {w : World} {e : Event} {a : Arrival}
    {evidence : Except Rejection (Lookup Verdict)} (ha : w.arrival? e = some a)
    (hb : (a.begin w.clock w.authorizer.introspector).2 = .settled evidence) :
    w.asked? e = none := by
  simp only [asked?, ha, hb]

theorem asked?_of_asking {w : World} {e : Event} {a : Arrival} {token : String}
    (ha : w.arrival? e = some a)
    (hb : (a.begin w.clock w.authorizer.introspector).2 = .asking token) :
    w.asked? e = some (a.call, ⟨a.caller, a.check, token, w.provider.answers token⟩) := by
  simp only [asked?, ha, hb]

theorem asked?_of_going {w : World} {e : Event} {x : String × Waiting × Answer}
    (h : w.going? e = some x) : w.asked? e = none := by
  simp only [asked?, arrival?_eq_none_of_going h]

theorem ending?_of_going {w : World} {e : Event} {name : String} {l : Waiting} {answer : Answer}
    (h : w.going? e = some (name, l, answer)) : w.ending? e = some (l.ending answer) := by
  simp only [ending?, answered?, h]

theorem ending?_of_settled {w : World} {e : Event} {a : Arrival}
    {evidence : Except Rejection (Lookup Verdict)} (ha : w.arrival? e = some a)
    (hb : (a.begin w.clock w.authorizer.introspector).2 = .settled evidence) :
    w.ending? e = some ⟨a.caller, a.check, evidence⟩ := by
  simp only [ending?, answered?, going?_eq_none_of_arrival ha, asked?_of_settled ha hb, settled?,
    ha, hb]

/-- What becomes of a call that is to be checked: its check is settled as it begins, it gets the
answer at once, or it waits for the answer under its name. -/
inductive Begins (w : World) (e : Event) (a : Arrival) : Prop where
  | settled {evidence : Except Rejection (Lookup Verdict)}
      (hb : (a.begin w.clock w.authorizer.introspector).2 = .settled evidence)
      (hasked : w.asked? e = none) (hheld : w.held? e = none)
      (hx : w.ending? e = some ⟨a.caller, a.check, evidence⟩)
  | answered {token : String} {l : Waiting}
      (hb : (a.begin w.clock w.authorizer.introspector).2 = .asking token)
      (hl : l = ⟨a.caller, a.check, token, w.provider.answers token⟩) (hcall : a.call = none)
      (hasked : w.asked? e = some (none, l)) (hheld : w.held? e = none)
      (hx : w.ending? e = some (l.ending l.answer))
  | held {token name : String} {l : Waiting}
      (hb : (a.begin w.clock w.authorizer.introspector).2 = .asking token)
      (hl : l = ⟨a.caller, a.check, token, w.provider.answers token⟩) (hcall : a.call = some name)
      (hasked : w.asked? e = some (some name, l)) (hheld : w.held? e = some (name, l))
      (hx : w.ending? e = none)

theorem begins_of_arrival {w : World} {e : Event} {a : Arrival} (ha : w.arrival? e = some a) :
    w.Begins e a := by
  have hg := going?_eq_none_of_arrival ha
  cases hb : (a.begin w.clock w.authorizer.introspector).2 with
  | settled evidence =>
    have hasked := asked?_of_settled ha hb
    exact .settled hb hasked (by simp only [held?, hasked]) (ending?_of_settled ha hb)
  | asking token =>
    have hasked := asked?_of_asking ha hb
    cases hc : a.call with
    | none =>
      rw [hc] at hasked
      exact .answered hb rfl hc hasked (by simp only [held?, hasked])
        (by simp only [ending?, answered?, hg, hasked])
    | some name =>
      rw [hc] at hasked
      exact .held hb rfl hc hasked (by simp only [held?, hasked])
        (by simp only [ending?, answered?, hg, hasked, settled?, ha, hb])

theorem held?_of_arrival {w : World} {e : Event} {a : Arrival} (ha : w.arrival? e = some a) :
    w.held? e =
      match (a.begin w.clock w.authorizer.introspector).2, a.call with
      | .asking token, some name =>
        some (name, ⟨a.caller, a.check, token, w.provider.answers token⟩)
      | _, _ => none := by
  cases begins_of_arrival ha with
  | settled hb _ hheld _ => rw [hheld, hb]
  | answered hb _ hcall _ hheld _ => rw [hheld, hb, hcall]
  | held hb hl hcall _ hheld _ => rw [hheld, hb, hcall, hl]

theorem ending?_of_arrival {w : World} {e : Event} {a : Arrival} (ha : w.arrival? e = some a) :
    w.ending? e =
      match (a.begin w.clock w.authorizer.introspector).2, a.call with
      | .settled evidence, _ => some ⟨a.caller, a.check, evidence⟩
      | .asking token, none => some ⟨a.caller, a.check, evidenceOf (w.provider.answers token)⟩
      | .asking _, some _ => none := by
  cases begins_of_arrival ha with
  | settled hb _ _ hx => rw [hx, hb]
  | answered hb hl hcall _ _ hx =>
    rw [hx, hb, hcall, hl]
    rfl
  | held hb _ hcall _ _ hx => rw [hx, hb, hcall]

theorem held?_eq_none_of_ending {w : World} {e : Event} {a : Arrival} {x : Ending}
    (ha : w.arrival? e = some a) (hx : w.ending? e = some x) : w.held? e = none := by
  cases begins_of_arrival ha with
  | settled _ _ hheld _ => exact hheld
  | answered _ _ _ _ hheld _ => exact hheld
  | held _ _ _ _ _ hx' =>
    rw [hx'] at hx
    cases hx

theorem exists_held_of_arrival {w : World} {e : Event} {a : Arrival}
    (ha : w.arrival? e = some a) (hx : w.ending? e = none) :
    ∃ name l, w.held? e = some (name, l) ∧ a.call = some name := by
  cases begins_of_arrival ha with
  | settled _ _ _ hx' =>
    rw [hx'] at hx
    cases hx
  | answered _ _ _ _ _ hx' =>
    rw [hx'] at hx
    cases hx
  | held _ _ hcall _ hheld _ => exact ⟨_, _, hheld, hcall⟩

theorem ending_of_arrival {w : World} {e : Event} {a : Arrival} {x : Ending}
    (ha : w.arrival? e = some a) (hx : w.ending? e = some x) :
    x.caller = a.caller ∧ x.check = a.check := by
  cases begins_of_arrival ha with
  | settled _ _ _ hx' =>
    rw [hx'] at hx
    cases hx
    exact ⟨rfl, rfl⟩
  | answered _ hl _ _ _ hx' =>
    rw [hx', hl] at hx
    cases hx
    exact ⟨rfl, rfl⟩
  | held _ _ _ _ _ hx' =>
    rw [hx'] at hx
    cases hx

/-- An event that ends a check looks into the cache, asks the provider and takes an answer as far as
the check needs it, and then closes the check. -/
theorem step_of_ending {w : World} {e : Event} {x : Ending} (h : w.ending? e = some x) :
    w.step e =
      { w with provider := w.consulted e, waiting := traffic.left w e }.close (w.taken e).1
        (w.taken e).2 x := by
  cases hg : w.going? e with
  | some going =>
    obtain ⟨name, l, answer⟩ := going
    rw [ending?_of_going hg] at h
    rw [step_of_going hg, finish_eq, ← Option.some.inj h]
    simp only [traffic, Traffic.left, freed?, hg, Option.map_some, consulted, asked?_of_going hg,
      taken, answered?, looked_of_going hg]
  | none =>
    cases ha : w.arrival? e with
    | none => simp [ending?, answered?, settled?, asked?, hg, ha] at h
    | some a =>
      have hlooked := looked_of_arrival ha
      rw [step_of_arrival ha, start_eq]
      cases hb : a.begin w.clock w.authorizer.introspector with
      | mk i b =>
        rw [hb] at hlooked
        cases begins_of_arrival ha with
        | settled hbegin hasked _ hx =>
          rw [hx] at h
          obtain rfl : b = _ := (congrArg Prod.snd hb).symm.trans hbegin
          rw [← Option.some.inj h]
          simp only [traffic, Traffic.left, freed?, hg, Option.map_none, consulted, hasked, taken,
            answered?, hlooked]
        | answered hbegin hl hcall hasked _ hx =>
          rw [hx] at h
          obtain rfl : b = _ := (congrArg Prod.snd hb).symm.trans hbegin
          rw [← Option.some.inj h]
          simp only [traffic, Traffic.left, freed?, hg, Option.map_none, consulted, hasked, hcall,
            taken, answered?, hlooked, finish_eq, hl]
          rfl
        | held _ _ _ _ _ hx =>
          rw [hx] at h
          cases h

/-- An event that lets a check wait has looked into the cache and asked the provider. -/
theorem step_of_held {w : World} {e : Event} {name : String} {l : Waiting}
    (h : w.held? e = some (name, l)) :
    w.step e =
      ({ w with
          authorizer := { w.authorizer with introspector := w.looked e }
          provider := w.consulted e
          waiting := w.waiting.hold name l }, .pending name, []) := by
  cases ha : w.arrival? e with
  | none => simp [held?, asked?, ha] at h
  | some a =>
    have hlooked := looked_of_arrival ha
    rw [step_of_arrival ha, start_eq]
    cases hb : a.begin w.clock w.authorizer.introspector with
    | mk i b =>
      rw [hb] at hlooked
      cases begins_of_arrival ha with
      | settled _ _ hheld _ =>
        rw [hheld] at h
        cases h
      | answered _ _ _ _ hheld _ =>
        rw [hheld] at h
        cases h
      | held hbegin hl hcall hasked hheld _ =>
        rw [hheld] at h
        cases h
        obtain rfl : b = _ := (congrArg Prod.snd hb).symm.trans hbegin
        simp only [consulted, hasked, hcall, hlooked, hl]

theorem idle_of_none {w : World} {e : Event} (hx : w.ending? e = none) (hh : w.held? e = none) :
    w.arrival? e = none ∧ w.going? e = none := by
  cases hg : w.going? e with
  | some going =>
    obtain ⟨name, l, answer⟩ := going
    rw [ending?_of_going hg] at hx
    cases hx
  | none =>
    cases ha : w.arrival? e with
    | none => exact ⟨rfl, rfl⟩
    | some a =>
      cases begins_of_arrival ha with
      | settled _ _ _ hx' =>
        rw [hx'] at hx
        cases hx
      | answered _ _ _ _ _ hx' =>
        rw [hx'] at hx
        cases hx
      | held _ _ _ _ hheld _ =>
        rw [hheld] at hh
        cases hh

theorem exists_arrival_of_asked {w : World} {e : Event} {call : Option String} {l : Waiting}
    (h : w.asked? e = some (call, l)) :
    ∃ a, w.arrival? e = some a
      ∧ (a.begin w.clock w.authorizer.introspector).2 = .asking l.token
      ∧ l.caller = a.caller ∧ l.check = a.check ∧ l.answer = w.provider.answers l.token := by
  cases ha : w.arrival? e with
  | none => simp [asked?, ha] at h
  | some a =>
    cases hb : (a.begin w.clock w.authorizer.introspector).2 with
    | settled evidence =>
      rw [asked?_of_settled ha hb] at h
      cases h
    | asking token =>
      rw [asked?_of_asking ha hb] at h
      cases h
      exact ⟨a, rfl, hb, rfl, rfl, rfl⟩

theorem asked?_of_held {w : World} {e : Event} {name : String} {l : Waiting}
    (h : w.held? e = some (name, l)) : w.asked? e = some (some name, l) := by
  unfold held? at h
  split at h
  · rename_i hasked
    cases h
    exact hasked
  · cases h

theorem going?_eq_none_of_asked {w : World} {e : Event} {x : Option String × Waiting}
    (h : w.asked? e = some x) : w.going? e = none := by
  obtain ⟨a, ha, -⟩ := exists_arrival_of_asked h
  exact going?_eq_none_of_arrival ha

theorem answered?_eq_none_of_ending {w : World} {e : Event} (h : w.ending? e = none) :
    w.answered? e = none := by
  cases ha : w.answered? e with
  | none => rfl
  | some x => simp [ending?, ha] at h

theorem introspector_step (w : World) (e : Event) :
    (w.step e).1.authorizer.introspector = (w.taken e).1 := by
  -- An event ends a check, lets one wait, or does neither. It never does both.
  cases hx : w.ending? e with
  | some x =>
    rw [step_of_ending hx]
    rfl
  | none =>
    have hlooked : (w.taken e).1 = w.looked e := by
      simp only [taken, answered?_eq_none_of_ending hx]
    rw [hlooked]
    cases hh : w.held? e with
    | some held => rw [step_of_held hh]
    | none =>
      obtain ⟨ha, hg⟩ := idle_of_none hx hh
      exact (step_of_idle ha hg).1

theorem waiting_step (w : World) (e : Event) : (w.step e).1.waiting = traffic.after w e := by
  cases hh : w.held? e with
  | some held =>
    have hgoing := going?_eq_none_of_asked (asked?_of_held hh)
    rw [step_of_held hh]
    simp only [traffic, Traffic.after, Traffic.left, hh, freed?, hgoing, Option.map_none]
  | none =>
    have hleft : traffic.after w e = traffic.left w e := by
      simp only [traffic, Traffic.after, hh]
    rw [hleft]
    cases hx : w.ending? e with
    | some x =>
      rw [step_of_ending hx]
      rfl
    | none =>
      obtain ⟨ha, hg⟩ := idle_of_none hx hh
      rw [(step_of_idle ha hg).2.1]
      simp only [traffic, Traffic.left, freed?, hg, Option.map_none]

theorem endpoints_step (w : World) (e : Event) :
    (w.step e).1.interceptor = w.interceptor ∧ (w.step e).1.site = w.site := by
  cases hx : w.ending? e with
  | some x =>
    rw [step_of_ending hx]
    exact ⟨rfl, rfl⟩
  | none =>
    cases hh : w.held? e with
    | some held =>
      rw [step_of_held hh]
      exact ⟨rfl, rfl⟩
    | none =>
      obtain ⟨ha, hg⟩ := idle_of_none hx hh
      exact (step_of_idle ha hg).2.2

def reply (w : World) (e : Event) : Reply := (w.step e).2.1

def signals (w : World) (e : Event) : List Signal := (w.step e).2.2

/-- What runs at an event. -/
def runs (w : World) (e : Event) : List Run := (w.step e).1.ran.drop w.ran.length

theorem runs_of_ran_step {w : World} {e : Event} {rs : List Run}
    (h : (w.step e).1.ran = w.ran ++ rs) : w.runs e = rs := by
  rw [runs, h, List.drop_left]

theorem exists_ran_step (w : World) (e : Event) : ∃ rs, (w.step e).1.ran = w.ran ++ rs := by
  cases hx : w.ending? e with
  | some x => exact ⟨_, by rw [step_of_ending hx]; rfl⟩
  | none =>
    cases hh : w.held? e with
    | some held => exact ⟨[], by rw [step_of_held hh, List.append_nil]⟩
    | none =>
      obtain ⟨ha, hg⟩ := idle_of_none hx hh
      have hidle := idles_step ha hg
      generalize w.step e = r at hidle
      cases hidle with
      | passed | undeclared | unguarded => exact ⟨_, rfl⟩
      | _ => exact ⟨[], (List.append_nil _).symm⟩

theorem ran_step (w : World) (e : Event) : (w.step e).1.ran = w.ran ++ w.runs e := by
  obtain ⟨rs, h⟩ := exists_ran_step w e
  rw [h, runs_of_ran_step h]

/-- What has run after some events is what has run before and what runs at each of them. -/
theorem ran_run (w : World) (es : List Event) :
    (w.run es).ran = w.ran
      ++ (moments (fun w e => (w.step e).1) w es).flatMap fun m => m.state.runs m.event := by
  induction es generalizing w with
  | nil => simp
  | cons e es ih =>
    rw [run_cons, ih, ran_step, moments_cons, List.flatMap_cons, List.append_assoc]

/-- A check that ends with an admission runs the handler or the page of its caller, once. -/
theorem served_of_admission {w : World} {e : Event} {x : Ending} {client : ClientInfo}
    (h : w.ending? e = some x) (hx : x.decision = .ok client) :
    w.reply e = x.caller.admitted w.clock (w.step e).1.authorizer client
      ∧ (w.step e).1.ran = w.ran ++ x.caller.runs client := by
  have hruling : x.ruling.decision = .ok client := hx
  have hserve := fun z => Caller.serve_of_ok w.clock z hruling x.caller
  rw [reply, step_of_ending h]
  simp only [close, deliver, hserve, and_self]

theorem served_of_rejection {w : World} {e : Event} {x : Ending} {rejection : Rejection}
    (h : w.ending? e = some x) (hx : x.decision = .error rejection) :
    w.reply e = x.caller.refused rejection ∧ (w.step e).1.ran = w.ran := by
  have hruling : x.ruling.decision = .error rejection := hx
  have hserve := fun z => Caller.serve_of_error w.clock z hruling x.caller
  rw [reply, step_of_ending h]
  simp only [close, deliver, hserve, List.append_nil, and_self]

/-- A call that is to be checked ends as it arrives, or waits. -/
theorem ending_or_pending_of_arrival {w : World} {e : Event} {a : Arrival}
    (h : w.arrival? e = some a) :
    (∃ x, w.ending? e = some x ∧ x.caller = a.caller ∧ x.check = a.check)
      ∨ ∃ name, a.call = some name ∧ w.reply e = .pending name := by
  cases begins_of_arrival h with
  | settled _ _ _ hx => exact .inl ⟨_, hx, rfl, rfl⟩
  | answered _ hl _ _ _ hx =>
    subst hl
    exact .inl ⟨_, hx, rfl, rfl⟩
  | held _ _ hcall _ hheld _ => exact .inr ⟨_, hcall, by rw [reply, step_of_held hheld]⟩

/-- What the operations of the introspector keep is kept as an event looks into the cache. -/
theorem looked_invariant {P : Introspector → Prop}
    (hbegin : ∀ i clock token, P i → P (i.begin clock token).1)
    (hpurge : ∀ i now, P i → P (i.purge now).1) {w : World} (h : P w.authorizer.introspector)
    (e : Event) : P (w.looked e) := by
  cases ha : w.arrival? e with
  | some a =>
    rw [looked_of_arrival ha]
    exact Arrival.introspector_begin hbegin h w.clock a
  | none =>
    cases e with
    | purge => exact hpurge _ w.clock.elapsed h
    | _ => simpa only [looked, ha] using h

/-- What every operation of the introspector keeps is kept by every event. -/
theorem introspector_invariant {P : Introspector → Prop}
    (hbegin : ∀ i clock token, P i → P (i.begin clock token).1)
    (hcomplete : ∀ i clock token answer, P i → P (i.complete clock token answer).1)
    (hpurge : ∀ i now, P i → P (i.purge now).1) {w : World} (h : P w.authorizer.introspector)
    (e : Event) : P (w.step e).1.authorizer.introspector := by
  have hlooked := looked_invariant hbegin hpurge h e
  rw [introspector_step]
  cases hx : w.answered? e with
  | none => simpa only [taken, hx] using hlooked
  | some answered =>
    simp only [taken, hx]
    exact hcomplete _ w.clock answered.1.token answered.2 hlooked

theorem key_looked (w : World) (e : Event) : (w.looked e).key = w.authorizer.introspector.key :=
  looked_invariant (P := fun i => i.key = w.authorizer.introspector.key)
    (fun i clock token h => (i.key_begin clock token).trans h)
    (fun i now h => (i.key_purge now).trans h) rfl e

theorem key_step (w : World) (e : Event) :
    (w.step e).1.authorizer.introspector.key = w.authorizer.introspector.key :=
  introspector_invariant (P := fun i => i.key = w.authorizer.introspector.key)
    (fun i clock token h => (i.key_begin clock token).trans h)
    (fun i clock token answer h => (i.key_complete clock token answer).trans h)
    (fun i now h => (i.key_purge now).trans h) rfl e

theorem hasSettings_step {key : String → Octets} {config : CacheConfig} {w : World}
    (h : w.authorizer.introspector.HasSettings key config) (e : Event) :
    (w.step e).1.authorizer.introspector.HasSettings key config :=
  introspector_invariant (fun _ clock token h => h.begin clock token)
    (fun _ clock token answer h => h.complete clock token answer) (fun _ now h => h.purge now) h e

/-- An entry after an event was there before, or it is the verdict that an event has just ended a
check with, on a token that is active and has not expired. -/
theorem mem_entries_step {w : World} {e : Event} {x : Cache.Entry Octets Verdict}
    (h : x ∈ (w.step e).1.authorizer.introspector.entries) :
    x ∈ w.authorizer.introspector.entries
      ∨ ∃ l, w.answered? e = some (l, .ok x.value)
        ∧ x.key = w.authorizer.introspector.key l.token ∧ x.storedAt = w.clock.elapsed
        ∧ Introspector.mayKeep w.clock.now x.value = true := by
  have hlooked : x ∈ (w.looked e).entries → x ∈ w.authorizer.introspector.entries :=
    looked_invariant (P := fun i => x ∈ i.entries → x ∈ w.authorizer.introspector.entries)
      (fun _ _ _ hold hx => hold (Introspector.mem_of_mem_entries_begin hx))
      (fun _ _ hold hx => hold (Introspector.mem_of_mem_entries_purge hx)) id e
  rw [introspector_step] at h
  cases hx : w.answered? e with
  | none =>
    simp only [taken, hx] at h
    exact .inl (hlooked h)
  | some answered =>
    obtain ⟨l, answer⟩ := answered
    simp only [taken, hx] at h
    rcases Introspector.mem_entries_complete h with hold | ⟨hkey, hvalue, hstored, hkeep⟩
    · exact .inl (hlooked hold)
    · right
      rw [key_looked] at hkey
      rw [hvalue]
      exact ⟨l, rfl, hkey, hstored, hkeep⟩

end World

end ScopeGate.Gate
