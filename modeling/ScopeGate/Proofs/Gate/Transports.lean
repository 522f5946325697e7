import ScopeGate.Proofs.Gate.Admission
import ScopeGate.Proofs.Gate.Beside

/-!
# One request by either transport

The same request can be made as a call of a procedure and as a request to a guarded page
(`Twofold`). Two runs that differ in nothing but the transport of one request stay beside each
other, and the check that the request leads to ends at the same moment with the same decision. Each
transport then acts on it in its own way. What a refused caller is told depends on the kind of the
rejection alone.
-/

namespace ScopeGate

inductive Rejection.Kind where
  | invalidCredential
  | canceled
  | failed
  | inactiveToken
  | userToken
  | insufficientScope
  deriving DecidableEq

def Rejection.kind : Rejection → Kind
  | invalidCredential _ => .invalidCredential
  | introspection fault => if fault.isCanceled then .canceled else .failed
  | inactiveToken _ => .inactiveToken
  | userToken _ _ => .userToken
  | insufficientScope _ _ _ _ => .insufficientScope

namespace Rejection.Kind

def status : Kind → Rpc.Status
  | invalidCredential => ⟨.unauthenticated, "invalid authorization header"⟩
  | canceled => ⟨.canceled, "unable to validate token"⟩
  | failed => ⟨.internal, "unable to validate token"⟩
  | inactiveToken => ⟨.permissionDenied, "permission denied"⟩
  | userToken => ⟨.permissionDenied, "user tokens not allowed"⟩
  | insufficientScope => ⟨.permissionDenied, "insufficient scope"⟩

def response : Kind → Http.Response
  | invalidCredential => .plain 401 "Unauthorized"
  | canceled => .plain 400 "Bad Request"
  | failed => .plain 500 "Internal Server Error"
  | inactiveToken => .plain 401 "Unauthorized: Inactive token"
  | userToken => .plain 403 "Forbidden: User tokens not allowed"
  | insufficientScope => .plain 403 "Forbidden: Missing required scope"

end Rejection.Kind

theorem Rpc.Status.ofRejection_eq (r : Rejection) : Rpc.Status.ofRejection r = r.kind.status := by
  cases r with
  | introspection fault =>
    cases hf : fault.isCanceled <;> simp [ofRejection, Rejection.kind, hf] <;> rfl
  | _ => rfl

theorem Http.Response.ofRejection_eq (r : Rejection) :
    Http.Response.ofRejection r = r.kind.response := by
  cases r with
  | introspection fault =>
    cases hf : fault.isCanceled <;> simp [ofRejection, Rejection.kind, hf] <;> rfl
  | _ => rfl

namespace Gate

/-- One request, as a call of a procedure and as a request to a page. Both carry the same header
fields, and the procedure and the page require the same. -/
structure Twofold (interceptor : Rpc.Interceptor) (site : Http.Site) where
  /-- The name under which the check waits. -/
  call : Option String
  canceled : Bool
  message : Rpc.Request
  handler : Rpc.Handler
  request : Http.Request
  cancelable : Bool
  route : Http.Route
  required : RequiredScopes
  isServed : message.isClient = false
  sameFields : request.fields = message.fields
  declared : interceptor.methods.find? message.procedure = some required
  routed : site.route? request.path = some route
  guarded : route.required = some required
  samePolicy : site.policy = interceptor.policy

namespace Twofold

variable {interceptor : Rpc.Interceptor} {site : Http.Site} (t : Twofold interceptor site)

def asCall : Event := .rpc t.call t.canceled t.message (.run t.handler)

def asRequest : Event := .http t.call t.canceled t.cancelable t.request

/-- The caller goes away in the same way by either transport: it can be told that it does, or it
stays. -/
def GoesAlike (es : List Event) : Prop :=
  t.cancelable = true
    ∨ t.canceled = false ∧ ∀ name, t.call = some name → ∀ e ∈ es, e.cancels name = false

def spared (es : List Event) (name : String) : Prop :=
  t.call = some name ∧ ∀ e ∈ es, e.cancels name = false

def callArrival : Arrival :=
  ⟨t.call, t.canceled, t.message.fields, .rpc t.message (.run t.handler),
    ⟨t.required, interceptor.policy, Rpc.Interceptor.record t.message.procedure⟩⟩

def requestArrival : Arrival :=
  ⟨t.call, t.canceled && t.cancelable, t.request.fields, .http t.request t.route t.cancelable,
    ⟨t.required, site.policy, Http.Site.record t.request⟩⟩

variable {w : World}

theorem arrival?_asCall (h : w.interceptor = interceptor) :
    w.arrival? t.asCall = some t.callArrival := by
  have harrive : w.interceptor.arrive t.message = .checked t.callArrival.check := by
    simp only [Rpc.Interceptor.arrive, t.isServed, h, t.declared]
    rfl
  simp only [World.arrival?, asCall, harrive]
  rfl

theorem arrival?_asRequest (h : w.site = site) :
    w.arrival? t.asRequest = some t.requestArrival := by
  have harrive : w.site.arrive t.request = .checked t.route t.requestArrival.check := by
    simp only [Http.Site.arrive, h, t.routed, t.guarded]
    rfl
  simp only [World.arrival?, asRequest, harrive]
  rfl

/-- Records that begin by either transport are the same but for what they say of it. -/
theorem record_twins (procedure : String) (request : Http.Request) :
    (Http.Site.record request).masked transportKeys
      = (Rpc.Interceptor.record procedure).masked transportKeys := by
  have htransport : Key.transport ∈ transportKeys := by decide
  have hprocedure : Key.procedure ∈ transportKeys := by decide
  simp only [Http.Site.record, Rpc.Interceptor.record, Check.freshRecord,
    TraceRecord.masked_setString_of_mem _ hprocedure,
    TraceRecord.masked_setString_of_mem _ htransport]

theorem arrival_twins {es : List Event} (halike : t.GoesAlike es) :
    t.callArrival.Twins (t.spared es) t.requestArrival := by
  refine ⟨rfl, ?_, t.sameFields, ⟨rfl, t.samePolicy, record_twins _ _⟩, ?_⟩
  · show (t.canceled && t.cancelable) = t.canceled
    rcases halike with hcancelable | ⟨hstays, -⟩
    · rw [hcancelable, Bool.and_true]
    · rw [hstays, Bool.false_and]
  · rcases halike with hcancelable | ⟨-, hspared⟩
    · exact .inr hcancelable
    · exact .inl fun name hname => ⟨hname, hspared name hname⟩

/-- What comes of a decision by either transport. -/
structure Concludes (m m' : Moment World Event) (decision : Except Rejection ClientInfo) :
    Prop where
  /-- The handler and the page run once, and see the client that was admitted and no other. -/
  admitted : ∀ client, decision = .ok client →
    m.state.reply m.event = .handled (t.handler { t.message with client := some client })
      ∧ (m.state.step m.event).1.ran
        = m.state.ran ++ [.handler t.handler { t.message with client := some client }]
      ∧ m'.state.reply m'.event = .responded (shown m'.state.clock
          (m'.state.step m'.event).1.authorizer { t.request with client := some client } t.route)
      ∧ (m'.state.step m'.event).1.ran
        = m'.state.ran ++ shows { t.request with client := some client } t.route
  refused : ∀ rejection, decision = .error rejection →
    m.state.reply m.event = .handled (.error rejection.kind.status)
      ∧ (m.state.step m.event).1.ran = m.state.ran
      ∧ m'.state.reply m'.event = .responded rejection.kind.response
      ∧ (m'.state.step m'.event).1.ran = m'.state.ran

theorem concludes {m m' : Moment World Event} {x x' : Ending}
    (hx : m.state.ending? m.event = some x) (hx' : m'.state.ending? m'.event = some x')
    (hcaller : x.caller = t.callArrival.caller) (hcaller' : x'.caller = t.requestArrival.caller)
    (hdecision : x'.decision = x.decision) : t.Concludes m m' x.decision := by
  constructor
  · intro client hadmitted
    obtain ⟨hreply, hran⟩ := World.served_of_admission hx hadmitted
    obtain ⟨hreply', hran'⟩ := World.served_of_admission hx' (hdecision.trans hadmitted)
    rw [hreply, hran, hreply', hran', hcaller, hcaller']
    exact ⟨rfl, rfl, rfl, rfl⟩
  · intro rejection hrejected
    obtain ⟨hreply, hran⟩ := World.served_of_rejection hx hrejected
    obtain ⟨hreply', hran'⟩ := World.served_of_rejection hx' (hdecision.trans hrejected)
    rw [hreply, hreply', hcaller, hcaller', ← Rpc.Status.ofRejection_eq,
      ← Http.Response.ofRejection_eq]
    exact ⟨rfl, hran, rfl, hran'⟩

end Twofold

section

variable {interceptor : Rpc.Interceptor} {site : Http.Site}

variable (clock : Clock) (provider : Provider) (key : String → Octets) (config : CacheConfig)

namespace Twofold

/-- The run in which the request is made as a call. -/
def callRun (t : Twofold interceptor site) (past es : List Event) : List (Moment World Event) :=
  history clock provider key config interceptor site (past ++ t.asCall :: es)

/-- The run in which the page is requested. -/
def pageRun (t : Twofold interceptor site) (past es : List Event) : List (Moment World Event) :=
  history clock provider key config interceptor site (past ++ t.asRequest :: es)

theorem parallel_runs (t : Twofold interceptor site) (past : List Event) {es : List Event}
    (halike : t.GoesAlike es) :
    List.Forall₂ (Parallel (t.spared es)) (t.callRun clock provider key config past es)
      (t.pageRun clock provider key config past es) := by
  obtain ⟨hinterceptor, hsite⟩ := endpoints_run clock provider key config interceptor site past
  have harrive : Parallel (t.spared es)
      ⟨(World.new clock provider (.keyed key config) interceptor site).run past, t.asCall⟩
      ⟨(World.new clock provider (.keyed key config) interceptor site).run past, t.asRequest⟩ :=
    (Beside.refl _).parallel_of_arrival (t.arrival?_asCall hinterceptor)
      (t.arrival?_asRequest hsite) (t.arrival_twins halike)
  have hrest : List.Forall₂ (fun m m' => Beside (t.spared es) m.state m'.state ∧ m.event = m'.event
        ∧ ∀ name, t.spared es name → m.event.cancels name = false)
      (moments (fun w e => (w.step e).1) _ es) (moments (fun w e => (w.step e).1) _ es) :=
    forall₂_moments (R := Beside (t.spared es))
      (E := fun e e' => e = e' ∧ ∀ name, t.spared es name → e.cancels name = false)
      (fun w u e e' h he => he.1 ▸ (h.parallel he.2).same.beside) harrive.same.beside
      (List.forall₂_same.mpr fun e he => ⟨rfl, fun name hname => hname.2 e he⟩)
  rw [callRun, pageRun, history_append, history_append]
  refine List.rel_append ?_ (.cons harrive ?_)
  · exact List.forall₂_same.mpr fun m _ => .refl m
  · refine hrest.imp ?_
    rintro ⟨w, e⟩ ⟨u, -⟩ ⟨h, rfl, hspared⟩
    exact h.parallel hspared

end Twofold

/-- What has run on account of the request in the end: its handler and its page once if its check
admits it, and nothing otherwise. -/
inductive Served (t : Twofold interceptor site) (calls : List (Moment World Event)) (i : Nat) :
    List Run → List Run → Prop where
  | once {j : Nat} {a : Arrival} {x : Ending} {client : ClientInfo} (checks : Checks calls i j a x)
      (admitted : x.decision = .ok client) :
      Served t calls i [.handler t.handler { t.message with client := some client }]
        (shows { t.request with client := some client } t.route)
  | never (h : ∀ j a x client, Checks calls i j a x → x.decision ≠ .ok client) :
      Served t calls i [] []

namespace Twofold

variable {clock provider key config}
variable (t : Twofold interceptor site) (past : List Event) {es : List Event}

theorem getElem?_callRun :
    (t.callRun clock provider key config past es)[past.length]?
      = some ⟨(World.new clock provider (.keyed key config) interceptor site).run past, t.asCall⟩ :=
  getElem?_history_append past es _

theorem getElem?_pageRun :
    (t.pageRun clock provider key config past es)[past.length]?
      = some
        ⟨(World.new clock provider (.keyed key config) interceptor site).run past, t.asRequest⟩ :=
  getElem?_history_append past es _

theorem event_eq {j : Nat} (hj : j ≠ past.length) {n n' : Moment World Event}
    (hn : (t.callRun clock provider key config past es)[j]? = some n)
    (hn' : (t.pageRun clock provider key config past es)[j]? = some n') : n'.event = n.event := by
  have hevent := event_of_getElem? hn
  rw [getElem?_append_cons_of_ne past es _ t.asRequest hj, event_of_getElem? hn'] at hevent
  exact Option.some.inj hevent

/-- The check of the request ends in both runs or in neither. -/
theorem exists_checks_iff (halike : t.GoesAlike es) (j : Nat) :
    (∃ a x, Checks (t.callRun clock provider key config past es) past.length j a x)
      ↔ ∃ a x, Checks (t.pageRun clock provider key config past es) past.length j a x := by
  obtain ⟨hinterceptor, hsite⟩ := endpoints_run clock provider key config interceptor site past
  have hcourse := (t.parallel_runs clock provider key config past halike).imp fun _ _ h => h.course
  constructor
  · rintro ⟨a, x, hchecks⟩
    exact ⟨_, exists_checks_of_sameCourse hcourse hchecks (fun _ h => (sound_history h).tracks)
      (t.getElem?_pageRun past) (t.arrival?_asRequest hsite)⟩
  · rintro ⟨a, x, hchecks⟩
    exact ⟨_, exists_checks_of_sameCourse (hcourse.flip.imp fun _ _ h => h.symm) hchecks
      (fun _ h => (sound_history h).tracks) (t.getElem?_callRun past)
      (t.arrival?_asCall hinterceptor)⟩

/-- The check of the request ends in both runs with the same decision. -/
theorem concludes_of_checks (halike : t.GoesAlike es) {j : Nat} {n n' : Moment World Event}
    (hn : (t.callRun clock provider key config past es)[j]? = some n)
    (hn' : (t.pageRun clock provider key config past es)[j]? = some n') {a a' : Arrival}
    {x x' : Ending}
    (hchecks : Checks (t.callRun clock provider key config past es) past.length j a x)
    (hchecks' : Checks (t.pageRun clock provider key config past es) past.length j a' x') :
    x'.decision = x.decision ∧ t.Concludes n n' x.decision := by
  obtain ⟨hinterceptor, hsite⟩ := endpoints_run clock provider key config interceptor site past
  have hx := hchecks.ending_eq hn
  have hx' := hchecks'.ending_eq hn'
  have hcall : t.callArrival = a := Option.some.inj
    ((t.arrival?_asCall hinterceptor).symm.trans (hchecks.arrival_eq (t.getElem?_callRun past)))
  have hrequest : t.requestArrival = a' := Option.some.inj
    ((t.arrival?_asRequest hsite).symm.trans (hchecks'.arrival_eq (t.getElem?_pageRun past)))
  subst hcall hrequest
  obtain ⟨m', hm', hsame⟩ :=
    getElem?_of_forall₂ (t.parallel_runs clock provider key config past halike) hn
  obtain rfl : m' = n' := Option.some.inj (hm'.symm.trans hn')
  have hdecision := hsame.course.decision_eq hx hx' <| by
    rw [hchecks.check, hchecks'.check]
    exact (t.arrival_twins halike).check
  exact ⟨hdecision, t.concludes hx hx' hchecks.caller hchecks'.caller hdecision⟩

/-- Nobody but the caller of the request can tell the two runs apart. -/
theorem service_of_other (halike : t.GoesAlike es) {j : Nat} {n n' : Moment World Event}
    (hn : (t.callRun clock provider key config past es)[j]? = some n)
    (hn' : (t.pageRun clock provider key config past es)[j]? = some n')
    (hother : ¬ ∃ a x, Checks (t.callRun clock provider key config past es) past.length j a x) :
    SameService n n' := by
  obtain ⟨hinterceptor, -⟩ := endpoints_run clock provider key config interceptor site past
  have hparallel := t.parallel_runs clock provider key config past halike
  obtain ⟨m', hm', hsame⟩ := getElem?_of_forall₂ hparallel hn
  obtain rfl : m' = n' := Option.some.inj (hm'.symm.trans hn')
  cases hx : n.state.ending? n.event with
  | some x =>
    -- The check that ends is another one, and its call arrived alike in both runs.
    obtain ⟨i, a, hchecks⟩ := exists_checks hn hx
    have hi : i ≠ past.length := by
      rintro rfl
      exact hother ⟨a, x, hchecks⟩
    obtain ⟨m, hm, ha⟩ := hchecks.begins
    obtain ⟨m'', hm'', hbegins⟩ := getElem?_of_forall₂ hparallel hm
    have ha' : m''.state.arrival? m''.event = some a := by
      rw [t.event_eq past hi hm hm'', hbegins.beside.arrival?, ha]
    obtain ⟨x', hchecks'⟩ := exists_checks_of_sameCourse (hparallel.imp fun _ _ h => h.course)
      hchecks (fun _ h => (sound_history h).tracks) hm'' ha'
    have hx' := hchecks'.ending_eq hn'
    have hdecision := hsame.course.decision_eq hx hx' <| by
      rw [hchecks.check, hchecks'.check]
      exact .refl _
    exact hsame.service_of_ended hx hx' (hchecks'.caller.trans hchecks.caller.symm) hdecision
  | none =>
    by_cases hj : j = past.length
    · subst hj
      obtain rfl : _ = n := Option.some.inj ((t.getElem?_callRun past).symm.trans hn)
      obtain ⟨name, l, hheld, -⟩ :=
        World.exists_held_of_arrival (t.arrival?_asCall hinterceptor) hx
      exact hsame.service_of_held hheld
    · obtain ⟨w, e⟩ := n
      obtain ⟨u, e'⟩ := m'
      obtain rfl : e' = e := t.event_eq past hj hn hn'
      exact hsame.service_of_unended hx

theorem waits_of_unended {n : Moment World Event}
    (hn : (t.callRun clock provider key config past es)[past.length]? = some n)
    (hother : ¬ ∃ a x, Checks (t.callRun clock provider key config past es) past.length past.length
      a x) :
    ∃ name, t.call = some name ∧ n.state.reply n.event = .pending name
      ∧ n.state.runs n.event = [] := by
  obtain ⟨hinterceptor, -⟩ := endpoints_run clock provider key config interceptor site past
  have ha := t.arrival?_asCall hinterceptor
  obtain rfl : _ = n := Option.some.inj ((t.getElem?_callRun past).symm.trans hn)
  cases hx : World.ending? _ t.asCall with
  | some x => exact absurd ⟨_, x, checks_of_arrival hn ha hx⟩ hother
  | none =>
    obtain ⟨name, l, hheld, hcall⟩ := World.exists_held_of_arrival ha hx
    have hstep := World.step_of_held hheld
    exact ⟨name, hcall, by rw [World.reply, hstep],
      World.runs_of_ran_step (by rw [hstep, List.append_nil])⟩

/-- The same runs at a moment of either run unless the request is admitted there. -/
theorem runs_eq_of_not_admitted (halike : t.GoesAlike es) {j : Nat}
    (hrefused : ∀ a x client,
      Checks (t.callRun clock provider key config past es) past.length j a x →
        x.decision ≠ .ok client) :
    ((t.pageRun clock provider key config past es).map fun m => m.state.runs m.event)[j]?
      = ((t.callRun clock provider key config past es).map fun m => m.state.runs m.event)[j]? := by
  have hparallel := t.parallel_runs clock provider key config past halike
  rw [List.getElem?_map, List.getElem?_map]
  cases hn : (t.callRun clock provider key config past es)[j]? with
  | none =>
    rw [List.getElem?_eq_none_iff, hparallel.length_eq] at hn
    rw [List.getElem?_eq_none hn]
  | some n =>
    obtain ⟨n', hn', -⟩ := getElem?_of_forall₂ hparallel hn
    rw [hn', Option.map_some, Option.map_some, Option.some.injEq]
    by_cases hends : ∃ a x, Checks (t.callRun clock provider key config past es) past.length j a x
    · obtain ⟨a, x, hchecks⟩ := hends
      obtain ⟨a', x', hchecks'⟩ := (t.exists_checks_iff past halike j).mp ⟨a, x, hchecks⟩
      obtain ⟨-, hconcludes⟩ := t.concludes_of_checks past halike hn hn' hchecks hchecks'
      cases hd : x.decision with
      | ok client => exact absurd hd (hrefused a x client hchecks)
      | error rejection =>
        obtain ⟨-, hran, -, hran'⟩ := hconcludes.refused rejection hd
        rw [World.runs_of_ran_step (hran.trans (List.append_nil _).symm),
          World.runs_of_ran_step (hran'.trans (List.append_nil _).symm)]
    · exact (t.service_of_other past halike hn hn' hends).runs

/-- What has run in the two runs is the same but for what has run on account of the request. -/
theorem exists_ran_eq (halike : t.GoesAlike es) :
    ∃ before mine mine' after,
      Served t (t.callRun clock provider key config past es) past.length mine mine'
      ∧ ((World.new clock provider (.keyed key config) interceptor site).run
          (past ++ t.asCall :: es)).ran = before ++ mine ++ after
      ∧ ((World.new clock provider (.keyed key config) interceptor site).run
          (past ++ t.asRequest :: es)).ran = before ++ mine' ++ after := by
  have hran := fun e : Event =>
    World.ran_run (World.new clock provider (.keyed key config) interceptor site) (past ++ e :: es)
  rw [hran t.asCall, hran t.asRequest]
  by_cases hadmitted : ∃ j a x client,
      Checks (t.callRun clock provider key config past es) past.length j a x
        ∧ x.decision = .ok client
  · obtain ⟨j, a, x, client, hchecks, hd⟩ := hadmitted
    obtain ⟨n, hn, -⟩ := hchecks.ends
    obtain ⟨n', hn', -⟩ :=
      getElem?_of_forall₂ (t.parallel_runs clock provider key config past halike) hn
    obtain ⟨a', x', hchecks'⟩ := (t.exists_checks_iff past halike j).mp ⟨a, x, hchecks⟩
    obtain ⟨-, hconcludes⟩ := t.concludes_of_checks past halike hn hn' hchecks hchecks'
    obtain ⟨-, hhandled, -, hshown⟩ := hconcludes.admitted client hd
    obtain ⟨before, after, hcalls, hpages⟩ := exists_flatMap_eq_of_agree
      (f := fun m : Moment World Event => m.state.runs m.event) hn hn' fun k hk =>
        t.runs_eq_of_not_admitted past halike fun b y _ hagain =>
          absurd (hagain.spans.end_unique hchecks.spans) hk
    rw [World.runs_of_ran_step hhandled] at hcalls
    rw [World.runs_of_ran_step hshown] at hpages
    exact ⟨before, _, _, after, .once hchecks hd, hcalls, hpages⟩
  · have hnever : ∀ j a x client,
        Checks (t.callRun clock provider key config past es) past.length j a x →
        x.decision ≠ .ok client :=
      fun j a x client hchecks hd => hadmitted ⟨j, a, x, client, hchecks, hd⟩
    have hagree := List.ext_getElem? fun j =>
      t.runs_eq_of_not_admitted past halike (hnever j)
    refine ⟨(t.callRun clock provider key config past es).flatMap fun m => m.state.runs m.event,
      [], [], [], .never hnever, ?_, ?_⟩
    · rw [List.append_nil, List.append_nil]
      rfl
    · rw [List.append_nil, List.append_nil]
      exact congrArg List.flatten hagree

end Twofold

/-- A request that is made by either transport leads to the same check in both runs. At every moment
both gates have the same cache, the same metrics and have asked the provider as often, and have
handed out records that differ in nothing but what they say of the transport. The check ends in both
runs or in neither, once, and with the same decision. If that is to admit the request, its handler
or page sees the client and no other one; otherwise neither is run, and what the caller is told
depends on the kind of the rejection alone. Until then the request waits, and at all other moments
the same is replied and run. In the end the handler has run once for a request that was admitted,
and so has the page if it was to be read; for a request that was refused neither has. -/
theorem transports_agree (t : Twofold interceptor site) (past es : List Event)
    (halike : t.GoesAlike es) :
    let calls := t.callRun clock provider key config past es
    let pages := t.pageRun clock provider key config past es
    let start := World.new clock provider (.keyed key config) interceptor site
    (∀ j n, calls[j]? = some n → ∃ n', pages[j]? = some n'
      ∧ (n'.state.step n'.event).1.authorizer = (n.state.step n.event).1.authorizer
      ∧ (n'.state.step n'.event).1.provider = (n.state.step n.event).1.provider
      ∧ (recordsOf (n'.state.signals n'.event)).map (TraceRecord.masked transportKeys)
        = (recordsOf (n.state.signals n.event)).map (TraceRecord.masked transportKeys)
      ∧ ((∃ a x, Checks calls past.length j a x) ↔ ∃ a' x', Checks pages past.length j a' x')
      ∧ (∀ a x a' x', Checks calls past.length j a x → Checks pages past.length j a' x' →
        x'.decision = x.decision ∧ t.Concludes n n' x.decision
          ∧ (∀ k b y, Checks calls past.length k b y → k = j)
          ∧ ∀ k b y, Checks pages past.length k b y → k = j)
      ∧ ((¬ ∃ a x, Checks calls past.length j a x) → SameService n n'
        ∧ (j = past.length → ∃ name, t.call = some name ∧ n.state.reply n.event = .pending name
          ∧ n.state.runs n.event = [])))
    ∧ ∃ before mine mine' after, Served t calls past.length mine mine'
      ∧ (start.run (past ++ t.asCall :: es)).ran = before ++ mine ++ after
      ∧ (start.run (past ++ t.asRequest :: es)).ran = before ++ mine' ++ after := by
  intro calls pages start
  refine ⟨fun j n hn => ?_, t.exists_ran_eq past halike⟩
  obtain ⟨n', hn', hsame⟩ :=
    getElem?_of_forall₂ (t.parallel_runs clock provider key config past halike) hn
  refine ⟨n', hn', hsame.same.beside.authorizer, hsame.same.beside.provider, hsame.same.records,
    t.exists_checks_iff past halike j, fun a x a' x' hchecks hchecks' => ?_, fun hother =>
    ⟨t.service_of_other past halike hn hn' hother, ?_⟩⟩
  · obtain ⟨hdecision, hconcludes⟩ := t.concludes_of_checks past halike hn hn' hchecks hchecks'
    exact ⟨hdecision, hconcludes, fun k b y hagain => hagain.spans.end_unique hchecks.spans,
      fun k b y hagain => hagain.spans.end_unique hchecks'.spans⟩
  · rintro rfl
    exact t.waits_of_unended past hn hother

end

/-- A page that requires what the procedure requires. -/
def profileRoute : Http.Route := ⟨.ofString "/p", some Server.profileScopes, Http.whoami⟩

/-- A request that may be made as a call of the procedure or for the page. -/
def profileRequest : Twofold ⟨profileMethods, .machineOnly⟩ ⟨[profileRoute], .machineOnly⟩ where
  call := some "a"
  canceled := false
  message := ⟨"p", false, [⟨"authorization", .ofString "Bearer t"⟩], none, "m"⟩
  handler := fun r => .ok ⟨r.client, r.message⟩
  request := ⟨"GET", "/p", [⟨"authorization", .ofString "Bearer t"⟩], none⟩
  cancelable := true
  route := profileRoute
  required := Server.profileScopes
  isServed := rfl
  sameFields := rfl
  declared := rfl
  routed := by
    have hpath : Http.Request.path ⟨"GET", "/p", [⟨"authorization", .ofString "Bearer t"⟩], none⟩
        = "/p" := by decide +kernel
    rw [hpath]
    exact Http.Way.leadsTo?_chars "/p".toList profileRoute
  guarded := rfl
  samePolicy := rfl

/-- A gate that has checked nothing, and a provider that knows the token. -/
def profileStart : World :=
  .new (.startingAt 0) (.ofAnswers [("t", .ok grantedProfile)]) (.new (.token 1))
    ⟨profileMethods, .machineOnly⟩ ⟨[profileRoute], .machineOnly⟩

/-- The request arrives as a call, and then the answer for it. -/
def profileCallRun : List (Moment World Event) :=
  profileRequest.callRun (.startingAt 0) (.ofAnswers [("t", .ok grantedProfile)]) .ofString
    (.token 1) [] [.release "a"]

/-- The page is requested, and then the answer arrives. -/
def profilePageRun : List (Moment World Event) :=
  profileRequest.pageRun (.startingAt 0) (.ofAnswers [("t", .ok grantedProfile)]) .ofString
    (.token 1) [] [.release "a"]

/-- The request waits for its answer by either transport, and both admit it then and never again.
Its handler and its page have each run once in the end. -/
theorem profile_request_admitted :
    ∃ n n' x, ∃ a' x', profileCallRun[1]? = some n ∧ profilePageRun[1]? = some n'
      ∧ Checks profileCallRun 0 1 profileRequest.callArrival x
      ∧ Checks profilePageRun 0 1 a' x'
      ∧ x'.decision = x.decision
      ∧ n.state.reply n.event = .handled (.ok ⟨some grantedProfile.clientInfo, "m"⟩)
      ∧ n'.state.reply n'.event = .responded (.json grantedProfile.clientInfo.toJson)
      ∧ (∀ k b y, Checks profileCallRun 0 k b y → k = 1)
      ∧ (∀ k b y, Checks profilePageRun 0 k b y → k = 1)
      ∧ ∃ before mine mine' after, Served profileRequest profileCallRun 0 mine mine'
        ∧ (profileStart.run [profileRequest.asCall, .release "a"]).ran = before ++ mine ++ after
        ∧ (profileStart.run [profileRequest.asRequest, .release "a"]).ran
          = before ++ mine' ++ after := by
  obtain ⟨n, hn, x, hadmitted, hx⟩ : ∃ n, profileCallRun[1]? = some n
      ∧ ∃ x : Ending, x.decision = .ok grantedProfile.clientInfo
        ∧ n.state.ending? n.event = some x :=
    ⟨_, rfl, _, rfl, rfl⟩
  have hchecks : Checks profileCallRun 0 1 profileRequest.callArrival x := by
    cases hn
    cases hx
    refine ⟨⟨_, rfl, rfl⟩, .waited ⟨⟨_, rfl, rfl⟩, ?_⟩ rfl rfl, ⟨_, rfl, rfl⟩, rfl, rfl⟩
    intro j m hj hm
    have hlt := (getElem?_of_take_eq_some hm).1
    omega
  have halike : profileRequest.GoesAlike [.release "a"] := .inl rfl
  obtain ⟨hmoments, hran⟩ := @transports_agree _ _ (.startingAt 0)
    (.ofAnswers [("t", .ok grantedProfile)]) .ofString (.token 1) profileRequest [] _ halike
  obtain ⟨n', hn', -, -, -, hboth, hagree, -⟩ := hmoments 1 n hn
  obtain ⟨a', x', hchecks'⟩ := hboth.mp ⟨_, _, hchecks⟩
  obtain ⟨hdecision, hconcludes, honce, honce'⟩ := hagree _ _ _ _ hchecks hchecks'
  obtain ⟨hhandled, -, hresponded, -⟩ := hconcludes.admitted _ hadmitted
  exact ⟨n, n', x, a', x', hn, hn', hchecks, hchecks', hdecision, hhandled, hresponded, honce,
    honce', hran⟩

end Gate

end ScopeGate
