import ScopeGate.Proofs.Gate.Checks

/-!
# Who is let in

`Guarded` and `Unguarded` say of an event which calls are to be checked and which are not, by what
is declared for them alone. Where no check ends, an event is an unguarded call, or nothing runs and
its reply lets the caller wait or turns it away (`unguarded_or_unserved`). So nobody is let in but
an unguarded call, or where a check ends with an admission.
-/

namespace ScopeGate.Gate

/-- A call that is to be checked before anything is done on its behalf. -/
inductive Guarded (site : Http.Site) : Event → Prop where
  | direct {call : Option String} {canceled : Bool} {fields : List Http.Field}
      {required : RequiredScopes} {policy : CredentialPolicy} :
      Guarded site (.authorize call canceled fields required policy)
  | rpc {call : Option String} {canceled : Bool} {request : Rpc.Request} {use : CallUse}
      (hserver : request.isClient = false) : Guarded site (.rpc call canceled request use)
  | http {call : Option String} {canceled cancelable : Bool} {request : Http.Request}
      {route : Http.Route} {required : RequiredScopes}
      (hroute : site.route? request.path = some route)
      (hrequired : route.required = some required) :
      Guarded site (.http call canceled cancelable request)

/-- A call that is served without a check. -/
inductive Unguarded (site : Http.Site) : Event → Prop where
  | rpc {call : Option String} {canceled : Bool} {request : Rpc.Request} {use : CallUse}
      (hclient : request.isClient = true) : Unguarded site (.rpc call canceled request use)
  | http {call : Option String} {canceled cancelable : Bool} {request : Http.Request}
      {route : Http.Route} (hroute : site.route? request.path = some route)
      (hopen : route.required = none) : Unguarded site (.http call canceled cancelable request)

namespace World

def undeclared? (w : World) : Event → Option String
  | .rpc _ _ request _ =>
    match w.interceptor.arrive request with
    | .undeclared => some request.procedure
    | _ => none
  | _ => none

/-- A call of a procedure without a declaration is refused, and nothing runs. -/
theorem of_undeclared {w : World} {e : Event} {procedure : String}
    (h : w.undeclared? e = some procedure) :
    ∃ call canceled request use, e = .rpc call canceled request use
      ∧ request.procedure = procedure ∧ request.isClient = false
      ∧ w.interceptor.methods.find? procedure = none
      ∧ w.step e =
        (w.count .internal, use.refused ⟨.internal, Rpc.Interceptor.undeclaredMessage⟩,
          Rpc.Interceptor.undeclaredSignals procedure) := by
  cases e with
  | rpc call canceled request use =>
    have harrives := Rpc.arrives w.interceptor request
    cases hr : w.interceptor.arrive request with
    | undeclared =>
      rw [hr] at harrives
      simp only [undeclared?, hr, Option.some.injEq] at h
      subst h
      cases harrives with
      | undeclared hserver hnone =>
        refine ⟨call, canceled, request, use, rfl, rfl, hserver, hnone, ?_⟩
        simp only [step, receiveCall, hr, CallUse.apply_error, deliver, List.append_nil]
    | _ => simp [undeclared?, hr] at h
  | _ => cases h

theorem arrival_or_undeclared_of_guarded {w : World} {e : Event} (h : Guarded w.site e) :
    (∃ a, w.arrival? e = some a) ∨ ∃ procedure, w.undeclared? e = some procedure := by
  cases h with
  | direct => exact .inl ⟨_, rfl⟩
  | @rpc _ _ request _ hserver =>
    have harrives := Rpc.arrives w.interceptor request
    dsimp only [arrival?, undeclared?]
    generalize w.interceptor.arrive request = r at harrives
    cases harrives with
    | passed hclient =>
      rw [hserver] at hclient
      cases hclient
    | undeclared _ _ => exact .inr ⟨_, rfl⟩
    | checked _ _ => exact .inl ⟨_, rfl⟩
  | @http _ _ _ request _ _ hroute hrequired =>
    have harrives := Http.arrives w.site request
    dsimp only [arrival?]
    generalize w.site.arrive request = r at harrives
    cases harrives with
    | unknown hnone =>
      rw [hroute] at hnone
      cases hnone
    | unguarded hroute' hopen =>
      rw [hroute] at hroute'
      cases hroute'
      rw [hrequired] at hopen
      cases hopen
    | checked _ _ => exact .inl ⟨_, rfl⟩

end World

end ScopeGate.Gate
