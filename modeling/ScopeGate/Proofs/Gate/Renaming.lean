import Mathlib.SetTheory.Cardinal.Arithmetic
import ScopeGate.Proofs.Cache.Rekeyed
import ScopeGate.Proofs.Gate.Provenance
import ScopeGate.Proofs.Gate.Tokens
import ScopeGate.Proofs.Run.SideBySide

/-!
# The gate under other tokens

A renaming puts other tokens in the place of tokens, no two different ones by the same. Everything
that holds a token can be renamed: header fields and calls that wait. The cache holds keys of
tokens; a permutation puts the keys of the other tokens in their place (`exists_permutation`). A
gate and its renamed copy do the same on an event and the renamed event (`Renames.step`), because
the gate only ever extracts tokens, compares their keys and hands them to the provider.
-/

namespace ScopeGate

/-- Other tokens in the place of tokens. -/
structure Renaming where
  rename : String → String
  isToken_rename : ∀ t, Bearer.isToken t = true → Bearer.isToken (rename t) = true
  rename_injective : ∀ t t', Bearer.isToken t = true → Bearer.isToken t' = true →
    rename t = rename t' → t = t'

namespace Renaming

variable (ρ : Renaming)

/-- The text after the renaming. What is no token stays. -/
def apply (t : String) : String := if Bearer.isToken t then ρ.rename t else t

def fields (fs : List Http.Field) : List Http.Field := Bearer.relabel ρ.apply fs

theorem isToken_apply {t : String} (h : Bearer.isToken t = true) :
    Bearer.isToken (ρ.apply t) = true := by
  rw [apply, if_pos h]
  exact ρ.isToken_rename t h

theorem apply_injective : Function.Injective ρ.apply := by
  intro t t' heq
  unfold apply at heq
  by_cases ht : Bearer.isToken t = true <;> by_cases ht' : Bearer.isToken t' = true
  · rw [if_pos ht, if_pos ht'] at heq
    exact ρ.rename_injective t t' ht ht' heq
  · rw [if_pos ht, if_neg ht'] at heq
    exact absurd (heq ▸ ρ.isToken_rename t ht) ht'
  · rw [if_neg ht, if_pos ht'] at heq
    exact absurd (heq ▸ ρ.isToken_rename t' ht') ht
  · rwa [if_neg ht, if_neg ht'] at heq

theorem ofFields_fields (fs : List Http.Field) :
    Bearer.ofFields (ρ.fields fs) = (Bearer.ofFields fs).map ρ.apply :=
  Bearer.ofFields_relabel (fun _ => ρ.isToken_apply) fs

/-- The permutation puts the key of the renamed token in the place of the key of the token. -/
def IsKeyedBy (σ : Equiv.Perm Octets) (key : String → Octets) (t : String) : Prop :=
  key (ρ.apply t) = σ (key t)

end Renaming

def Http.Request.renamed (ρ : Renaming) (r : Http.Request) : Http.Request :=
  { r with fields := ρ.fields r.fields }

def Rpc.Request.renamed (ρ : Renaming) (r : Rpc.Request) : Rpc.Request :=
  { r with fields := ρ.fields r.fields }

def Introspector.rekeyed (σ : Equiv.Perm Octets) (i : Introspector) : Introspector :=
  { i with cache := i.cache.map (Cache.rekeyed σ) }

def Authorizer.rekeyed (σ : Equiv.Perm Octets) (z : Authorizer) : Authorizer :=
  { z with introspector := z.introspector.rekeyed σ }

namespace Introspector

variable (σ : Equiv.Perm Octets)

theorem stats_rekeyed (i : Introspector) : (i.rekeyed σ).stats = i.stats := by
  obtain ⟨cache, key⟩ := i
  cases cache with
  | none => rfl
  | some c => exact congrArg some (c.stats_rekeyed σ)

theorem rekeyed_keyed (key : String → Octets) (config : CacheConfig) :
    (keyed key config).rekeyed σ = keyed key config := by
  unfold keyed rekeyed Cache.new?
  cases config.isEnabled <;> rfl

theorem purge_rekeyed (now : Duration) (i : Introspector) :
    (i.rekeyed σ).purge now = ((i.purge now).1.rekeyed σ, (i.purge now).2) := by
  obtain ⟨cache, key⟩ := i
  cases cache with
  | none => rfl
  | some c => simp only [purge, rekeyed, Option.map_some, Cache.purge_rekeyed σ.injective]

variable {σ} {i : Introspector} {token token' : String} (hkey : i.key token' = σ (i.key token))

include hkey

theorem begin_rekeyed (clock : Clock) :
    (i.rekeyed σ).begin clock token'
      = ((i.begin clock token).1.rekeyed σ, (i.begin clock token).2) := by
  obtain ⟨cache, key⟩ := i
  cases cache with
  | none => rfl
  | some c =>
    simp only [begin, rekeyed, Option.map_some] at hkey ⊢
    rw [hkey, Cache.get_rekeyed σ.injective]
    cases hget : c.get clock.elapsed (key token) with
    | mk c' found =>
      cases found with
      | none => rfl
      | some v =>
        simp only [Cache.erase_rekeyed σ.injective]
        cases v.isExpiredAt clock.now <;> rfl

theorem complete_rekeyed (clock : Clock) (answer : Answer) :
    (i.rekeyed σ).complete clock token' answer
      = ((i.complete clock token answer).1.rekeyed σ, (i.complete clock token answer).2) := by
  cases answer with
  | error fault => rfl
  | ok v =>
    obtain ⟨cache, key⟩ := i
    cases cache with
    | none => rfl
    | some c =>
      simp only [complete, rekeyed, Option.map_some] at hkey ⊢
      rw [hkey, Cache.insert_rekeyed σ.injective]
      cases mayKeep clock.now v <;> rfl

end Introspector

def Http.Route.IsBlind (ρ : Renaming) (route : Route) : Prop :=
  ∀ (σ : Equiv.Perm Octets) clock z request,
    route.page clock (z.rekeyed σ) (request.renamed ρ) = route.page clock z request

namespace Http.Site

def IsBlind (ρ : Renaming) (site : Site) : Prop := ∀ route ∈ site.routes, route.IsBlind ρ

theorem mem_of_route? {path : String} {site : Site} {route : Route}
    (h : site.route? path = some route) : route ∈ site.routes := by
  obtain ⟨p, hp, -⟩ := Way.exists_fits_of_leadsTo? h
  obtain ⟨found, hfound, he⟩ := List.mem_map.mp hp
  cases he
  exact hfound

theorem mem_of_arrive_unguarded {request : Request} {site : Site} {route : Route}
    (h : site.arrive request = .unguarded route) : route ∈ site.routes := by
  have harrives := Http.arrives site request
  rw [h] at harrives
  cases harrives with
  | unguarded hroute _ => exact mem_of_route? hroute

end Http.Site

namespace Gate

def Caller.renamed (ρ : Renaming) : Caller → Caller
  | direct => direct
  | rpc request use => rpc (request.renamed ρ) use
  | http request route cancelable => http (request.renamed ρ) route cancelable

def Waiting.renamed (ρ : Renaming) (l : Waiting) : Waiting :=
  ⟨l.caller.renamed ρ, l.check, ρ.apply l.token, l.answer⟩

def Arrival.renamed (ρ : Renaming) (a : Arrival) : Arrival :=
  { a with fields := ρ.fields a.fields, caller := a.caller.renamed ρ }

def Ending.renamed (ρ : Renaming) (x : Ending) : Ending := { x with caller := x.caller.renamed ρ }

def Beginning.renamed (ρ : Renaming) : Beginning → Beginning
  | settled evidence => settled evidence
  | asking token => asking (ρ.apply token)

/-- The event with other tokens in header fields and in the provider's answers. -/
def Event.renamed (ρ : Renaming) : Event → Event
  | .authorize call canceled fields required policy =>
    .authorize call canceled (ρ.fields fields) required policy
  | .rpc call canceled request use => .rpc call canceled (request.renamed ρ) use
  | .http call canceled cancelable request => .http call canceled cancelable (request.renamed ρ)
  | .setAnswer token answer => .setAnswer (ρ.apply token) answer
  | e => e

/-- The reply with other tokens in the call that it hands back, if it does so. -/
def Reply.renamed (ρ : Renaming) : Reply → Reply
  | .intercepted (.ok request) => .intercepted (.ok (request.renamed ρ))
  | r => r

def Run.renamed (ρ : Renaming) : Run → Run
  | handler run request => handler run (request.renamed ρ)
  | page route request => page route (request.renamed ρ)

/-! ## Handlers and pages that do not look at tokens -/

def CallUse.IsBlind (ρ : Renaming) : CallUse → Prop
  | .intercept => True
  | .run handler => ∀ request, handler (request.renamed ρ) = handler request

def Caller.IsBlind (ρ : Renaming) : Caller → Prop
  | direct => True
  | rpc _ use => use.IsBlind ρ
  | http _ route _ => route.IsBlind ρ

def Event.IsBlind (ρ : Renaming) : Event → Prop
  | .rpc _ _ _ use => use.IsBlind ρ
  | _ => True

theorem CallUse.accepted_renamed {ρ : Renaming} {use : CallUse} (h : use.IsBlind ρ)
    (request : Rpc.Request) :
    use.accepted (request.renamed ρ) = (use.accepted request).renamed ρ := by
  cases use with
  | intercept => rfl
  | run handler => exact congrArg Reply.handled (h request)

theorem CallUse.refused_renamed (ρ : Renaming) (status : Rpc.Status) (use : CallUse) :
    use.refused status = (use.refused status).renamed ρ := by
  cases use <;> rfl

theorem CallUse.runs_renamed (ρ : Renaming) (request : Rpc.Request) (use : CallUse) :
    use.runs (request.renamed ρ) = (use.runs request).map (Run.renamed ρ) := by
  cases use <;> rfl

theorem shown_renamed {ρ : Renaming} {route : Http.Route} (h : route.IsBlind ρ)
    (σ : Equiv.Perm Octets) (clock : Clock) (z : Authorizer) (request : Http.Request) :
    shown clock (z.rekeyed σ) (request.renamed ρ) route = shown clock z request route := by
  have hmethod : (request.renamed ρ).method = request.method := rfl
  rw [shown, shown, hmethod, h]

theorem shows_renamed (ρ : Renaming) (request : Http.Request) (route : Http.Route) :
    shows (request.renamed ρ) route = (shows request route).map (Run.renamed ρ) := by
  have hmethod : (request.renamed ρ).method = request.method := rfl
  rw [shows, shows, hmethod]
  split <;> rfl

theorem Caller.reply_serve_renamed {ρ : Renaming} {caller : Caller} (h : caller.IsBlind ρ)
    (σ : Equiv.Perm Octets) (clock : Clock) (z : Authorizer) (ruling : Ruling) :
    ((caller.renamed ρ).serve clock (z.rekeyed σ) ruling).reply
      = (caller.serve clock z ruling).reply.renamed ρ := by
  cases hd : ruling.decision with
  | ok client =>
    rw [serve_of_ok _ _ hd, serve_of_ok _ _ hd]
    cases caller with
    | direct => rfl
    | rpc request use => exact CallUse.accepted_renamed h { request with client := some client }
    | http request route cancelable =>
      exact congrArg Reply.responded
        (shown_renamed h σ clock z { request with client := some client })
  | error rejection =>
    rw [serve_of_error _ _ hd, serve_of_error _ _ hd]
    cases caller with
    | rpc request use => exact CallUse.refused_renamed ρ _ use
    | _ => rfl

theorem Caller.ran_serve_renamed (ρ : Renaming) (clock clock' : Clock) (z z' : Authorizer)
    (ruling : Ruling) (caller : Caller) :
    ((caller.renamed ρ).serve clock' z' ruling).ran
      = (caller.serve clock z ruling).ran.map (Run.renamed ρ) := by
  cases hd : ruling.decision with
  | ok client =>
    rw [serve_of_ok _ _ hd, serve_of_ok _ _ hd]
    cases caller with
    | direct => rfl
    | rpc request use => exact CallUse.runs_renamed ρ { request with client := some client } use
    | http request route cancelable =>
      exact shows_renamed ρ { request with client := some client } route
  | error rejection =>
    rw [serve_of_error _ _ hd, serve_of_error _ _ hd]
    rfl

theorem Event.resumes?_renamed (ρ : Renaming) (e : Event) :
    (e.renamed ρ).resumes? = e.resumes? := by
  cases e <;> rfl

theorem Caller.isCancelable_renamed (ρ : Renaming) (caller : Caller) :
    (caller.renamed ρ).isCancelable = caller.isCancelable := by
  cases caller <;> rfl

theorem Caller.signals_renamed (ρ : Renaming) (ruling : Ruling) (caller : Caller) :
    (caller.renamed ρ).signals ruling = caller.signals ruling := by
  cases caller <;> rfl

theorem Arrival.begin_renamed {ρ : Renaming} {σ : Equiv.Perm Octets} (clock : Clock)
    (i : Introspector) {a : Arrival}
    (ha : ∀ t, Bearer.ofFields a.fields = .ok t → ρ.IsKeyedBy σ i.key t) :
    (a.renamed ρ).begin clock (i.rekeyed σ)
      = ((a.begin clock i).1.rekeyed σ, (a.begin clock i).2.renamed ρ) := by
  obtain ⟨call, canceled, fields, caller, check⟩ := a
  simp only [Arrival.begin, Arrival.renamed, ρ.ofFields_fields]
  cases htoken : Bearer.ofFields fields with
  | error fault => rfl
  | ok token =>
    cases canceled with
    | true => rfl
    | false =>
      simp only [Except.map, Bool.false_eq_true, if_false,
        Introspector.begin_rekeyed (ha token htoken)]
      cases i.begin clock token with
      | mk i' found => cases found <;> rfl

theorem Event.token?_renamed (ρ : Renaming) (e : Event) :
    (e.renamed ρ).token? = e.token?.map ρ.apply := by
  have hfields : ∀ fields, (Bearer.ofFields (ρ.fields fields)).toOption
      = (Bearer.ofFields fields).toOption.map ρ.apply := by
    intro fields
    rw [ρ.ofFields_fields]
    cases Bearer.ofFields fields <;> rfl
  cases e with
  | authorize call canceled fields required policy => exact hfields fields
  | rpc call canceled request use => exact hfields request.fields
  | http call canceled cancelable request => exact hfields request.fields
  | _ => rfl

/-- If keys tell the tokens of a run apart, and those that are put in their place, a permutation
puts the keys of the latter in the place of the keys of the former. -/
theorem exists_permutation {ρ : Renaming} {key : String → Octets} {es : List Event}
    (hkey : TellsApart key es) (hkey' : TellsApart key (es.map (Event.renamed ρ))) :
    ∃ σ : Equiv.Perm Octets, ∀ t ∈ presented es, ρ.IsKeyedBy σ key t := by
  have hrenamed : ∀ t ∈ presented es, ρ.apply t ∈ presented (es.map (Event.renamed ρ)) := by
    rintro t ⟨e, he, ht⟩
    exact ⟨e.renamed ρ, List.mem_map_of_mem he, by rw [Event.token?_renamed, ht, Option.map_some]⟩
  have hinjective : Function.Injective fun t : presented es => key (ρ.apply t) := by
    intro t t' heq
    exact Subtype.ext (ρ.apply_injective (hkey' (hrenamed t t.2) (hrenamed t' t'.2) heq))
  have hfinite : (presented es).Finite := by
    refine (es.filterMap Event.token?).finite_toSet.subset ?_
    rintro t ⟨e, he, ht⟩
    exact List.mem_filterMap.mpr ⟨e, he, ht⟩
  -- Keys of presented tokens go where their tokens go, and there are keys left for all others.
  obtain ⟨σ, hσ⟩ := Cardinal.extend_function_of_lt
    ((Equiv.Set.imageOfInjOn key (presented es) hkey).symm.toEmbedding.trans ⟨_, hinjective⟩)
    ((Cardinal.lt_aleph0_iff_set_finite.mpr (hfinite.image key)).trans_le
      (Cardinal.aleph0_le_mk Octets)) ⟨Equiv.refl Octets⟩
  refine ⟨σ, fun t ht => ?_⟩
  have himage := hσ (Equiv.Set.imageOfInjOn key (presented es) hkey ⟨t, ht⟩)
  rw [Function.Embedding.trans_apply, Equiv.toEmbedding_apply, Equiv.symm_apply_apply] at himage
  exact himage.symm

/-- The gate `u` is the gate `w` under other tokens. Its provider answers about them what the other
provider answers about the tokens in whose place they are. -/
structure Renames (ρ : Renaming) (σ : Equiv.Perm Octets) (key : String → Octets) (w u : World) :
    Prop where
  clock : u.clock = w.clock
  answers : ∀ t, Bearer.isToken t = true → u.provider.answers (ρ.apply t) = w.provider.answers t
  calls : u.provider.calls = w.provider.calls
  keys : w.authorizer.introspector.key = key
  authorizer : u.authorizer = w.authorizer.rekeyed σ
  interceptor : u.interceptor = w.interceptor
  site : u.site = w.site
  waiting : w.waiting.Related (fun _ l l' => l' = l.renamed ρ ∧ ρ.IsKeyedBy σ key l.token) u.waiting
  ran : u.ran = w.ran.map (Run.renamed ρ)

/-- What comes of an event under other tokens is what comes of it otherwise. If nothing that is run
looks at tokens, so is the reply. -/
structure RenamedStep (ρ : Renaming) (σ : Equiv.Perm Octets) (key : String → Octets) (blind : Prop)
    (r r' : World × Reply × List Signal) : Prop where
  next : Renames ρ σ key r.1 r'.1
  signals : r'.2.2 = r.2.2
  reply : blind → r'.2.1 = r.2.1.renamed ρ

def Event.IsKeyedBy (ρ : Renaming) (σ : Equiv.Perm Octets) (key : String → Octets) (e : Event) :
    Prop :=
  ∀ t, e.token? = some t → ρ.IsKeyedBy σ key t

namespace Renames

variable {ρ : Renaming} {σ : Equiv.Perm Octets} {key : String → Octets} {w u : World} {e : Event}

theorem introspector (h : Renames ρ σ key w u) :
    u.authorizer.introspector = w.authorizer.introspector.rekeyed σ := by
  rw [h.authorizer]
  rfl

theorem arrival? (h : Renames ρ σ key w u) (e : Event) :
    u.arrival? (e.renamed ρ) = (w.arrival? e).map (Arrival.renamed ρ) := by
  cases e with
  | rpc call canceled request use =>
    have harrive : w.interceptor.arrive (request.renamed ρ) = w.interceptor.arrive request := rfl
    simp only [World.arrival?, Event.renamed, h.interceptor, harrive]
    cases w.interceptor.arrive request <;> rfl
  | http call canceled cancelable request =>
    have harrive : w.site.arrive (request.renamed ρ) = w.site.arrive request := rfl
    simp only [World.arrival?, Event.renamed, h.site, harrive]
    cases w.site.arrive request <;> rfl
  | _ => rfl

theorem going? (h : Renames ρ σ key w u) (e : Event) :
    u.going? (e.renamed ρ) = (w.going? e).map fun g => (g.1, g.2.1.renamed ρ, g.2.2) := by
  cases e with
  | release name =>
    rcases h.waiting.find? name with ⟨hw, hu⟩ | ⟨l, l', hw, hu, rfl, -⟩
    · simp [Event.renamed, World.going?, hw, hu]
    · simp [Event.renamed, World.going?, hw, hu, Waiting.renamed]
  | cancel name =>
    rcases h.waiting.find? name with ⟨hw, hu⟩ | ⟨l, l', hw, hu, rfl, -⟩
    · simp [Event.renamed, World.going?, hw, hu]
    · have hsame : (l.renamed ρ).caller.isCancelable = l.caller.isCancelable :=
        Caller.isCancelable_renamed ρ l.caller
      cases hcancelable : l.caller.isCancelable <;>
        simp [Event.renamed, World.going?, hw, hu, Option.filter, hsame, hcancelable]
  | cancelRelease name =>
    rcases h.waiting.find? name with ⟨hw, hu⟩ | ⟨l, l', hw, hu, rfl, -⟩
    · simp [Event.renamed, World.going?, hw, hu]
    · simp [Event.renamed, World.going?, hw, hu, Waiting.renamed, Caller.isCancelable_renamed]
  | _ => rfl

theorem freed? (h : Renames ρ σ key w u) (e : Event) : u.freed? (e.renamed ρ) = w.freed? e := by
  simp only [World.freed?, h.going?, Option.map_map]
  rfl

theorem left (h : Renames ρ σ key w u) (e : Event) :
    (traffic.left w e).Related (fun _ l l' => l' = l.renamed ρ ∧ ρ.IsKeyedBy σ key l.token)
      (traffic.left u (e.renamed ρ)) := by
  have hfreed : traffic.freed? u (e.renamed ρ) = traffic.freed? w e := h.freed? e
  unfold Traffic.left
  rw [hfreed]
  cases traffic.freed? w e with
  | none => exact h.waiting
  | some name => exact h.waiting.drop name

variable (h : Renames ρ σ key w u) (he : e.IsKeyedBy ρ σ key)

include h he

theorem begin_of_arrival {a : Arrival} (ha : w.arrival? e = some a) :
    (a.renamed ρ).begin u.clock u.authorizer.introspector
      = ((a.begin w.clock w.authorizer.introspector).1.rekeyed σ,
        (a.begin w.clock w.authorizer.introspector).2.renamed ρ) := by
  rw [h.clock, h.introspector]
  refine Arrival.begin_renamed w.clock _ fun t ht => ?_
  rw [h.keys]
  exact he t (World.token?_of_arrival ha ht)

theorem asked? :
    u.asked? (e.renamed ρ) = (w.asked? e).map fun x => (x.1, x.2.renamed ρ) := by
  cases ha : w.arrival? e with
  | none => simp only [World.asked?, h.arrival?, ha, Option.map_none]
  | some a =>
    simp only [World.asked?, h.arrival?, ha, Option.map_some, h.begin_of_arrival he ha]
    cases hb : (a.begin w.clock w.authorizer.introspector).2 with
    | settled evidence => rfl
    | asking token =>
      have htoken := Bearer.isToken_of_ofFields (Arrival.ofFields_of_asking hb)
      simp only [Beginning.renamed, h.answers token htoken]
      rfl

theorem held? : u.held? (e.renamed ρ) = (w.held? e).map fun x => (x.1, x.2.renamed ρ) := by
  simp only [World.held?, h.asked? he]
  cases w.asked? e with
  | none => rfl
  | some x =>
    obtain ⟨call, l⟩ := x
    cases call <;> rfl

theorem answered? :
    u.answered? (e.renamed ρ) = (w.answered? e).map fun x => (x.1.renamed ρ, x.2) := by
  simp only [World.answered?, h.going?, h.asked? he]
  cases w.going? e with
  | some g => rfl
  | none =>
    cases w.asked? e with
    | none => rfl
    | some x =>
      obtain ⟨call, l⟩ := x
      cases call <;> rfl

theorem settled? : u.settled? (e.renamed ρ) = (w.settled? e).map (Ending.renamed ρ) := by
  cases ha : w.arrival? e with
  | none => simp only [World.settled?, h.arrival?, ha, Option.map_none]
  | some a =>
    simp only [World.settled?, h.arrival?, ha, Option.map_some, h.begin_of_arrival he ha]
    cases (a.begin w.clock w.authorizer.introspector).2 <;> rfl

theorem ending? : u.ending? (e.renamed ρ) = (w.ending? e).map (Ending.renamed ρ) := by
  simp only [World.ending?, h.answered? he]
  cases w.answered? e with
  | some x => rfl
  | none => simp only [Option.map_none, h.settled? he]

theorem looked : u.looked (e.renamed ρ) = (w.looked e).rekeyed σ := by
  have harrival := h.arrival? e
  cases ha : w.arrival? e with
  | some a =>
    rw [ha, Option.map_some] at harrival
    rw [World.looked_of_arrival ha, World.looked_of_arrival harrival, h.begin_of_arrival he ha]
  | none =>
    rw [ha, Option.map_none] at harrival
    cases e with
    | purge =>
      simp only [World.looked, Event.renamed, World.arrival?, h.clock, h.introspector,
        Introspector.purge_rekeyed]
    | _ =>
      simp only [World.looked, harrival, ha, h.introspector]
      rfl

omit h in
theorem isKeyedBy_of_asked {call : Option String} {l : Waiting}
    (hl : w.asked? e = some (call, l)) : ρ.IsKeyedBy σ key l.token := by
  obtain ⟨a, ha, hb, -⟩ := World.exists_arrival_of_asked hl
  exact he l.token (World.token?_of_arrival ha (Arrival.ofFields_of_asking hb))

/-- The token of a check that ends with an answer was keyed when the check began. -/
theorem isKeyedBy_of_answered {l : Waiting} {answer : Answer}
    (hl : w.answered? e = some (l, answer)) : ρ.IsKeyedBy σ key l.token := by
  rcases World.asked_or_waiting_of_answered hl with ⟨hasked, -⟩ | ⟨name, -, hwaits, -⟩
  · exact isKeyedBy_of_asked he hasked
  · obtain ⟨-, -, -, hkeyed⟩ := h.waiting.exists_of_find? hwaits
    exact hkeyed

theorem taken : u.taken (e.renamed ρ) = ((w.taken e).1.rekeyed σ, (w.taken e).2) := by
  have hkeys : (w.looked e).key = key := (w.key_looked e).trans h.keys
  simp only [World.taken, h.answered? he, h.looked he]
  cases hx : w.answered? e with
  | none => rfl
  | some x =>
    have hkeyed := h.isKeyedBy_of_answered he hx
    simp only [Option.map_some, h.clock, Waiting.renamed]
    rw [Introspector.complete_rekeyed]
    rw [hkeys]
    exact hkeyed

theorem consulted :
    (∀ t, Bearer.isToken t = true →
        (u.consulted (e.renamed ρ)).answers (ρ.apply t) = (w.consulted e).answers t)
      ∧ (u.consulted (e.renamed ρ)).calls = (w.consulted e).calls := by
  simp only [World.consulted, h.asked? he]
  cases w.asked? e with
  | none => exact ⟨h.answers, h.calls⟩
  | some x => exact ⟨h.answers, congrArg (· + 1) h.calls⟩

omit he

theorem deliver {service service' : Service} {signals signals' : List Signal} {blind : Prop}
    (hran : service'.ran = service.ran.map (Run.renamed ρ))
    (hreply : blind → service'.reply = service.reply.renamed ρ) (hsignals : signals' = signals) :
    RenamedStep ρ σ key blind (w.deliver service signals) (u.deliver service' signals') := by
  refine ⟨⟨h.clock, h.answers, h.calls, h.keys, h.authorizer, h.interceptor, h.site, h.waiting, ?_⟩,
    hsignals, hreply⟩
  simp only [World.deliver, h.ran, hran, List.map_append]

theorem close {i : Introspector} (hi : i.key = key) (logs : List LogEvent) (x : Ending) :
    RenamedStep ρ σ key (x.caller.IsBlind ρ) (w.close i logs x)
      (u.close (i.rekeyed σ) logs (x.renamed ρ)) := by
  have hclosed : Renames ρ σ key
      { w with authorizer := ⟨i, w.authorizer.metrics.recordRuling x.evidence x.ruling⟩ }
      { u with
        authorizer := ⟨i.rekeyed σ, u.authorizer.metrics.recordRuling x.evidence x.ruling⟩ } := by
    refine ⟨h.clock, h.answers, h.calls, hi, ?_, h.interceptor, h.site, h.waiting, h.ran⟩
    simp only [h.authorizer]
    rfl
  refine hclosed.deliver ?_ ?_ ?_
  · exact Caller.ran_serve_renamed ρ _ _ _ _ _ _
  · intro hblind
    rw [h.clock, h.authorizer]
    exact Caller.reply_serve_renamed hblind σ w.clock
      ⟨i, w.authorizer.metrics.recordRuling x.evidence x.ruling⟩ x.ruling
  · exact congrArg _ (Caller.signals_renamed ρ _ _)

include he

theorem step_of_ending {x : Ending} (hx : w.ending? e = some x) :
    RenamedStep ρ σ key (x.caller.IsBlind ρ) (w.step e) (u.step (e.renamed ρ)) := by
  obtain ⟨hanswers, hcalls⟩ := h.consulted he
  have hx' : u.ending? (e.renamed ρ) = some (x.renamed ρ) := by
    rw [h.ending? he, hx, Option.map_some]
  have hasked : Renames ρ σ key { w with provider := w.consulted e, waiting := traffic.left w e }
      { u with
        provider := u.consulted (e.renamed ρ)
        waiting := traffic.left u (e.renamed ρ) } :=
    ⟨h.clock, hanswers, hcalls, h.keys, h.authorizer, h.interceptor, h.site, h.left e, h.ran⟩
  have htaken : (w.taken e).1.key = key := by
    rw [← w.introspector_step, w.key_step, h.keys]
  rw [World.step_of_ending hx, World.step_of_ending hx', h.taken he]
  exact hasked.close htaken _ _

theorem step_of_held {name : String} {l : Waiting} (hl : w.held? e = some (name, l))
    (blind : Prop) : RenamedStep ρ σ key blind (w.step e) (u.step (e.renamed ρ)) := by
  obtain ⟨hanswers, hcalls⟩ := h.consulted he
  have hl' : u.held? (e.renamed ρ) = some (name, l.renamed ρ) := by
    rw [h.held? he, hl, Option.map_some]
  have hkeyed := isKeyedBy_of_asked he (World.asked?_of_held hl)
  rw [World.step_of_held hl, World.step_of_held hl', h.looked he]
  refine ⟨⟨h.clock, hanswers, hcalls, (w.key_looked e).trans h.keys, ?_, h.interceptor, h.site,
    h.waiting.hold ⟨rfl, hkeyed⟩, h.ran⟩, rfl, fun _ => rfl⟩
  simp only [h.authorizer]
  rfl

omit he

theorem count (o : Outcome) : Renames ρ σ key (w.count o) (u.count o) := by
  refine ⟨h.clock, h.answers, h.calls, h.keys, ?_, h.interceptor, h.site, h.waiting, h.ran⟩
  simp only [World.count, h.authorizer]
  rfl

theorem purge {blind : Prop} : RenamedStep ρ σ key blind (w.step .purge) (u.step .purge) := by
  simp only [World.step, Authorizer.purge, h.clock, h.introspector, Introspector.purge_rekeyed]
  refine ⟨⟨rfl, h.answers, h.calls, (Introspector.key_purge _ _).trans h.keys, ?_, h.interceptor,
    h.site, h.waiting, h.ran⟩, rfl, fun _ => rfl⟩
  simp only [h.authorizer]
  rfl

theorem setAnswer (token : String) (answer : Answer) {blind : Prop} :
    RenamedStep ρ σ key blind (w.step (.setAnswer token answer))
      (u.step (.setAnswer (ρ.apply token) answer)) := by
  refine ⟨⟨h.clock, ?_, h.calls, h.keys, h.authorizer, h.interceptor, h.site, h.waiting, h.ran⟩,
    rfl, fun _ => rfl⟩
  intro t ht
  simp only [World.step, Provider.setAnswer, ρ.apply_injective.eq_iff]
  split
  · rfl
  · exact h.answers t ht

theorem advance (d : Duration) {blind : Prop} :
    RenamedStep ρ σ key blind (w.step (.advance d)) (u.step (.advance d)) := by
  refine ⟨⟨?_, h.answers, h.calls, h.keys, h.authorizer, h.interceptor, h.site, h.waiting, h.ran⟩,
    rfl, fun _ => rfl⟩
  simp only [World.step, h.clock]

theorem step_of_idle (ha : w.arrival? e = none) (hg : w.going? e = none) :
    RenamedStep ρ σ key (e.IsBlind ρ ∧ w.site.IsBlind ρ) (w.step e) (u.step (e.renamed ρ)) := by
  have hgoing := h.going? e
  rw [hg, Option.map_none] at hgoing
  have hidle := World.idles_step ha hg
  generalize w.step e = r at hidle
  cases hidle with
  | @passed call canceled request use harrive =>
    have harrive' : w.interceptor.arrive (request.renamed ρ) = .passed := harrive
    simp only [Event.renamed, World.step, World.receiveCall, h.interceptor, harrive',
      CallUse.apply_ok]
    exact h.deliver (CallUse.runs_renamed ρ request use)
      (fun hblind => CallUse.accepted_renamed hblind.1 request) rfl
  | @undeclared call canceled request use harrive =>
    have harrive' : w.interceptor.arrive (request.renamed ρ) = .undeclared := harrive
    simp only [Event.renamed, World.step, World.receiveCall, h.interceptor, harrive',
      CallUse.apply_error]
    exact (h.count .internal).deliver rfl (fun _ => CallUse.refused_renamed ρ _ use) rfl
  | @unknown call canceled cancelable request harrive =>
    have harrive' : w.site.arrive (request.renamed ρ) = .unknown := harrive
    simp only [Event.renamed, World.step, World.receiveRequest, h.site, harrive']
    exact ⟨h, rfl, fun _ => rfl⟩
  | @unguarded call canceled cancelable request route harrive =>
    have harrive' : w.site.arrive (request.renamed ρ) = .unguarded route := harrive
    have hmem : route ∈ w.site.routes := Http.Site.mem_of_arrive_unguarded harrive
    simp only [Event.renamed, World.step, World.receiveRequest, h.site, harrive', ofServed_serve]
    refine h.deliver (shows_renamed ρ request route) (fun hblind => congrArg Reply.responded ?_) rfl
    rw [h.clock, h.authorizer]
    exact shown_renamed (hblind.2 route hmem) σ w.clock w.authorizer request
  | absent hname hw =>
    have hname' : (e.renamed ρ).resumes? = some _ := (Event.resumes?_renamed ρ e).trans hname
    rw [World.step_of_absent hname' ((h.waiting.find?_eq_none_iff _).mp hw)]
    exact ⟨h, rfl, fun _ => rfl⟩
  | @stayed name l hw hstays =>
    obtain ⟨l', hu, -⟩ := h.waiting.exists_of_find? hw
    have hstays' : l'.caller.isCancelable = false := by
      simpa [Event.renamed, World.going?, hu] using hgoing
    simp only [Event.renamed, World.step, World.resume, hu, hstays']
    exact ⟨h, rfl, fun _ => rfl⟩
  | purged => exact h.purge
  | answerSet => exact h.setAnswer _ _
  | advanced => exact h.advance _

include he

/-- An event at a gate and the renamed event at its renamed copy do the same. -/
theorem step :
    RenamedStep ρ σ key ((∀ x, w.ending? e = some x → x.caller.IsBlind ρ) ∧ e.IsBlind ρ
      ∧ w.site.IsBlind ρ) (w.step e) (u.step (e.renamed ρ)) := by
  cases hx : w.ending? e with
  | some x =>
    obtain ⟨hnext, hsignals, hreply⟩ := h.step_of_ending he hx
    exact ⟨hnext, hsignals, fun hblind => hreply (hblind.1 x rfl)⟩
  | none =>
    cases hl : w.held? e with
    | some held => exact h.step_of_held he hl _
    | none =>
      obtain ⟨ha, hg⟩ := World.idle_of_none hx hl
      obtain ⟨hnext, hsignals, hreply⟩ := h.step_of_idle ha hg
      exact ⟨hnext, hsignals, fun hblind => hreply hblind.2⟩

end Renames

end Gate

end ScopeGate
