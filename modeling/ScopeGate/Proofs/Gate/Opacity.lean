import ScopeGate.Proofs.Gate.Admission
import ScopeGate.Proofs.Gate.Renaming
import ScopeGate.Server.Basic

/-!
# Tokens are opaque

Whatever the gate hands out tells nothing of a token but whether it is the same as another one, and
what the provider says of it. If other tokens take the place of the tokens in all header fields, and
the provider answers about them alike, then every moment of the run is as before (`tokens_opaque`):
records and log events, what each check ends with, the metrics, what the cache tells of itself and
the number of questions to the provider. What runs sees the same but for the tokens. So are the
replies, unless a handler or a page itself looks at the token; the pages of the server do not
(`isBlind_site`).
-/

namespace ScopeGate.Gate

theorem Renames.start (ρ : Renaming) (σ : Equiv.Perm Octets) (key : String → Octets) (clock : Clock)
    {provider provider' : Provider}
    (hanswers : ∀ t, Bearer.isToken t = true →
      provider'.answers (ρ.apply t) = provider.answers t)
    (hcalls : provider'.calls = provider.calls) (config : CacheConfig)
    (interceptor : Rpc.Interceptor) (site : Http.Site) :
    Renames ρ σ key (World.new clock provider (.keyed key config) interceptor site)
      (World.new clock provider' (.keyed key config) interceptor site) := by
  refine ⟨rfl, hanswers, hcalls, rfl, ?_, rfl, rfl, .nil, rfl⟩
  simp only [World.new, Authorizer.new, Authorizer.rekeyed, Introspector.rekeyed_keyed]

/-- A check on behalf of a caller that does not look at tokens began with an event of such a caller.
-/
theorem isBlind_of_arrival {ρ : Renaming} {w : World} {e : Event} {a : Arrival}
    (ha : w.arrival? e = some a) (he : e.IsBlind ρ) (hsite : w.site.IsBlind ρ) :
    a.caller.IsBlind ρ := by
  cases e with
  | authorize call canceled fields required policy =>
    cases ha
    trivial
  | rpc call canceled request use =>
    cases hr : w.interceptor.arrive request with
    | checked check =>
      simp only [World.arrival?, hr, Option.some.injEq] at ha
      rw [← ha]
      exact he
    | _ => simp [World.arrival?, hr] at ha
  | http call canceled cancelable request =>
    have hdeclared := World.isDeclared_of_arrival ha
    cases hr : w.site.arrive request with
    | checked route check =>
      simp only [World.arrival?, hr, Option.some.injEq] at ha
      rw [← ha] at hdeclared ⊢
      exact hsite route (Http.Site.mem_of_route? hdeclared.2.1)
    | _ => simp [World.arrival?, hr] at ha
  | _ => cases ha

section

variable {clock : Clock} {provider provider' : Provider} {key : String → Octets}
  {config : CacheConfig}
  {interceptor : Rpc.Interceptor} {site : Http.Site} {es : List Event}

theorem isBlind_of_history {ρ : Renaming} (hblind : ∀ e ∈ es, e.IsBlind ρ)
    (hsite : site.IsBlind ρ) {j : Nat} {n : Moment World Event} {x : Ending}
    (hn : (history clock provider key config interceptor site es)[j]? = some n)
    (hx : n.state.ending? n.event = some x) : x.caller.IsBlind ρ := by
  obtain ⟨i, a, hchecks⟩ := exists_checks hn hx
  obtain ⟨m, hm, ha⟩ := hchecks.begins
  rw [hchecks.caller]
  refine isBlind_of_arrival ha (hblind _ (event_mem_of_getElem? hm)) ?_
  rw [(sound_history hm).endpoints.2]
  exact hsite

/-- Keys are to tell the tokens of a run apart, and those that are put in their place. Then a run is
the same at every moment under the other tokens. -/
theorem tokens_opaque (ρ : Renaming) (hkey : TellsApart key es)
    (hkey' : TellsApart key (es.map (Event.renamed ρ)))
    (hanswers : ∀ t, Bearer.isToken t = true →
      provider'.answers (ρ.apply t) = provider.answers t)
    (hcalls : provider'.calls = provider.calls) {j : Nat} {n : Moment World Event}
    (hn : (history clock provider key config interceptor site es)[j]? = some n) :
    ∃ n', (history clock provider' key config interceptor site
        (es.map (Event.renamed ρ)))[j]? = some n'
      ∧ n'.event = n.event.renamed ρ
      ∧ n'.state.signals n'.event = n.state.signals n.event
      ∧ n'.state.ending? n'.event = (n.state.ending? n.event).map (Ending.renamed ρ)
      ∧ (n'.state.step n'.event).1.authorizer.metrics = (n.state.step n.event).1.authorizer.metrics
      ∧ (n'.state.step n'.event).1.authorizer.cacheStats
        = (n.state.step n.event).1.authorizer.cacheStats
      ∧ (n'.state.step n'.event).1.provider.calls = (n.state.step n.event).1.provider.calls
      ∧ (n'.state.step n'.event).1.ran = (n.state.step n.event).1.ran.map (Run.renamed ρ)
      ∧ ((∀ e ∈ es, e.IsBlind ρ) → site.IsBlind ρ →
        n'.state.reply n'.event = (n.state.reply n.event).renamed ρ) := by
  obtain ⟨σ, hσ⟩ := exists_permutation hkey hkey'
  have hkeyed : ∀ e ∈ es, e.IsKeyedBy ρ σ key := fun e he t ht => hσ t ⟨e, he, ht⟩
  have hevents : List.Forall₂ (fun e e' => e' = e.renamed ρ ∧ e.IsKeyedBy ρ σ key) es
      (es.map (Event.renamed ρ)) :=
    List.forall₂_map_right_iff.mpr (List.forall₂_same.mpr fun e he => ⟨rfl, hkeyed e he⟩)
  have hstart := Renames.start ρ σ key clock hanswers hcalls config interceptor site
  have hmoments := forall₂_moments (E := fun (e e' : Event) => e' = e.renamed ρ
      ∧ e.IsKeyedBy ρ σ key)
    (fun w u e e' (h : Renames ρ σ key w u) he => he.1 ▸ (h.step he.2).next) hstart hevents
  obtain ⟨⟨u, e'⟩, hn', hrenames, hevent, he⟩ := getElem?_of_forall₂ hmoments hn
  subst hevent
  have hstep := hrenames.step he
  refine ⟨_, hn', rfl, hstep.signals, hrenames.ending? he, ?_, ?_, hstep.next.calls,
    hstep.next.ran, ?_⟩
  · rw [hstep.next.authorizer]
    rfl
  · rw [hstep.next.authorizer]
    exact Introspector.stats_rekeyed σ _
  · intro hblind hsite
    refine hstep.reply ⟨fun x hx => isBlind_of_history hblind hsite hn hx, ?_, ?_⟩
    · exact hblind _ (event_mem_of_getElem? hn)
    · rw [(sound_history hn).endpoints.2]
      exact hsite

end

theorem isBlind_site (ρ : Renaming) : Server.site.IsBlind ρ := by
  intro route hroute σ clock z request
  simp only [Server.site, List.mem_cons, List.not_mem_nil, or_false] at hroute
  rcases hroute with rfl | rfl | rfl
  · rfl
  · have hstats : (z.rekeyed σ).cacheStats = z.cacheStats := Introspector.stats_rekeyed σ _
    have hfamilies : Server.families clock (z.rekeyed σ) = Server.families clock z := by
      simp only [Server.families, hstats]
      rfl
    simp only [Server.metrics, hfamilies]
  · rfl

def swapped : Renaming where
  rename t := if t = "t" then "s" else if t = "s" then "t" else t
  isToken_rename := by
    intro t ht
    split
    · rfl
    · split
      · rfl
      · exact ht
  rename_injective := by
    intro t t' _ _ heq
    grind

/-- The procedure is called twice, with a token that is known by another name. -/
def swappedCalls : List (Moment World Event) :=
  history (.startingAt 0) (.ofAnswers [("s", .ok grantedProfile)]) .ofString (.token 1)
    ⟨profileMethods, .machineOnly⟩ Server.site
    ([profileCall none, profileCall none].map (Event.renamed swapped))

/-- The second call is served from the cache under either name, and its handler sees the same. -/
theorem swapped_calls_alike :
    ∃ n n', (history (.startingAt 0) (.ofAnswers [("t", .ok grantedProfile)]) .ofString (.token 1)
          ⟨profileMethods, .machineOnly⟩ Server.site
          [profileCall none, profileCall none])[1]? = some n
      ∧ swappedCalls[1]? = some n'
      ∧ (∃ request use, n'.event = .rpc none false request use
        ∧ request.fields = [⟨"authorization", .ofString "Bearer s"⟩])
      ∧ n'.state.signals n'.event = n.state.signals n.event
      ∧ n'.state.reply n'.event = .handled (.ok ⟨some grantedProfile.clientInfo, "m"⟩) := by
  obtain ⟨n, hn, hevent, hreply⟩ : ∃ n, (history (.startingAt 0)
        (.ofAnswers [("t", .ok grantedProfile)]) .ofString (.token 1) ⟨profileMethods, .machineOnly⟩
        Server.site [profileCall none, profileCall none])[1]? = some n
      ∧ n.event = profileCall none
      ∧ n.state.reply n.event = .handled (.ok ⟨some grantedProfile.clientInfo, "m"⟩) :=
    ⟨_, rfl, rfl, rfl⟩
  have hanswers : ∀ t, Bearer.isToken t = true →
      (Provider.ofAnswers [("s", .ok grantedProfile)]).answers (swapped.apply t)
        = (Provider.ofAnswers [("t", .ok grantedProfile)]).answers t := by
    intro t ht
    simp only [Provider.ofAnswers, Provider.setAnswer, Provider.unknowing, List.foldl_cons,
      List.foldl_nil, Renaming.apply, if_pos ht, swapped]
    grind
  have hblind : ∀ e ∈ [profileCall none, profileCall none], e.IsBlind swapped := by
    intro e he
    simp only [List.mem_cons, List.not_mem_nil, or_false, or_self] at he
    subst he
    exact fun _ => rfl
  obtain ⟨n', hn', hevent', hsignals, -, -, -, -, -, hreplies⟩ :=
    tokens_opaque swapped (tellsApart_ofString _) (tellsApart_ofString _) hanswers rfl hn
  have hreply' := hreplies hblind (isBlind_site swapped)
  rw [hreply] at hreply'
  rw [hevent] at hevent'
  exact ⟨n, n', hn, hn', ⟨_, _, hevent', by rfl⟩, hsignals, hreply'⟩

end ScopeGate.Gate
