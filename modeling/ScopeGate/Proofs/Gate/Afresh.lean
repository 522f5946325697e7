import ScopeGate.Proofs.Gate.Provenance

/-!
# Checks over a provider that does not change

Where the provider's answers do not change, what the gate has seen before decides nothing. A check
whose caller stays ends with the decision that the provider's answer about its token leads to
(`decideAfresh`): an answer that was waited for and a verdict that was kept both still are what the
provider would say.
-/

namespace ScopeGate.Gate

/-- Whether an event changes what the provider answers. -/
def Event.setsAnswer : Event → Bool
  | .setAnswer _ _ => true
  | _ => false

/-- The decision that the provider's answer about a token leads to, where nothing is kept. -/
def decideAfresh (answers : String → Answer) (fields : List Http.Field) (required : RequiredScopes)
    (policy : CredentialPolicy) : Except Rejection ClientInfo :=
  match Bearer.ofFields fields with
  | .error fault => .error (.invalidCredential fault)
  | .ok token =>
    match answers token with
    | .error fault => .error (.introspection fault)
    | .ok v => v.judge required policy

namespace World

/-- Whether the caller of the check that an event begins or lets go on has gone away. -/
def isGone (w : World) (e : Event) : Bool :=
  match e with
  | .cancel name => (w.waiting.find? name).any fun l => l.caller.isCancelable
  | .cancelRelease name => (w.waiting.find? name).any fun l => l.caller.isCancelable
  | e => (w.arrival? e).any Arrival.canceled

def ServesTruth (w : World) (e : Event) : Prop :=
  ∀ token v, e.token? = some token → (w.authorizer.introspector.begin w.clock token).2 = some v →
    w.provider.answers token = .ok v

/-! ## What the provider has to do with it -/

theorem provider_step {w : World} {e : Event} (he : e.setsAnswer = false) :
    (w.step e).1.provider = w.consulted e := by
  cases hx : w.ending? e with
  | some x => rw [step_of_ending hx]; rfl
  | none =>
    cases hh : w.held? e with
    | some held => rw [step_of_held hh]
    | none =>
      obtain ⟨ha, hg⟩ := idle_of_none hx hh
      have hasked : w.asked? e = none := by simp only [asked?, ha]
      have hconsulted : w.consulted e = w.provider := by simp only [consulted, hasked]
      have hidle := idles_step ha hg
      rw [hconsulted]
      generalize w.step e = r at hidle
      cases hidle with
      | answerSet => cases he
      | _ => rfl

theorem answers_step {w : World} {e : Event} (he : e.setsAnswer = false) :
    (w.step e).1.provider.answers = w.provider.answers := by
  rw [provider_step he, consulted]
  split <;> rfl

theorem calls_step {w : World} {e : Event} (he : e.setsAnswer = false) :
    (w.step e).1.provider.calls
      = w.provider.calls + if (w.asked? e).isSome then 1 else 0 := by
  rw [provider_step he, consulted]
  cases w.asked? e <;> rfl

/-- Unless its caller has gone away, a check that goes on does so with the answer that it has waited
for. -/
theorem answer_of_going {w : World} {e : Event} {name : String} {l : Waiting} {answer : Answer}
    (h : w.going? e = some (name, l, answer)) (hstays : w.isGone e = false) :
    answer = l.answer := by
  cases e with
  | release other =>
    obtain ⟨l', -, he⟩ := Option.map_eq_some_iff.mp h
    cases he
    rfl
  | cancel other =>
    obtain ⟨l', hl, he⟩ := Option.map_eq_some_iff.mp h
    obtain ⟨hl, hcancelable⟩ := Option.filter_eq_some_iff.mp hl
    cases he
    simp [isGone, hl, hcancelable] at hstays
  | cancelRelease other =>
    obtain ⟨l', hl, he⟩ := Option.map_eq_some_iff.mp h
    cases he
    have hcancelable : l.caller.isCancelable = false := by simpa [isGone, hl] using hstays
    rw [if_neg (by simp [hcancelable])]
  | _ => cases h

theorem answer_of_answered {w : World} {e : Event} {l : Waiting} {answer : Answer}
    (h : w.answered? e = some (l, answer)) (hstays : w.isGone e = false) : answer = l.answer := by
  unfold answered? at h
  split at h
  · rename_i hgoing
    cases h
    exact answer_of_going hgoing hstays
  · cases h
    rfl
  · cases h

theorem canceled_of_arrival {w : World} {e : Event} {a : Arrival} (h : w.arrival? e = some a)
    (hstays : w.isGone e = false) : a.canceled = false := by
  cases e with
  | authorize call canceled fields required policy => simpa [isGone, h] using hstays
  | rpc call canceled request use => simpa [isGone, h] using hstays
  | http call canceled cancelable request => simpa [isGone, h] using hstays
  | _ => cases h

end World

/-! ## Decisions -/

section

variable {clock : Clock} {provider : Provider} {key : String → Octets} {config : CacheConfig}
  {interceptor : Rpc.Interceptor} {site : Http.Site} {es : List Event}

theorem answers_history (hfixed : ∀ e ∈ es, e.setsAnswer = false) {j : Nat}
    {n : Moment World Event}
    (hn : (history clock provider key config interceptor site es)[j]? = some n) :
    n.state.provider.answers = provider.answers ∧ n.event ∈ es :=
  moment_invariant (P := fun w => w.provider.answers = provider.answers) rfl
    (fun _ e he h => (World.answers_step (hfixed e he)).trans h) hn

theorem answers_of_gives (hfixed : ∀ e ∈ es, e.setsAnswer = false) {i j : Nat} {token : String}
    {v : Verdict} (h : Gives (history clock provider key config interceptor site es) i j token v) :
    provider.answers token = .ok v := by
  obtain ⟨m, hm, hasks⟩ := h.asks
  rw [← (answers_history hfixed hm).1]
  exact hasks.given

theorem servesTruth_history (hkey : TellsApart key es) (hfixed : ∀ e ∈ es, e.setsAnswer = false)
    {j : Nat} {n : Moment World Event}
    (hn : (history clock provider key config interceptor site es)[j]? = some n) :
    n.state.ServesTruth n.event := by
  intro token v htoken hserved
  obtain ⟨-, cache, -, entry, hentry, hfiled, rfl, -⟩ :=
    Introspector.exists_mem_of_begin_eq_some hserved
  rw [(sound_history hn).hasSettings.key] at hfiled
  obtain ⟨own, i, k, -, hkept⟩ := exists_kept_history hn hentry
  obtain rfl := hkept.token_eq hkey ⟨n.event, event_mem_of_getElem? hn, htoken⟩ hfiled
  rw [(answers_history hfixed hn).1]
  exact answers_of_gives hfixed hkept.gives

/-- A check whose caller stays ends with the decision that the provider's answer leads to. -/
theorem decision_eq_decideAfresh (hkey : TellsApart key es)
    (hfixed : ∀ e ∈ es, e.setsAnswer = false) {j : Nat} {n : Moment World Event} {x : Ending}
    (hn : (history clock provider key config interceptor site es)[j]? = some n)
    (hx : n.state.ending? n.event = some x) (hstays : n.state.isGone n.event = false) :
    ∃ i a, Checks (history clock provider key config interceptor site es) i j a x
      ∧ x.decision = decideAfresh provider.answers a.fields a.check.required a.check.policy := by
  rcases World.answered_or_settled_of_ending hx with
    ⟨l, answer, hanswered, rfl⟩ | ⟨a, ha, hcaller, hcheck, hb⟩
  · obtain ⟨i, a, hchecks, htoken, ⟨m, hm, hasks⟩, -⟩ :=
      exists_checks_of_answered hn (sound_history hn).tracks hanswered
    have hanswer : provider.answers l.token = answer := by
      rw [World.answer_of_answered hanswered hstays, ← (answers_history hfixed hm).1]
      exact hasks.given
    refine ⟨i, a, hchecks, ?_⟩
    have hcheck : l.check = a.check := hchecks.check
    simp only [decideAfresh, htoken, hanswer]
    cases answer with
    | error fault => rfl
    | ok v => rw [← hcheck]; rfl
  · refine ⟨j, a, checks_of_arrival hn ha hx, ?_⟩
    have hcanceled := World.canceled_of_arrival ha hstays
    rw [Ending.decision, hcheck]
    rcases Arrival.settled_cases hb with
      ⟨fault, htoken, he⟩ | ⟨token, htoken, ⟨hgone, _⟩ | ⟨v, _, hserved, he⟩⟩
    · rw [he]
      simp only [decideAfresh, htoken]
      rfl
    · rw [hcanceled] at hgone
      cases hgone
    · have hanswer := servesTruth_history hkey hfixed hn token v
        (World.token?_of_arrival ha htoken) hserved
      rw [(answers_history hfixed hn).1] at hanswer
      rw [he]
      simp only [decideAfresh, htoken, hanswer]
      rfl

end

end ScopeGate.Gate
