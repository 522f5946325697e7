import ScopeGate.Gate.Rpc
import ScopeGate.Proofs.FirstFailure
import ScopeGate.Proofs.Scope.Redundancy

/-!
# Requirements that mean something

A declaration that is accepted requires just the scopes that it lists. It can be met, by being
granted these scopes, and it can be missed: whoever is granted nothing that takes part in a match
lacks the first of them. Both rest on what is checked at the declaration, since no scope without
faults is malformed and there is at least one. What is refused is a declaration without scopes, or
one with a faulty scope, for the first fault among its scopes.
-/

namespace ScopeGate

/-- Whether a list of scopes requires something, and nothing that cannot be had. -/
structure IsRequirement (scopes : List Scope) : Prop where
  ne_nil : scopes ≠ []
  met_by_itself : (Grants.mk scopes).meetAll scopes = true
  unmet_by_malformed : ∀ g : Grants, (∀ s ∈ g.scopes, s.isMalformed = true) →
    g.meetAll scopes = false ∧ g.firstUnmet scopes = scopes.head?

theorem Grants.meet_eq_false_of_isMalformed {g : Grants}
    (h : ∀ s ∈ g.scopes, s.isMalformed = true) (r : Scope) : g.meet r = false := by
  rw [Bool.eq_false_iff]
  intro hmeet
  obtain ⟨s, hs, hcovers⟩ := (Scope.meet_iff g r).mp hmeet
  have hsound := hcovers.isMalformed_eq_false
  rw [h s hs] at hsound
  cases hsound

namespace RequiredScopes

theorem isRequirement (r : RequiredScopes) : IsRequirement r.scopes := by
  obtain ⟨scopes, hne, hvalid⟩ := r
  refine ⟨hne, ?_, fun g hg => ?_⟩
  · rw [Grants.meetAll_iff]
    intro s hs
    have hsound := Scope.isMalformed_eq_false_of_validate (hvalid s hs)
    exact (Scope.meet_iff _ s).mpr ⟨s, hs, (Scope.covers_iff_entails s s).mpr ⟨hsound, .same rfl⟩⟩
  · have hunmet := Grants.meet_eq_false_of_isMalformed hg
    obtain ⟨first, rest, rfl⟩ := List.exists_cons_of_ne_nil hne
    have hfirst : g.firstUnmet (first :: rest) = some first := by
      simp [Grants.firstUnmet, hunmet first]
    exact ⟨by rw [Grants.meetAll, hfirst]; rfl, hfirst⟩

/-! ## Declarations -/

theorem firstFault_eq_some_iff (scopes : List Scope) (f : ScopeFault) :
    firstFault scopes = some f ↔ FirstFailure (fun s f => s.validate = .error f) scopes f := by
  simp only [firstFault, List.findSome?_eq_some_iff, FirstFailure]
  refine exists_congr fun before => exists_congr fun s => exists_congr fun after =>
    and_congr_right fun _ => ?_
  rw [and_comm]
  refine and_congr (forall₂_congr fun t _ => ?_) ?_
  · cases t.validate <;> simp
  · cases s.validate <;> simp

theorem ofScopes_eq_error_iff (scopes : List Scope) (f : Fault) :
    ofScopes scopes = .error f ↔
      scopes = [] ∧ f = .setup "endpoint must declare at least one required scope"
        ∨ ∃ g, FirstFailure (fun s g => s.validate = .error g) scopes g ∧ f = .scope g := by
  unfold ofScopes
  split
  · rename_i hnil
    subst hnil
    simp [not_firstFailure_nil, eq_comm]
  · rename_i hne
    simp only [hne, false_and, false_or, ← firstFault_eq_some_iff]
    split
    · rename_i g hg
      simp [hg, eq_comm]
    · rename_i hnone
      simp [hnone]

end RequiredScopes

namespace Rpc.Methods

theorem find?_declare_of_ne {procedure p : String} (hne : p ≠ procedure)
    (required : RequiredScopes) (m : Methods) :
    (m.declare procedure required).find? p = m.find? p := by
  have hkept : ∀ e : String × RequiredScopes,
      decide ((!decide (e.1 = procedure)) = true ∧ decide (e.1 = p) = true)
        = decide (e.1 = p) := by
    intro e
    by_cases he : e.1 = p
    · simp [he, hne]
    · simp [he]
  simp only [declare, find?, List.find?_cons, List.find?_filter, hkept,
    decide_eq_false (Ne.symm hne)]

theorem register_eq (procedure : String) (texts : List String) (m : Methods) :
    m.register procedure texts = (RequiredScopes.ofTexts texts).map (m.declare procedure) := by
  unfold register
  cases RequiredScopes.ofTexts texts <;> rfl

end Rpc.Methods

/-- What is declared is required, can be had and does not come for nothing. A declaration is refused
exactly when it lists no scopes or a faulty one, for the first fault; and a procedure is declared as
its requirement is. -/
theorem declared_requirements_meaningful (texts : List String) :
    (∀ r, RequiredScopes.ofTexts texts = .ok r →
        r.texts = texts ∧ IsRequirement (texts.map Scope.mk))
      ∧ ((∃ f, RequiredScopes.ofTexts texts = .error f) ↔
          texts = [] ∨ ∃ t ∈ texts, (Scope.mk t).validate ≠ .ok ())
      ∧ (∀ f, RequiredScopes.ofTexts texts = .error f ↔
          texts = [] ∧ f = .setup "endpoint must declare at least one required scope"
            ∨ ∃ g, FirstFailure (fun t g => (Scope.mk t).validate = .error g) texts g
              ∧ f = .scope g)
      ∧ ∀ (procedure : String) (m : Rpc.Methods),
          (∀ f, m.register procedure texts = .error f ↔ RequiredScopes.ofTexts texts = .error f)
            ∧ ∀ m', m.register procedure texts = .ok m' →
                ∃ r, RequiredScopes.ofTexts texts = .ok r ∧ m'.find? procedure = some r
                  ∧ ∀ p, p ≠ procedure → m'.find? p = m.find? p := by
  have hrefused : ∀ f, RequiredScopes.ofTexts texts = .error f ↔
      texts = [] ∧ f = .setup "endpoint must declare at least one required scope"
        ∨ ∃ g, FirstFailure (fun t g => (Scope.mk t).validate = .error g) texts g
          ∧ f = .scope g := by
    intro f
    rw [RequiredScopes.ofTexts, RequiredScopes.ofScopes_eq_error_iff, List.map_eq_nil_iff]
    simp only [firstFailure_map_iff]
  refine ⟨fun r hr => ?_, ?_, hrefused, fun procedure m => ?_⟩
  · have hscopes := RequiredScopes.scopes_of_ofScopes hr
    refine ⟨?_, hscopes ▸ r.isRequirement⟩
    rw [RequiredScopes.texts, hscopes, List.map_map]
    exact List.map_id texts
  · have hfaulty : ∀ t : String,
        (Scope.mk t).validate ≠ .ok () ↔ ∃ g, (Scope.mk t).validate = .error g := by
      intro t
      cases (Scope.mk t).validate <;> simp
    simp only [hrefused, hfaulty, ← exists_firstFailure_iff]
    constructor
    · rintro ⟨f, ⟨hnil, -⟩ | ⟨g, hg, -⟩⟩
      · exact .inl hnil
      · exact .inr ⟨g, hg⟩
    · rintro (hnil | ⟨g, hg⟩)
      · exact ⟨_, .inl ⟨hnil, rfl⟩⟩
      · exact ⟨_, .inr ⟨g, hg, rfl⟩⟩
  · rw [Rpc.Methods.register_eq]
    cases RequiredScopes.ofTexts texts with
    | error g => exact ⟨fun f => by simp [Except.map], fun m' h => nomatch h⟩
    | ok r =>
      refine ⟨fun f => by simp [Except.map], ?_⟩
      rintro m' ⟨⟩
      exact ⟨r, rfl, m.find?_declare_self procedure r, fun p hp =>
        Rpc.Methods.find?_declare_of_ne hp r m⟩

end ScopeGate
