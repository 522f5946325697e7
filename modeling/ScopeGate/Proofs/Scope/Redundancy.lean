import Mathlib.Data.List.Basic
import ScopeGate.Proofs.Scope.Order
import ScopeGate.Proofs.Scope.Registration

/-!
# Redundant grants

What a list of grants meets is what one of its scopes covers, so that a grant adds nothing to
another one that meets as much. By the order of scopes that is the case when both are structured and
the other one covers it. The same reading shows that neither the order of the grants nor how often
one stands among them matters, nor anything malformed.

`profile` adds itself and one structured scope. It is the one grant that meets a scope without
meeting what that scope covers.
-/

namespace ScopeGate

/-- Two lists of grants that no requirements tell apart. -/
structure Grants.Agree (g h : Grants) : Prop where
  meet_eq : ∀ r, g.meet r = h.meet r
  firstUnmet_eq : ∀ required, g.firstUnmet required = h.firstUnmet required
  meetAll_eq : ∀ required, g.meetAll required = h.meetAll required

namespace Scope

theorem meet_iff (g : Grants) (r : Scope) : g.meet r = true ↔ ∃ s ∈ g.scopes, s.Covers r :=
  anyMeets_iff_exists_covers g.scopes r

theorem Covers.isMalformed_eq_false {s t : Scope} (h : s.Covers t) : s.isMalformed = false :=
  have h' := (covers_iff_entails s t).mp h
  h'.2.isMalformed_eq_false h'.1

/-- Grants that meet what each of the others covers meet all that the others do. -/
theorem meet_of_each {g h : Grants} (heach : ∀ s ∈ g.scopes, ∀ r, s.Covers r → h.meet r = true)
    {r : Scope} (hr : g.meet r = true) : h.meet r = true := by
  obtain ⟨s, hs, hcovers⟩ := (meet_iff g r).mp hr
  exact heach s hs r hcovers

theorem agree_of_each {g h : Grants} (hgh : ∀ s ∈ g.scopes, ∀ r, s.Covers r → h.meet r = true)
    (hhg : ∀ s ∈ h.scopes, ∀ r, s.Covers r → g.meet r = true) : g.Agree h := by
  have hmeet : g.meet = h.meet := by
    funext r
    rw [Bool.eq_iff_iff]
    exact ⟨meet_of_each hgh, meet_of_each hhg⟩
  have hfirst : g.firstUnmet = h.firstUnmet := by
    unfold Grants.firstUnmet
    rw [hmeet]
  exact ⟨congrFun hmeet, congrFun hfirst, fun required => by
    rw [Grants.meetAll, Grants.meetAll, hfirst]⟩

/-- Grants agree with a part of them in which no other scope is missing than a covered one. -/
theorem agree_of_covered {g h : Grants} {s t : Scope} (ht : t ∈ g.scopes) (hst : s ≠ t)
    (htstructured : t.IsStructured) (hcovers : t.Covers s) (hsub : h.scopes ⊆ g.scopes)
    (hkept : ∀ u ∈ g.scopes, u ≠ s → u ∈ h.scopes) : h.Agree g := by
  refine agree_of_each (fun u hu r hr => (meet_iff g r).mpr ⟨u, hsub hu, hr⟩) fun u hu r hr => ?_
  refine (meet_iff h r).mpr ?_
  by_cases hus : u = s
  · subst hus
    exact ⟨t, hkept t ht hst.symm, hcovers.trans htstructured.ne_profile hr⟩
  · exact ⟨u, hkept u hu hus, hr⟩

theorem agree_of_mem_iff {g h : Grants}
    (hmem : ∀ s, s.isMalformed = false → (s ∈ g.scopes ↔ s ∈ h.scopes)) : g.Agree h :=
  agree_of_each
    (fun s hs r hr => (meet_iff h r).mpr ⟨s, (hmem s hr.isMalformed_eq_false).mp hs, hr⟩)
    (fun s hs r hr => (meet_iff g r).mpr ⟨s, (hmem s hr.isMalformed_eq_false).mpr hs, hr⟩)

theorem meetAll_of_subset {g h : Grants} (hsub : g.scopes ⊆ h.scopes) {required : List Scope}
    (hall : g.meetAll required = true) : h.meetAll required = true := by
  rw [Grants.meetAll_iff] at hall ⊢
  intro r hr
  exact meet_of_each (fun s hs r' hr' => (meet_iff h r').mpr ⟨s, hsub hs, hr'⟩) (hall r hr)

/-- The structured scope that `profile` stands for. -/
def userProfile : Scope := ⟨"sams::user.profile::read"⟩

theorem parts?_userProfile : userProfile.parts? = some profileParts := by cbv

theorem profile_covers_iff (r : Scope) : profile.Covers r ↔ r = profile ∨ r = userProfile := by
  rw [covers_iff_entails]
  constructor
  · rintro ⟨-, h⟩
    cases h with
    | same h => exact .inl h.symm
    | profile _ hr =>
      rw [((parts?_eq_some_iff r _).mp hr).1,
        ← ((parts?_eq_some_iff userProfile _).mp parts?_userProfile).1]
      exact .inr rfl
    | broader hg _ _ _ _ => exact absurd rfl (IsStructured.ne_profile ⟨_, hg⟩)
  · rintro (rfl | rfl)
    · exact ⟨(isMalformed_eq_false_iff profile).mpr (.inl isAlias_profile), .same rfl⟩
    · exact ⟨IsStructured.isMalformed_eq_false ⟨_, parts?_userProfile⟩,
        .profile rfl parts?_userProfile⟩

theorem meet_profile_cons_iff (g : Grants) (r : Scope) :
    Grants.meet ⟨profile :: g.scopes⟩ r = true ↔
      g.meet r = true ∨ r = profile ∨ r = userProfile := by
  rw [meet_iff, meet_iff, ← profile_covers_iff]
  simp [or_comm]

/-- The permission of a scope that may be registered may end with any of its segments. -/
theorem mayEndWith_of_validate {t : Scope} {q : Parts} (ht : t.parts? = some q)
    (hvalid : t.validate = .ok ()) : ∀ segment ∈ q.segments, Parts.mayEndWith segment = true := by
  have htext : IsScopeText t.text := by
    cases (validate_eq_ok_iff t).mp hvalid with
    | ofAlias h =>
      rw [parts?_eq_none_of_isAlias ((isAlias_iff t).mpr h)] at ht
      cases ht
    | ofGrammar _ h => exact h
  obtain ⟨p, hp, hspelled⟩ := (isScopeText_iff_parts t).mp htext
  rw [ht, Option.some.injEq] at hp
  subst hp
  intro segment hsegment
  have hname := isNameText_of_mem_segments hspelled.permission hsegment
  rw [Parts.mayEndWith, bne_iff_ne]
  exact (standsBefore_of_colon_not_mem hname.colon_not_mem).2

/-- Above a scope that may be registered there is one scope for each of its segments. -/
theorem length_broader_of_validate {t : Scope} {q : Parts} (ht : t.parts? = some q)
    (hvalid : t.validate = .ok ()) : q.broader.length = q.depth := by
  have hlength := congrArg List.length (map_lastSegment?_broader ht)
  rw [List.length_map, List.length_map,
    List.filter_eq_self.mpr (mayEndWith_of_validate ht hvalid)] at hlength
  exact hlength

theorem agree_without {g : Grants} {s t : Scope} (ht : t ∈ g.scopes) (hst : s ≠ t)
    (htstructured : t.IsStructured) (hcovers : t.Covers s) :
    Grants.Agree ⟨g.scopes.erase s⟩ g ∧ Grants.Agree ⟨g.scopes.filter (· ≠ s)⟩ g := by
  constructor
  · exact agree_of_covered ht hst htstructured hcovers List.erase_subset
      fun u hu hne => (List.mem_erase_of_ne hne).mpr hu
  · exact agree_of_covered ht hst htstructured hcovers (List.filter_subset_self _)
      fun u hu hne => List.mem_filter.mpr ⟨hu, by simpa using hne⟩

/-- `profile` meets a scope without meeting what that scope covers. -/
theorem profile_not_closed :
    ∃ r r' : Scope, profile.Covers r ∧ r.Covers r' ∧ ¬ profile.Covers r' := by
  have hbelow : userProfile.Covers ⟨"sams::user.profile.name::read"⟩ := by
    unfold Covers
    decide +kernel
  refine ⟨userProfile, _, (profile_covers_iff _).mpr (.inr rfl), hbelow, ?_⟩
  rw [profile_covers_iff]
  decide

theorem meet_profile_cons_of_below (g : Grants) {r : Scope} (hr : userProfile.Covers r)
    (hne : r ≠ userProfile) : Grants.meet ⟨profile :: g.scopes⟩ r = g.meet r := by
  have hprofile : r ≠ profile := by
    rintro rfl
    have hsame := ((covers_iff_entails _ _).mp hr).2.eq_of_isAlias isAlias_profile
    exact absurd hsame (by decide)
  rw [Bool.eq_iff_iff, meet_profile_cons_iff]
  simp [hprofile, hne]

/-- Coverage is an order of the structured scopes, and what is above one of them is a chain with a
scope for each segment that its permission may end with, which in a scope fit for registration are
all. Therefore a grant is redundant beside another that covers it, and grants with the same
well-formed scopes, in whatever order and however often, meet the same; more grants meet no less.
Every scope but `profile` meets whatever is covered by what it meets. A grant of `profile` adds
itself and the scope that it stands for, and nothing that this one covers. -/
theorem covered_grants_redundant :
    IsPartialOrder {s : Scope // s.IsStructured} (fun s t => s.val.Covers t.val)
      ∧ (∀ t q, t.parts? = some q → ∃ chain, IsChainTo t chain
          ∧ chain.map lastSegment? = (q.segments.filter Parts.mayEndWith).map some
          ∧ (t.validate = .ok () → chain.length = q.depth))
      ∧ (∀ (g : Grants) (s t : Scope), t ∈ g.scopes → s ≠ t → t.IsStructured → t.Covers s →
          Grants.Agree ⟨g.scopes.erase s⟩ g ∧ Grants.Agree ⟨g.scopes.filter (· ≠ s)⟩ g)
      ∧ (∀ g h : Grants,
          (∀ s, s.isMalformed = false → (s ∈ g.scopes ↔ s ∈ h.scopes)) → g.Agree h)
      ∧ (∀ (g h : Grants) (required : List Scope), g.scopes ⊆ h.scopes →
          g.meetAll required = true → h.meetAll required = true)
      ∧ (∀ s r r' : Scope, s ≠ profile → s.Covers r → r.Covers r' → s.Covers r')
      ∧ (∃ r r' : Scope, profile.Covers r ∧ r.Covers r' ∧ ¬ profile.Covers r')
      ∧ (∀ (g : Grants) (r : Scope), Grants.meet ⟨profile :: g.scopes⟩ r = true ↔
          g.meet r = true ∨ r = profile ∨ r = userProfile)
      ∧ (∀ (g : Grants) (r : Scope), userProfile.Covers r → r ≠ userProfile →
          Grants.meet ⟨profile :: g.scopes⟩ r = g.meet r) := by
  refine ⟨isPartialOrder_covers, ?_, fun _ _ _ => agree_without, fun _ _ => agree_of_mem_iff,
    fun _ _ _ hsub => meetAll_of_subset hsub, fun _ _ _ => Covers.trans, profile_not_closed,
    meet_profile_cons_iff, fun g _ => meet_profile_cons_of_below g⟩
  intro t q ht
  exact ⟨q.broader, isChainTo_broader ht, map_lastSegment?_broader ht,
    length_broader_of_validate ht⟩

end Scope

end ScopeGate
