import ScopeGate.Proofs.Scope.Segments

/-!
# What matching decides

`Scope.Entails g r` says on decomposed scopes when a granted scope is enough for a required one:
they are the same, or the alias `profile` stands for the required scope exactly, or both are
structured and the path of segments of the one starts that of the other. It looks at no characters,
and it holds of a malformed scope and itself.

The main statement is that `Scope.anyMeets` decides this relation for requirements that are not
malformed, and nothing else. Malformed scopes therefore play no part on either side, an alias other
than `profile` meets itself alone, and no structured scope meets an alias.
-/

namespace ScopeGate.Scope

def profileParts : Parts := ⟨"sams", "user.profile", "read"⟩

/-- Whether the granted scope `g` is enough for the requirement `r`. -/
inductive Entails (g r : Scope) : Prop where
  | same (h : g = r)
  /-- An alias stands for one structured scope and for none below it. -/
  | profile (hg : g = Scope.profile) (hr : r.parts? = some profileParts)
  /-- Both name the same service and action, and the path of `r` goes on where that of `g` ends. -/
  | broader {p q : Parts} (hg : g.parts? = some p) (hr : r.parts? = some q)
      (hservice : p.service = q.service) (haction : p.action = q.action)
      (hpath : p.segments <+: q.segments)

theorem isMalformed_eq_false_iff (r : Scope) :
    r.isMalformed = false ↔ r.isAlias = true ∨ ∃ q, r.parts? = some q := by
  rw [isMalformed, Bool.and_eq_false_iff, Bool.not_eq_false', Option.isNone_eq_false_iff,
    Option.isSome_iff_exists]

theorem isAlias_profile : profile.isAlias = true := by decide

theorem aliasParts?_eq_some_iff (g : Scope) (p : Parts) :
    g.aliasParts? = some p ↔ g = profile ∧ p = profileParts := by
  unfold aliasParts?
  split
  · rename_i h
    rw [Option.some.injEq]
    exact ⟨fun hp => ⟨h, hp.symm⟩, fun hp => hp.2.symm⟩
  · rename_i h
    exact ⟨fun hp => absurd hp (by simp), fun hp => absurd hp.1 h⟩

/-- The test on texts decides the relation on decomposed scopes. -/
theorem meets_iff_entails (g r : Scope) : g.meets r = true ↔ g.Entails r := by
  unfold meets
  split
  · rename_i h
    exact ⟨fun _ => .same h, fun _ => rfl⟩
  · rename_i hne
    split
    · -- An alias is not structured, so of the three ways only the second is left.
      rename_i halias
      constructor
      · intro h
        split at h
        · rename_i p q hp hq
          obtain ⟨rfl, rfl⟩ := (aliasParts?_eq_some_iff g p).mp hp
          exact .profile rfl (by rw [hq, ← eq_of_beq h])
        · cases h
      · intro h
        cases h with
        | same h => exact absurd h hne
        | profile hg hr =>
          rw [(aliasParts?_eq_some_iff g profileParts).mpr ⟨hg, rfl⟩, hr]
          exact beq_self_eq_true profileParts
        | broader hg _ _ _ _ =>
          rw [parts?_eq_none_of_isAlias halias] at hg
          cases hg
    · rename_i halias
      constructor
      · intro h
        split at h
        · rename_i p q hp hq
          simp only [Bool.and_eq_true, beq_iff_eq] at h
          obtain ⟨⟨hservice, haction⟩, hcovers⟩ := h
          exact .broader hp hq hservice haction ((p.permissionCovers_iff_segments q).mp hcovers)
        · cases h
      · intro h
        cases h with
        | same h => exact absurd h hne
        | profile hg _ => exact absurd (hg ▸ isAlias_profile) halias
        | @broader p q hg hr hservice haction hpath =>
          rw [hg, hr]
          simp only [Bool.and_eq_true, beq_iff_eq]
          exact ⟨⟨hservice, haction⟩, (p.permissionCovers_iff_segments q).mpr hpath⟩

theorem Entails.isMalformed_eq_false {g r : Scope} (h : g.Entails r)
    (hr : r.isMalformed = false) : g.isMalformed = false := by
  cases h with
  | same h => rw [h, hr]
  | profile hg _ => exact (isMalformed_eq_false_iff g).mpr (.inl (hg ▸ isAlias_profile))
  | broader hg _ _ _ _ => exact (isMalformed_eq_false_iff g).mpr (.inr ⟨_, hg⟩)

theorem entails_iff_eq_of_isAlias {g : Scope} (hg : g.isAlias = true) (hne : g ≠ profile)
    (r : Scope) : g.Entails r ↔ g = r := by
  constructor
  · intro h
    cases h with
    | same h => exact h
    | profile h _ => exact absurd h hne
    | broader hp _ _ _ _ =>
      rw [parts?_eq_none_of_isAlias hg] at hp
      cases hp
  · exact .same

theorem Entails.eq_of_isAlias {g r : Scope} (h : g.Entails r) (hr : r.isAlias = true) : g = r := by
  have hnone := parts?_eq_none_of_isAlias hr
  cases h with
  | same h => exact h
  | profile _ hp => rw [hnone] at hp; cases hp
  | broader _ hp _ _ _ => rw [hnone] at hp; cases hp

theorem anyMeets_of_isMalformed_eq_false {r : Scope} (hr : r.isMalformed = false)
    (granted : List Scope) : anyMeets granted r = true ↔ ∃ g ∈ granted, g.Entails r := by
  unfold anyMeets
  rw [if_neg (by simp [hr]), List.any_eq_true]
  exact exists_congr fun g => and_congr_right fun _ => meets_iff_entails g r

theorem anyMeets_filter_isMalformed (granted : List Scope) (r : Scope) :
    anyMeets (granted.filter fun g => !g.isMalformed) r = anyMeets granted r := by
  cases hr : r.isMalformed with
  | true =>
    rw [anyMeets_eq_false_of_isMalformed hr, anyMeets_eq_false_of_isMalformed hr]
  | false =>
    rw [Bool.eq_iff_iff, anyMeets_of_isMalformed_eq_false hr, anyMeets_of_isMalformed_eq_false hr]
    constructor
    · rintro ⟨g, hg, h⟩
      exact ⟨g, (List.mem_filter.mp hg).1, h⟩
    · rintro ⟨g, hg, h⟩
      refine ⟨g, List.mem_filter.mpr ⟨hg, ?_⟩, h⟩
      rw [h.isMalformed_eq_false hr]
      rfl

/-- Grants meet a requirement exactly when it is an alias or structured and one of them entails it.
Consequently a malformed requirement is not met and malformed grants play no part, an alias other
than `profile` meets itself alone, and a structured scope meets no alias. -/
theorem anyMeets_iff_entails (granted : List Scope) (r : Scope) :
    (anyMeets granted r = true ↔
        (r.isAlias = true ∨ ∃ q, r.parts? = some q) ∧ ∃ g ∈ granted, g.Entails r)
      ∧ (r.isMalformed = true → anyMeets granted r = false)
      ∧ anyMeets (granted.filter fun g => !g.isMalformed) r = anyMeets granted r
      ∧ (∀ g : Scope, g.isAlias = true → g ≠ profile → (anyMeets [g] r = true ↔ g = r))
      ∧ (∀ g : Scope, g.parts?.isSome = true → r.isAlias = true → anyMeets [g] r = false) := by
  refine ⟨?_, fun hr => anyMeets_eq_false_of_isMalformed hr granted,
    anyMeets_filter_isMalformed granted r, ?_, ?_⟩
  · rw [← isMalformed_eq_false_iff]
    cases hr : r.isMalformed with
    | true => simp [anyMeets_eq_false_of_isMalformed hr]
    | false => simp [anyMeets_of_isMalformed_eq_false hr]
  · intro g hg hne
    cases hr : r.isMalformed with
    | true =>
      rw [anyMeets_eq_false_of_isMalformed hr]
      refine ⟨fun h => absurd h Bool.false_ne_true, ?_⟩
      rintro rfl
      rw [(isMalformed_eq_false_iff g).mpr (.inl hg)] at hr
      cases hr
    | false =>
      rw [anyMeets_of_isMalformed_eq_false hr]
      simp only [List.mem_singleton, exists_eq_left]
      exact entails_iff_eq_of_isAlias hg hne r
  · intro g hg hr
    rw [Bool.eq_false_iff]
    intro h
    have hsound := (isMalformed_eq_false_iff r).mpr (.inl hr)
    obtain ⟨g', hg', hent⟩ := (anyMeets_of_isMalformed_eq_false hsound [g]).mp h
    rw [List.mem_singleton.mp hg'] at hent
    rw [hent.eq_of_isAlias hr, parts?_eq_none_of_isAlias hr] at hg
    cases hg

example : anyMeets [⟨"sams::user::read"⟩] ⟨"sams::user.roles::read"⟩ = true := by decide +kernel

example : anyMeets [⟨"sams::user::read"⟩] ⟨"sams::username::read"⟩ = false := by decide +kernel

end ScopeGate.Scope
