import Mathlib.Data.List.Basic

/-!
# First failures

Checks are made one after the other, and the fault that is reported is that of the first check that
fails. `FirstFailure` says so of a list of checks, whatever a check is and however it fails: all
that come before the one to blame pass. `IsOutcomeOf` says of a computation that it fails in just
this way, and a computation that makes one check and then goes on has it from its two halves.

Where the results and the faults of a computation are told by conditions of their own, it is enough
that each condition leads to its outcome and that one of them always holds (`outcome_iff`).
-/

namespace ScopeGate

variable {α β γ ε : Type} {fails : α → ε → Prop}

/-- Whether a fault is that of the first item of a list that fails. -/
def FirstFailure (fails : α → ε → Prop) (items : List α) (f : ε) : Prop :=
  ∃ before a after, items = before ++ a :: after ∧ (∀ b ∈ before, ∀ g, ¬ fails b g) ∧ fails a f

theorem not_firstFailure_nil (f : ε) : ¬ FirstFailure fails [] f := by
  rintro ⟨before, a, after, h, -⟩
  simp at h

theorem firstFailure_cons_iff (a : α) (items : List α) (f : ε) :
    FirstFailure fails (a :: items) f ↔
      fails a f ∨ (∀ g, ¬ fails a g) ∧ FirstFailure fails items f := by
  constructor
  · rintro ⟨before, b, after, h, hpass, hfail⟩
    cases before with
    | nil =>
      cases h
      exact .inl hfail
    | cons c before =>
      cases h
      rw [List.forall_mem_cons] at hpass
      exact .inr ⟨hpass.1, before, b, after, rfl, hpass.2, hfail⟩
  · rintro (hfail | ⟨hpass, before, b, after, rfl, hbefore, hfail⟩)
    · exact ⟨[], a, items, rfl, by simp, hfail⟩
    · exact ⟨a :: before, b, after, rfl, List.forall_mem_cons.mpr ⟨hpass, hbefore⟩, hfail⟩

theorem exists_firstFailure_iff (items : List α) :
    (∃ f, FirstFailure fails items f) ↔ ∃ a ∈ items, ∃ f, fails a f := by
  induction items with
  | nil => simp [not_firstFailure_nil]
  | cons a items ih =>
    simp only [firstFailure_cons_iff, exists_or, exists_and_left, ih, List.exists_mem_cons_iff]
    by_cases h : ∃ f, fails a f
    · simp [h]
    · simp [not_exists.mp h]

theorem firstFailure_map_iff (g : β → α) (items : List β) (f : ε) :
    FirstFailure fails (items.map g) f ↔ FirstFailure (fun b => fails (g b)) items f := by
  induction items with
  | nil => simp [not_firstFailure_nil]
  | cons b items ih => rw [List.map_cons, firstFailure_cons_iff, firstFailure_cons_iff, ih]

/-! ## Computations -/

/-- Conditions that lead to their outcomes, and of which one holds, tell the outcome. -/
theorem outcome_iff {x : Except ε β} {good : β → Prop} {bad : ε → Prop}
    (hgood : ∀ {b : β}, good b → x = .ok b) (hbad : ∀ {f : ε}, bad f → x = .error f)
    (hone : (∃ b, good b) ∨ ∃ f, bad f) :
    (∀ b, x = .ok b ↔ good b) ∧ ∀ f, x = .error f ↔ bad f := by
  refine ⟨fun b => ⟨fun h => ?_, hgood⟩, fun f => ⟨fun h => ?_, hbad⟩⟩
  · rcases hone with ⟨c, hc⟩ | ⟨g, hg⟩
    · rw [hgood hc, Except.ok.injEq] at h
      exact h ▸ hc
    · rw [hbad hg] at h
      cases h
  · rcases hone with ⟨c, hc⟩ | ⟨g, hg⟩
    · rw [hgood hc] at h
      cases h
    · rw [hbad hg, Except.error.injEq] at h
      exact h ▸ hg

theorem bind_eq_ok_iff {x : Except ε β} {k : β → Except ε γ} {c : γ} :
    x >>= k = .ok c ↔ ∃ b, x = .ok b ∧ k b = .ok c := by
  cases x with
  | error f => exact ⟨(fun h => nomatch h), fun ⟨_, h, _⟩ => nomatch h⟩
  | ok b => exact ⟨fun h => ⟨b, rfl, h⟩, fun ⟨_, h, hk⟩ => Except.ok.inj h ▸ hk⟩

theorem guard_eq_ok_iff {c : Prop} [Decidable c] {g : ε} {x : Except ε β} {b : β} :
    (if c then .error g else x) = .ok b ↔ ¬ c ∧ x = .ok b := by
  by_cases hc : c <;> simp [hc]

def IsOutcomeOf (fails : α → ε → Prop) (items : List α) (x : Except ε β) : Prop :=
  ∀ f, x = .error f ↔ FirstFailure fails items f

theorem isOutcomeOf_ok (b : β) : IsOutcomeOf fails [] (.ok b : Except ε β) := fun f =>
  ⟨(fun h => nomatch h), fun h => absurd h (not_firstFailure_nil f)⟩

/-- A step that makes the first check and what goes on with its result make the checks in order. -/
theorem IsOutcomeOf.bind {a : α} {items : List α} {x : Except ε β} {k : β → Except ε γ}
    (hx : ∀ f, x = .error f ↔ fails a f) (hk : ∀ b, x = .ok b → IsOutcomeOf fails items (k b)) :
    IsOutcomeOf fails (a :: items) (x >>= k) := by
  intro f
  rw [firstFailure_cons_iff, ← hx]
  simp only [← hx]
  cases x with
  | error g =>
    change Except.error g = Except.error f ↔ _
    simp
  | ok b =>
    change k b = Except.error f ↔ _
    simpa using hk b rfl f

theorem IsOutcomeOf.thenReturn {items : List α} {x : Except ε β} (hx : IsOutcomeOf fails items x)
    (c : γ) : IsOutcomeOf fails items (x >>= fun _ => pure c) := by
  intro f
  rw [← hx f]
  cases x with
  | error g =>
    change Except.error g = Except.error f ↔ _
    rw [Except.error.injEq, Except.error.injEq]
  | ok b => exact ⟨(fun h => nomatch h), fun h => nomatch h⟩

/-- A test that refuses makes the first check, and what else is done makes the others. -/
theorem IsOutcomeOf.guard {a : α} {items : List α} {c : Prop} [Decidable c] {g : ε}
    {x : Except ε β} (ha : ∀ f, fails a f ↔ c ∧ f = g) (hx : ¬ c → IsOutcomeOf fails items x) :
    IsOutcomeOf fails (a :: items) (if c then .error g else x) := by
  intro f
  rw [firstFailure_cons_iff]
  simp only [ha]
  by_cases hc : c
  · simp [hc, eq_comm]
  · simpa [hc] using hx hc f

end ScopeGate
