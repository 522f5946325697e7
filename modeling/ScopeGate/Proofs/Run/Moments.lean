import Mathlib.Data.List.Induction

/-!
# The moments of a run

A run leads from a state through events to further states. `moments` lists its events in order, each
with the state that it met, so that what happened earlier in a run can be spoken of: the place of a
moment in the list is its time, and the list up to it is its past.

A property of pasts and states that holds at the start and is kept whenever an event joins the past
holds after every run (`run_induction`) and at every moment of one (`moment_induction`).
-/

namespace ScopeGate

/-- An event and the state that it met. -/
structure Moment (σ ε : Type) where
  state : σ
  event : ε

section

variable {α : Type}

theorem getElem?_append_of_eq_some {xs : List α} {i : Nat} {x : α} (h : xs[i]? = some x)
    (ys : List α) : (xs ++ ys)[i]? = some x := by
  rw [List.getElem?_append_left (List.getElem?_eq_some_iff.mp h).1, h]

theorem getElem?_append_singleton_iff (xs : List α) (x y : α) (i : Nat) :
    (xs ++ [x])[i]? = some y ↔ xs[i]? = some y ∨ (i = xs.length ∧ x = y) := by
  constructor
  · intro h
    rcases Nat.lt_or_ge i xs.length with hi | hi
    · left
      rwa [List.getElem?_append_left hi] at h
    · right
      have hlen := (List.getElem?_eq_some_iff.mp h).1
      rw [List.length_append, List.length_singleton] at hlen
      have hlast : i = xs.length := by omega
      subst hlast
      rw [List.getElem?_concat_length] at h
      exact ⟨rfl, Option.some.inj h⟩
  · rintro (h | ⟨rfl, rfl⟩)
    · exact getElem?_append_of_eq_some h [x]
    · exact List.getElem?_concat_length

theorem getElem?_append_cons_of_ne (xs ys : List α) (x y : α) {i : Nat} (hi : i ≠ xs.length) :
    (xs ++ x :: ys)[i]? = (xs ++ y :: ys)[i]? := by
  rcases Nat.lt_or_gt_of_ne hi with hlt | hgt
  · rw [List.getElem?_append_left hlt, List.getElem?_append_left hlt]
  · obtain ⟨k, hk⟩ : ∃ k, i - xs.length = k + 1 := ⟨i - xs.length - 1, by omega⟩
    rw [List.getElem?_append_right (Nat.le_of_lt hgt),
      List.getElem?_append_right (Nat.le_of_lt hgt), hk, List.getElem?_cons_succ,
      List.getElem?_cons_succ]

/-- What comes before an element, the element and what comes after it are the list. -/
theorem take_append_cons {xs : List α} {i : Nat} {x : α}
    (h : xs[i]? = some x) : xs.take i ++ [x] ++ xs.drop (i + 1) = xs := by
  obtain ⟨hi, rfl⟩ := List.getElem?_eq_some_iff.mp h
  rw [List.append_assoc, List.singleton_append, ← List.drop_eq_getElem_cons hi,
    List.take_append_drop]

theorem getElem?_of_take_eq_some {xs : List α} {i j : Nat} {x : α}
    (h : (xs.take j)[i]? = some x) : i < j ∧ xs[i]? = some x := by
  have hi : i < j := by
    have hlen := (List.getElem?_eq_some_iff.mp h).1
    rw [List.length_take] at hlen
    omega
  rw [List.getElem?_take_of_lt hi] at h
  exact ⟨hi, h⟩

end

section

variable {σ ε : Type}

/-- Something happens at the moment `i`, and all later moments are of a kind. -/
def Since (P Q : Moment σ ε → Prop) (ms : List (Moment σ ε)) (i : Nat) : Prop :=
  (∃ m, ms[i]? = some m ∧ P m) ∧ ∀ j m, i < j → ms[j]? = some m → Q m

/-- A further moment is the one at which it happens, or one of the later ones. -/
theorem since_append_singleton_iff (P Q : Moment σ ε → Prop) (past : List (Moment σ ε))
    (m : Moment σ ε) (i : Nat) :
    Since P Q (past ++ [m]) i ↔ (i = past.length ∧ P m) ∨ (Since P Q past i ∧ Q m) := by
  constructor
  · rintro ⟨⟨n, hn, hP⟩, hQ⟩
    rcases (getElem?_append_singleton_iff past m n i).mp hn with hold | ⟨hi, rfl⟩
    · right
      have hi := (List.getElem?_eq_some_iff.mp hold).1
      refine ⟨⟨⟨n, hold, hP⟩, ?_⟩, hQ past.length m hi List.getElem?_concat_length⟩
      intro j n' hj hn'
      exact hQ j n' hj (getElem?_append_of_eq_some hn' [m])
    · exact .inl ⟨hi, hP⟩
  · rintro (⟨rfl, hP⟩ | ⟨⟨⟨n, hn, hP⟩, hQ⟩, hm⟩)
    · refine ⟨⟨m, List.getElem?_concat_length, hP⟩, ?_⟩
      intro j n hj hn
      have hlen := (List.getElem?_eq_some_iff.mp hn).1
      rw [List.length_append, List.length_singleton] at hlen
      omega
    · refine ⟨⟨n, getElem?_append_of_eq_some hn [m], hP⟩, ?_⟩
      intro j n' hj hn'
      rcases (getElem?_append_singleton_iff past m n' j).mp hn' with hold | ⟨_, rfl⟩
      · exact hQ j n' hj hold
      · exact hm

theorem not_since_nil (P Q : Moment σ ε → Prop) (i : Nat) : ¬ Since P Q [] i := by
  rintro ⟨⟨m, hm, -⟩, -⟩
  simp at hm

end

section

variable {σ ε : Type} (step : σ → ε → σ)

def moments : σ → List ε → List (Moment σ ε)
  | _, [] => []
  | s, e :: es => ⟨s, e⟩ :: moments (step s e) es

@[simp] theorem moments_nil (s : σ) : moments step s [] = [] := rfl

theorem moments_cons (s : σ) (e : ε) (es : List ε) :
    moments step s (e :: es) = ⟨s, e⟩ :: moments step (step s e) es := rfl

theorem map_event_moments (s : σ) (es : List ε) :
    (moments step s es).map (fun m => m.event) = es := by
  induction es generalizing s with
  | nil => rfl
  | cons e es ih => rw [moments_cons, List.map_cons, ih (step s e)]

theorem length_moments (s : σ) (es : List ε) : (moments step s es).length = es.length := by
  rw [← List.length_map, map_event_moments]

theorem moments_append (s : σ) (es es' : List ε) :
    moments step s (es ++ es') = moments step s es ++ moments step (es.foldl step s) es' := by
  induction es generalizing s with
  | nil => rfl
  | cons e es ih =>
    rw [List.cons_append, moments_cons, moments_cons, ih (step s e), List.foldl_cons,
      List.cons_append]

/-- A further event adds a moment whose state is the one that the run has led to. -/
theorem moments_append_singleton (s : σ) (es : List ε) (e : ε) :
    moments step s (es ++ [e]) = moments step s es ++ [⟨es.foldl step s, e⟩] :=
  moments_append step s es [e]

variable {step}

theorem event_of_getElem? {s : σ} {es : List ε} {i : Nat} {m : Moment σ ε}
    (hm : (moments step s es)[i]? = some m) : es[i]? = some m.event := by
  rw [← map_event_moments step s es, List.getElem?_map, hm, Option.map_some]

theorem event_mem_of_getElem? {s : σ} {es : List ε} {i : Nat} {m : Moment σ ε}
    (hm : (moments step s es)[i]? = some m) : m.event ∈ es :=
  List.mem_of_getElem? (event_of_getElem? hm)

/-- What holds at the start and is kept by every event holds after every run. The past is at hand
when it is shown to be kept. -/
theorem run_induction {P : List (Moment σ ε) → σ → Prop} {s : σ} (start : P [] s)
    (next : ∀ past t e, P past t → P (past ++ [⟨t, e⟩]) (step t e)) (es : List ε) :
    P (moments step s es) (es.foldl step s) := by
  induction es using List.reverseRecOn with
  | nil => exact start
  | append_singleton es e ih =>
    rw [moments_append_singleton, List.foldl_append]
    exact next _ _ e ih

/-- What holds after every run holds at every moment, of its past and its state. -/
theorem moment_induction {P : List (Moment σ ε) → σ → Prop} {s : σ} (start : P [] s)
    (next : ∀ past t e, P past t → P (past ++ [⟨t, e⟩]) (step t e)) {es : List ε} {i : Nat}
    {m : Moment σ ε} (hm : (moments step s es)[i]? = some m) :
    P ((moments step s es).take i) m.state := by
  induction es using List.reverseRecOn with
  | nil => simp at hm
  | append_singleton es e ih =>
    rw [moments_append_singleton] at hm ⊢
    rcases (getElem?_append_singleton_iff _ _ _ _).mp hm with hold | ⟨rfl, rfl⟩
    · have hi := (List.getElem?_eq_some_iff.mp hold).1
      rw [List.take_append_of_le_length (Nat.le_of_lt hi)]
      exact ih hold
    · rw [List.take_left]
      exact run_induction start next es

/-- What holds of the state at the start and is kept by the events of a run holds at every moment of
it. -/
theorem moment_invariant {P : σ → Prop} {s : σ} {es : List ε} (start : P s)
    (next : ∀ t, ∀ e ∈ es, P t → P (step t e)) {i : Nat} {m : Moment σ ε}
    (hm : (moments step s es)[i]? = some m) : P m.state ∧ m.event ∈ es := by
  induction es generalizing s i with
  | nil => simp at hm
  | cons e es ih =>
    rw [moments_cons] at hm
    cases i with
    | zero =>
      rw [List.getElem?_cons_zero, Option.some.injEq] at hm
      subst hm
      exact ⟨start, List.mem_cons_self⟩
    | succ i =>
      rw [List.getElem?_cons_succ] at hm
      obtain ⟨hP, hmem⟩ := ih (next s e List.mem_cons_self start)
        (fun t e' he' => next t e' (List.mem_cons_of_mem e he')) hm
      exact ⟨hP, List.mem_cons_of_mem e hmem⟩

/-- Two runs keep step. The second one has, for each moment of the first, one event of its own; what
relates their states at the start and is kept at every moment relates them at every moment. -/
theorem exists_moment_of_lockstep {σ' ε' : Type} {step' : σ' → ε' → σ'} {R : σ → σ' → Prop}
    {f : Moment σ ε → ε'} {s : σ} {s' : σ'} {es : List ε} (start : R s s')
    (next : ∀ m ∈ moments step s es, ∀ t, R m.state t →
      R (step m.state m.event) (step' t (f m)))
    {i : Nat} {m : Moment σ ε} (hm : (moments step s es)[i]? = some m) :
    ∃ t, (moments step' s' ((moments step s es).map f))[i]? = some ⟨t, f m⟩ ∧ R m.state t := by
  induction es generalizing s s' i with
  | nil => simp at hm
  | cons e es ih =>
    rw [moments_cons] at hm next ⊢
    rw [List.map_cons, moments_cons]
    cases i with
    | zero =>
      rw [List.getElem?_cons_zero, Option.some.injEq] at hm
      subst hm
      exact ⟨s', List.getElem?_cons_zero, start⟩
    | succ i =>
      rw [List.getElem?_cons_succ] at hm
      obtain ⟨t, ht, hR⟩ := ih (next ⟨s, e⟩ List.mem_cons_self s' start)
        (fun n hn => next n (List.mem_cons_of_mem _ hn)) hm
      exact ⟨t, by rw [List.getElem?_cons_succ, ht], hR⟩

end

end ScopeGate
