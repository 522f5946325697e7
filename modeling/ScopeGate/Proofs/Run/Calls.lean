import ScopeGate.InFlight
import ScopeGate.Proofs.Run.Moments

/-!
# Calls over time

In a system whose calls may wait for an answer, an event can let a call wait under a name and it can
let go of one. `Traffic` says which call each event keeps and which name it frees. That is enough to
tell the calls that wait in a state by the past alone (`Tracks`): under a name waits the call that
was kept there last, unless the name has been freed since.

A call that begins at one moment ends at the same one, or at the moment that frees the name under
which it has waited all the time (`Spans`).
-/

namespace ScopeGate

structure Traffic (σ ε α : Type) where
  waiting : σ → InFlight α
  /-- The call that an event keeps, with its name. -/
  held? : σ → ε → Option (String × α)
  /-- The name that an event frees. -/
  freed? : σ → ε → Option String

namespace Traffic

variable {σ ε α : Type} (t : Traffic σ ε α)

def left (s : σ) (e : ε) : InFlight α :=
  match t.freed? s e with
  | some name => (t.waiting s).drop name
  | none => t.waiting s

def after (s : σ) (e : ε) : InFlight α :=
  match t.held? s e with
  | some (name, call) => (t.left s e).hold name call
  | none => t.left s e

def Keeps (name : String) (m : Moment σ ε) : Prop :=
  (∀ call, t.held? m.state m.event ≠ some (name, call)) ∧ t.freed? m.state m.event ≠ some name

/-- The call has waited under the name since the moment `i`. -/
structure HeldSince (past : List (Moment σ ε)) (i : Nat) (name : String) (call : α) : Prop where
  held : ∃ m, past[i]? = some m ∧ t.held? m.state m.event = some (name, call)
  kept : ∀ j m, i < j → past[j]? = some m → t.Keeps name m

/-- The call that begins at the moment `i` ends at the moment `j`. -/
inductive Spans (ms : List (Moment σ ε)) : Nat → Nat → Prop where
  | atOnce {i : Nat} {m : Moment σ ε} (hm : ms[i]? = some m)
      (hheld : t.held? m.state m.event = none) : Spans ms i i
  | waited {i j : Nat} {name : String} {call : α} {m : Moment σ ε}
      (hheld : t.HeldSince (ms.take j) i name call) (hm : ms[j]? = some m)
      (hfreed : t.freed? m.state m.event = some name) : Spans ms i j

/-- The calls that wait are those that the past has left: under a name waits what was kept there
last, unless the name has been freed since. -/
def Tracks (past : List (Moment σ ε)) (s : σ) : Prop :=
  ∀ name call, (t.waiting s).find? name = some call ↔ ∃ i, t.HeldSince past i name call

variable {t}

theorem find?_left_iff (s : σ) (e : ε) (name : String) (call : α) :
    (t.left s e).find? name = some call ↔
      (t.waiting s).find? name = some call ∧ t.freed? s e ≠ some name := by
  unfold left
  cases hf : t.freed? s e with
  | none => simp
  | some other =>
    by_cases ho : other = name
    · subst ho
      simp [InFlight.find?_drop_self]
    · simp [InFlight.find?_drop_of_ne (Ne.symm ho), ho]

theorem find?_after_iff (s : σ) (e : ε) (name : String) (call : α) :
    (t.after s e).find? name = some call ↔
      t.held? s e = some (name, call)
        ∨ ((t.waiting s).find? name = some call ∧ t.Keeps name ⟨s, e⟩) := by
  unfold after Keeps
  cases hh : t.held? s e with
  | none => simp [find?_left_iff]
  | some kept =>
    obtain ⟨other, new⟩ := kept
    by_cases ho : other = name
    · subst ho
      simp [InFlight.find?_hold_self]
    · simp [InFlight.find?_hold_of_ne (Ne.symm ho), ho, find?_left_iff]

theorem heldSince_iff (ms : List (Moment σ ε)) (i : Nat) (name : String) (call : α) :
    t.HeldSince ms i name call ↔
      Since (fun m => t.held? m.state m.event = some (name, call)) (t.Keeps name) ms i :=
  ⟨fun h => ⟨h.held, h.kept⟩, fun h => ⟨h.1, h.2⟩⟩

/-- A further moment begins the wait of the call that it keeps, and ends the wait under the name
that it touches. -/
theorem heldSince_append_singleton_iff (past : List (Moment σ ε)) (m : Moment σ ε) (i : Nat)
    (name : String) (call : α) :
    t.HeldSince (past ++ [m]) i name call ↔
      (i = past.length ∧ t.held? m.state m.event = some (name, call))
        ∨ (t.HeldSince past i name call ∧ t.Keeps name m) := by
  have hsince := since_append_singleton_iff (fun n => t.held? n.state n.event = some (name, call))
    (t.Keeps name) past m i
  rwa [← heldSince_iff, ← heldSince_iff] at hsince

theorem tracks_nil {s : σ} (hs : ∀ name, (t.waiting s).find? name = none) : t.Tracks [] s := by
  intro name call
  rw [hs name]
  refine ⟨fun h => by simp at h, ?_⟩
  rintro ⟨i, h⟩
  exact absurd ((heldSince_iff _ _ _ _).mp h) (not_since_nil _ _ i)

theorem Tracks.next {past : List (Moment σ ε)} {s s' : σ} {e : ε} (h : t.Tracks past s)
    (hs : t.waiting s' = t.after s e) : t.Tracks (past ++ [⟨s, e⟩]) s' := by
  intro name call
  rw [hs, find?_after_iff, h name call]
  simp only [heldSince_append_singleton_iff, exists_or, exists_eq_left, exists_and_right]

theorem Tracks.take_append {past : List (Moment σ ε)} {s : σ} (h : t.Tracks past s)
    (later : List (Moment σ ε)) : t.Tracks ((past ++ later).take past.length) s := by
  rwa [List.take_left]

theorem Spans.le {ms : List (Moment σ ε)} {i j : Nat} (h : t.Spans ms i j) : i ≤ j := by
  cases h with
  | atOnce _ _ => exact Nat.le_refl i
  | waited hheld _ _ =>
    obtain ⟨m, hm, _⟩ := hheld.held
    exact Nat.le_of_lt (getElem?_of_take_eq_some hm).1

theorem Spans.lt_length {ms : List (Moment σ ε)} {i j : Nat} (h : t.Spans ms i j) :
    j < ms.length := by
  cases h with
  | atOnce hm _ => exact (List.getElem?_eq_some_iff.mp hm).1
  | waited _ hm _ => exact (List.getElem?_eq_some_iff.mp hm).1

theorem HeldSince.le_of_freed {ms : List (Moment σ ε)} {i j k : Nat} {name : String} {call : α}
    (h : t.HeldSince (ms.take k) i name call) (hij : i < j) {m : Moment σ ε} (hm : ms[j]? = some m)
    (hfreed : t.freed? m.state m.event = some name) : k ≤ j := by
  by_contra hlt
  have htake : (ms.take k)[j]? = some m := by
    rw [List.getElem?_take_of_lt (Nat.lt_of_not_le hlt), hm]
  exact (h.kept j m hij htake).2 hfreed

theorem HeldSince.held_eq {ms : List (Moment σ ε)} {i k : Nat} {name : String} {call : α}
    (h : t.HeldSince (ms.take k) i name call) {m : Moment σ ε} (hm : ms[i]? = some m) :
    i < k ∧ t.held? m.state m.event = some (name, call) := by
  obtain ⟨n, hn, hheld⟩ := h.held
  obtain ⟨hlt, hn⟩ := getElem?_of_take_eq_some hn
  rw [hm] at hn
  cases hn
  exact ⟨hlt, hheld⟩

theorem Spans.end_unique {ms : List (Moment σ ε)} {i j k : Nat} (hj : t.Spans ms i j)
    (hk : t.Spans ms i k) : j = k := by
  cases hj with
  | atOnce hm hnone =>
    cases hk with
    | atOnce _ _ => rfl
    | waited hheld _ _ =>
      rw [(hheld.held_eq hm).2] at hnone
      cases hnone
  | waited hheld hm hfreed =>
    cases hk with
    | atOnce hn hnone =>
      rw [(hheld.held_eq hn).2] at hnone
      cases hnone
    | waited hheld' hm' hfreed' =>
      obtain ⟨n, hn, hcall⟩ := hheld.held
      obtain ⟨hij, hn⟩ := getElem?_of_take_eq_some hn
      obtain ⟨hik, hcall'⟩ := hheld'.held_eq hn
      rw [hcall] at hcall'
      cases hcall'
      exact Nat.le_antisymm (hheld.le_of_freed hik hm' hfreed') (hheld'.le_of_freed hij hm hfreed)

theorem HeldSince.begin_unique {past : List (Moment σ ε)} {i i' : Nat} {name : String}
    {call call' : α} (h : t.HeldSince past i name call) (h' : t.HeldSince past i' name call') :
    i = i' := by
  obtain ⟨m, hm, hheld⟩ := h.held
  obtain ⟨m', hm', hheld'⟩ := h'.held
  rcases Nat.lt_trichotomy i i' with hlt | heq | hlt
  · exact absurd hheld' ((h.kept i' m' hlt hm').1 call')
  · exact heq
  · exact absurd hheld ((h'.kept i m hlt hm).1 call)

/-- One call ends at a moment, if what begins a call frees no name. -/
theorem Spans.begin_unique {ms : List (Moment σ ε)} {i i' j : Nat} (h : t.Spans ms i j)
    (h' : t.Spans ms i' j) (hi : ∀ m, ms[i]? = some m → t.freed? m.state m.event = none)
    (hi' : ∀ m, ms[i']? = some m → t.freed? m.state m.event = none) : i = i' := by
  cases h with
  | atOnce hm _ =>
    cases h' with
    | atOnce _ _ => rfl
    | waited _ hm' hfreed' =>
      rw [hi _ hm'] at hfreed'
      cases hfreed'
  | waited hheld hm hfreed =>
    cases h' with
    | atOnce _ _ =>
      rw [hi' _ hm] at hfreed
      cases hfreed
    | waited hheld' hm' hfreed' =>
      rw [hm] at hm'
      cases hm'
      rw [hfreed] at hfreed'
      cases hfreed'
      exact hheld.begin_unique hheld'

/-- Which call has ended at a moment does not depend on what happens later. -/
theorem spans_append_iff {ms : List (Moment σ ε)} {i j : Nat} (hj : j < ms.length)
    (later : List (Moment σ ε)) : t.Spans (ms ++ later) i j ↔ t.Spans ms i j := by
  have htake : (ms ++ later).take j = ms.take j :=
    List.take_append_of_le_length (Nat.le_of_lt hj)
  constructor
  · intro h
    cases h with
    | atOnce hn hheld =>
      rw [List.getElem?_append_left hj] at hn
      exact .atOnce hn hheld
    | waited hheld hn hfreed =>
      rw [htake] at hheld
      rw [List.getElem?_append_left hj] at hn
      exact .waited hheld hn hfreed
  · intro h
    cases h with
    | atOnce hn hheld => exact .atOnce (getElem?_append_of_eq_some hn later) hheld
    | waited hheld hn hfreed =>
      rw [← htake] at hheld
      exact .waited hheld (getElem?_append_of_eq_some hn later) hfreed

/-- The call that a moment frees the name of has waited since some earlier moment, and spans the
time from there. -/
theorem exists_spans_of_freed {ms : List (Moment σ ε)} {j : Nat} {m : Moment σ ε} {name : String}
    {call : α} (hm : ms[j]? = some m) (htracks : t.Tracks (ms.take j) m.state)
    (hfreed : t.freed? m.state m.event = some name)
    (hwaits : (t.waiting m.state).find? name = some call) :
    ∃ i n, ms[i]? = some n ∧ t.held? n.state n.event = some (name, call) ∧ t.Spans ms i j
      ∧ t.HeldSince (ms.take j) i name call := by
  obtain ⟨i, hsince⟩ := (htracks name call).mp hwaits
  obtain ⟨n, hn, hheld⟩ := hsince.held
  exact ⟨i, n, (getElem?_of_take_eq_some hn).2, hheld, .waited hsince hm hfreed, hsince⟩

end Traffic

end ScopeGate
