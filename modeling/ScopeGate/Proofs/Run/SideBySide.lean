import Mathlib.Data.List.Forall2
import ScopeGate.Proofs.Run.Calls

/-!
# Two runs side by side

Two runs of equally many events are compared moment by moment. What relates the states at the start
and is kept by events that belong together relates them at all moments (`forall₂_moments`).

The calls that wait in the two runs are `Related` if they wait under the same names and any two
under one name belong together. Where events hold and free the same names in both runs, the calls
last equally long (`Traffic.spans_iff`), whatever else is known of them.
-/

namespace ScopeGate

theorem getElem?_of_forall₂ {α β : Type} {R : α → β → Prop} {xs : List α} {ys : List β}
    (h : List.Forall₂ R xs ys) {i : Nat} {x : α} (hx : xs[i]? = some x) :
    ∃ y, ys[i]? = some y ∧ R x y := by
  induction h generalizing i with
  | nil => simp at hx
  | cons hR _ ih =>
    cases i with
    | zero =>
      rw [List.getElem?_cons_zero, Option.some.injEq] at hx
      subst hx
      exact ⟨_, List.getElem?_cons_zero, hR⟩
    | succ i =>
      rw [List.getElem?_cons_succ] at hx
      obtain ⟨y, hy, hR⟩ := ih hx
      exact ⟨y, by rw [List.getElem?_cons_succ, hy], hR⟩

/-- What two lists of equal length come to is the same but for what one of their elements comes to.
-/
theorem exists_flatMap_eq_of_agree {α β : Type} {f : α → List β} {xs ys : List α} {k : Nat}
    {x y : α} (hx : xs[k]? = some x) (hy : ys[k]? = some y)
    (h : ∀ j, j ≠ k → (ys.map f)[j]? = (xs.map f)[j]?) :
    ∃ before after,
      xs.flatMap f = before ++ f x ++ after ∧ ys.flatMap f = before ++ f y ++ after := by
  have hbefore : (ys.take k).map f = (xs.take k).map f := by
    refine List.ext_getElem? fun j => ?_
    rcases Nat.lt_or_ge j k with hj | hj
    · rw [List.map_take, List.map_take, List.getElem?_take_of_lt hj, List.getElem?_take_of_lt hj,
        h j (Nat.ne_of_lt hj)]
    · rw [List.map_take, List.map_take, List.getElem?_take_eq_none hj,
        List.getElem?_take_eq_none hj]
  have hafter : (ys.drop (k + 1)).map f = (xs.drop (k + 1)).map f := by
    refine List.ext_getElem? fun j => ?_
    rw [List.map_drop, List.map_drop, List.getElem?_drop, List.getElem?_drop, h _ (by omega)]
  refine ⟨(xs.take k).flatMap f, (xs.drop (k + 1)).flatMap f, ?_, ?_⟩
  · conv_lhs => rw [← take_append_cons hx]
    rw [List.flatMap_append, List.flatMap_append, List.flatMap_singleton]
  · conv_lhs => rw [← take_append_cons hy]
    rw [List.flatMap_append, List.flatMap_append, List.flatMap_singleton, List.flatMap_def,
      List.flatMap_def, hbefore, hafter, ← List.flatMap_def, ← List.flatMap_def]

/-- What relates the states at the start and is kept by events that belong together relates the
states at all moments. -/
theorem forall₂_moments {σ σ' ε ε' : Type} {step : σ → ε → σ} {step' : σ' → ε' → σ'}
    {R : σ → σ' → Prop} {E : ε → ε' → Prop}
    (next : ∀ t t' e e', R t t' → E e e' → R (step t e) (step' t' e')) {s : σ} {s' : σ'}
    (start : R s s') {es : List ε} {es' : List ε'} (hes : List.Forall₂ E es es') :
    List.Forall₂ (fun m m' => R m.state m'.state ∧ E m.event m'.event) (moments step s es)
      (moments step' s' es') := by
  induction hes generalizing s s' with
  | nil => exact .nil
  | cons hE _ ih => exact .cons ⟨start, hE⟩ (ih (next _ _ _ _ start hE))

/-! ## Calls that wait -/

namespace InFlight

variable {α β : Type}

def Related (R : String → α → β → Prop) (f : InFlight α) (g : InFlight β) : Prop :=
  List.Forall₂ (fun c d => d.1 = c.1 ∧ R c.1 c.2 d.2) f.calls g.calls

namespace Related

variable {R : String → α → β → Prop} {f : InFlight α} {g : InFlight β}

theorem find? (h : Related R f g) (name : String) :
    (f.find? name = none ∧ g.find? name = none)
      ∨ ∃ x y, f.find? name = some x ∧ g.find? name = some y ∧ R name x y := by
  obtain ⟨calls⟩ := f
  obtain ⟨calls'⟩ := g
  simp only [Related] at h
  simp only [InFlight.find?]
  induction h with
  | nil => exact .inl ⟨rfl, rfl⟩
  | @cons c d _ _ hcd _ ih =>
    obtain ⟨hname, hR⟩ := hcd
    by_cases hc : c.1 = name
    · subst hc
      right
      exact ⟨c.2, d.2, by simp, by simp [hname], hR⟩
    · have hd : d.1 ≠ name := fun hd => hc (hname.symm.trans hd)
      simpa only [List.find?_cons, hc, hd, decide_false] using ih

theorem exists_of_find? (h : Related R f g) {name : String} {x : α} (hx : f.find? name = some x) :
    ∃ y, g.find? name = some y ∧ R name x y := by
  rcases h.find? name with ⟨hnone, -⟩ | ⟨x', y, hx', hy, hR⟩
  · rw [hx] at hnone
    cases hnone
  · rw [hx] at hx'
    cases hx'
    exact ⟨y, hy, hR⟩

theorem find?_eq_none_iff (h : Related R f g) (name : String) :
    f.find? name = none ↔ g.find? name = none := by
  rcases h.find? name with ⟨hf, hg⟩ | ⟨x, y, hf, hg, -⟩
  · simp only [hf, hg]
  · simp only [hf, hg, reduceCtorEq]

theorem drop (h : Related R f g) (name : String) : Related R (f.drop name) (g.drop name) := by
  obtain ⟨calls⟩ := f
  obtain ⟨calls'⟩ := g
  simp only [Related] at h
  simp only [Related, InFlight.drop]
  induction h with
  | nil => exact .nil
  | @cons c d _ _ hcd _ ih =>
    obtain ⟨hname, hR⟩ := hcd
    by_cases hc : c.1 = name
    · have hd : d.1 = name := hname.trans hc
      simpa [List.filter_cons, hc, hd] using ih
    · have hd : d.1 ≠ name := fun hd => hc (hname.symm.trans hd)
      simpa [List.filter_cons, hc, hd] using List.Forall₂.cons ⟨hname, hR⟩ ih

theorem hold (h : Related R f g) {name : String} {x : α} {y : β} (hR : R name x y) :
    Related R (f.hold name x) (g.hold name y) :=
  .cons ⟨rfl, hR⟩ (h.drop name)

end Related

end InFlight

/-! ## Calls over time -/

namespace Traffic

variable {σ ε α : Type} {t : Traffic σ ε α} {ms ms' : List (Moment σ ε)}

structure SameNames (t : Traffic σ ε α) (m m' : Moment σ ε) : Prop where
  held : (t.held? m'.state m'.event).map Prod.fst = (t.held? m.state m.event).map Prod.fst
  freed : t.freed? m'.state m'.event = t.freed? m.state m.event

theorem SameNames.symm {m m' : Moment σ ε} (h : t.SameNames m m') : t.SameNames m' m :=
  ⟨h.held.symm, h.freed.symm⟩

theorem SameNames.exists_held {m m' : Moment σ ε} (h : t.SameNames m m') {name : String} {call : α}
    (hheld : t.held? m.state m.event = some (name, call)) :
    ∃ call', t.held? m'.state m'.event = some (name, call') := by
  have hname := h.held
  rw [hheld, Option.map_some] at hname
  obtain ⟨⟨name', call'⟩, hheld', rfl⟩ := Option.map_eq_some_iff.mp hname
  exact ⟨call', hheld'⟩

theorem SameNames.keeps {m m' : Moment σ ε} (h : t.SameNames m m') {name : String}
    (hkeeps : t.Keeps name m) : t.Keeps name m' := by
  obtain ⟨hheld, hfreed⟩ := hkeeps
  refine ⟨?_, by rwa [h.freed]⟩
  intro call' hheld'
  obtain ⟨call, hcall⟩ := h.symm.exists_held hheld'
  exact hheld call hcall

theorem Spans.of_sameNames (h : List.Forall₂ t.SameNames ms ms') {i j : Nat}
    (hspans : t.Spans ms i j) : t.Spans ms' i j := by
  cases hspans with
  | atOnce hm hheld =>
    obtain ⟨m', hm', hsame⟩ := getElem?_of_forall₂ h hm
    have hnone := hsame.held
    rw [hheld, Option.map_none, Option.map_eq_none_iff] at hnone
    exact .atOnce hm' hnone
  | waited hheld hm hfreed =>
    obtain ⟨m', hm', hsame⟩ := getElem?_of_forall₂ h hm
    have htake := List.forall₂_take j h
    obtain ⟨n, hn, hcall⟩ := hheld.held
    obtain ⟨n', hn', hsame'⟩ := getElem?_of_forall₂ htake hn
    obtain ⟨call', hcall'⟩ := hsame'.exists_held hcall
    refine .waited ⟨⟨n', hn', hcall'⟩, ?_⟩ hm' (hsame.freed.trans hfreed)
    intro k p' hk hp'
    obtain ⟨p, hp, hsame''⟩ := getElem?_of_forall₂ htake.flip hp'
    exact SameNames.keeps hsame'' (hheld.kept k p hk hp)

theorem spans_iff (h : List.Forall₂ t.SameNames ms ms') (i j : Nat) :
    t.Spans ms i j ↔ t.Spans ms' i j := by
  refine ⟨.of_sameNames h, .of_sameNames ?_⟩
  exact h.flip.imp fun _ _ hsame => SameNames.symm hsame

end Traffic

end ScopeGate
