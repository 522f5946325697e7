import ScopeGate.Proofs.Json.Strings

/-!
# Documents read back

The compact form of a value is read back as this value. Numbers are left out here: a number with a
fraction is kept by its spelling, of which not every sequence of octets is one. The reader stops
where the written value ends, whatever comes after it, and takes no more steps into one another than
the written value has octets.
-/

namespace ScopeGate.Json

namespace Value

inductive Numberless : Value → Prop
  | null : Numberless .null
  | bool (b : Bool) : Numberless (.bool b)
  | string (s : Option String) : Numberless (.string s)
  | array {items : List Value} (h : ∀ v ∈ items, Numberless v) : Numberless (.array items)
  | object {members : List (Option String × Value)} (h : ∀ m ∈ members, Numberless m.2) :
    Numberless (.object members)

def ReadsBack (v : Value) : Prop :=
  ∀ (fuel : Nat) (rest : Octets), v.render.length ≤ fuel →
    readValue fuel (v.render ++ rest) = some (v, rest)

end Value

open Value

theorem skipGaps_cons {b : UInt8} (h : isGap b = false) (rest : Octets) :
    skipGaps (b :: rest) = b :: rest := by
  simp [skipGaps, h]

theorem readKey_renderString (k : Option String) (rest : Octets) :
    readKey (renderString k ++ ascii ':' :: rest) = some (k, rest) := by
  obtain ⟨os, ps, hwritten, hscan, htext⟩ := scanString_renderString k (ascii ':' :: rest)
  have hquote : isGap (ascii '"') = false := by decide
  have hcolon : isGap (ascii ':') = false := by decide
  rw [hwritten, readKey, skipGaps_cons hquote]
  simp only [if_pos, hscan, skipGaps_cons hcolon, htext]

/-- A written value starts with a sign that is neither a blank nor closes an array. -/
theorem Value.Numberless.exists_render_eq {v : Value} (h : v.Numberless) :
    ∃ c cs, v.render = c :: cs ∧ isGap c = false ∧ c ≠ ascii ']' := by
  cases h with
  | null => exact ⟨_, _, rfl, by decide, by decide⟩
  | bool b => cases b <;> exact ⟨_, _, rfl, by decide, by decide⟩
  | string s =>
    cases s <;> exact ⟨_, _, rfl, by decide, by decide⟩
  | array => exact ⟨_, _, by rw [render], by decide, by decide⟩
  | object => exact ⟨_, _, by rw [render], by decide, by decide⟩

theorem exists_renderItems_eq {v : Value} {vs : List Value} (h : ∀ x ∈ v :: vs, x.Numberless) :
    ∃ c cs, renderItems (v :: vs) = c :: cs ∧ isGap c = false ∧ c ≠ ascii ']' := by
  obtain ⟨c, cs, hwritten, hsign⟩ := (h v (by simp)).exists_render_eq
  cases vs with
  | nil => exact ⟨c, _, by rw [renderItems, hwritten, List.cons_append], hsign⟩
  | cons w ws =>
    exact ⟨c, _, by rw [renderItems, hwritten, List.cons_append]; simp, hsign⟩

theorem exists_renderMembers_eq (m : Option String × Value) (ms : List (Option String × Value)) :
    ∃ cs, renderMembers (m :: ms) = ascii '"' :: cs := by
  obtain ⟨k, v⟩ := m
  obtain ⟨ks, hks⟩ : ∃ ks, renderString k = ascii '"' :: ks := by cases k <;> exact ⟨_, rfl⟩
  cases ms with
  | nil => exact ⟨_, by rw [renderMembers, hks, List.cons_append, List.cons_append]⟩
  | cons n ns => exact ⟨_, by rw [renderMembers, hks, List.cons_append, List.cons_append]; simp⟩

theorem readsBack_null : ReadsBack .null := by
  intro fuel rest hfuel
  cases fuel with
  | zero => cases hfuel
  | succ fuel => rfl

theorem readsBack_bool (b : Bool) : ReadsBack (.bool b) := by
  intro fuel rest hfuel
  cases fuel with
  | zero => cases b <;> cases hfuel
  | succ fuel => cases b <;> rfl

theorem readsBack_string (s : Option String) : ReadsBack (.string s) := by
  intro fuel rest hfuel
  obtain ⟨os, ps, hwritten, hscan, htext⟩ := scanString_renderString s rest
  have hquote : isGap (ascii '"') = false := by decide
  cases fuel with
  | zero => cases s <;> cases hfuel
  | succ fuel =>
    rw [render, hwritten, readValue, skipGaps_cons hquote]
    simp only [if_pos, hscan, Option.map_some, htext]

theorem readItems_renderItems {items : List Value} (hne : items ≠ [])
    (h : ∀ v ∈ items, ReadsBack v) (fuel : Nat) (rest : Octets)
    (hfuel : (renderItems items).length ≤ fuel) :
    readItems fuel (renderItems items ++ rest) = some (items, rest) := by
  have hcomma : isGap (ascii ',') = false := by decide
  have hclose : isGap (ascii ']') = false := by decide
  have hother : ascii ',' ≠ ascii ']' := by decide
  induction items generalizing fuel with
  | nil => exact absurd rfl hne
  | cons v vs ih =>
    cases fuel with
    | zero => cases vs <;> simp [renderItems] at hfuel
    | succ fuel =>
      cases vs with
      | nil =>
        simp only [renderItems, List.length_append, List.length_singleton] at hfuel
        have hv := h v (by simp) fuel (ascii ']' :: rest) (by omega)
        rw [renderItems, List.append_assoc, List.singleton_append, readItems, hv]
        simp only [skipGaps_cons hclose, if_pos]
      | cons w ws =>
        simp only [renderItems, List.length_append, List.length_cons] at hfuel
        have hv := h v (by simp) fuel (ascii ',' :: (renderItems (w :: ws) ++ rest)) (by omega)
        have hws := ih (by simp) (fun x hx => h x (by simp [hx])) fuel (by omega)
        rw [renderItems, List.append_assoc, List.cons_append, readItems, hv]
        · simp only [skipGaps_cons hcomma, if_neg hother, if_pos, hws, Option.map_some]
        · simp

theorem readMembers_renderMembers {members : List (Option String × Value)} (hne : members ≠ [])
    (h : ∀ m ∈ members, ReadsBack m.2) (fuel : Nat) (rest : Octets)
    (hfuel : (renderMembers members).length ≤ fuel) :
    readMembers fuel (renderMembers members ++ rest) = some (members, rest) := by
  have hcomma : isGap (ascii ',') = false := by decide
  have hclose : isGap (ascii '\x7d') = false := by decide
  have hother : ascii ',' ≠ ascii '\x7d' := by decide
  induction members generalizing fuel with
  | nil => exact absurd rfl hne
  | cons m ms ih =>
    obtain ⟨k, v⟩ := m
    cases fuel with
    | zero => cases ms <;> simp [renderMembers] at hfuel
    | succ fuel =>
      cases ms with
      | nil =>
        simp only [renderMembers, List.length_append, List.length_cons, List.length_nil] at hfuel
        have hv := h (k, v) (by simp) fuel (ascii '\x7d' :: rest) (by simp only; omega)
        rw [renderMembers, List.append_assoc, List.append_assoc, List.cons_append, readMembers,
          readKey_renderString]
        simp only [List.singleton_append, hv, skipGaps_cons hclose, if_pos]
      | cons n ns =>
        simp only [renderMembers, List.length_append, List.length_cons] at hfuel
        have hv := h (k, v) (by simp) fuel (ascii ',' :: (renderMembers (n :: ns) ++ rest))
          (by simp only; omega)
        have hns := ih (by simp) (fun x hx => h x (by simp [hx])) fuel (by omega)
        rw [renderMembers, List.append_assoc, List.append_assoc, List.cons_append, readMembers,
          readKey_renderString]
        · simp only [List.cons_append, hv, skipGaps_cons hcomma, if_neg hother, if_pos, hns,
            Option.map_some]
        · simp

theorem readsBack_array {items : List Value} (h : ∀ v ∈ items, v.Numberless)
    (hback : ∀ v ∈ items, ReadsBack v) : ReadsBack (.array items) := by
  intro fuel rest hfuel
  have hopen : isGap (ascii '[') = false := by decide
  have hother : ascii '[' ≠ ascii '"' := by decide
  rw [render, List.length_cons] at hfuel
  cases fuel with
  | zero => cases hfuel
  | succ fuel =>
    rw [render, List.cons_append, readValue, skipGaps_cons hopen]
    cases items with
    | nil => rfl
    | cons v vs =>
      obtain ⟨c, cs, hwritten, hgap, hclose⟩ := exists_renderItems_eq h
      have hitems := readItems_renderItems (by simp) hback fuel rest (by omega)
      rw [hwritten, List.cons_append] at hitems ⊢
      simp only [if_neg hother, if_pos, skipGaps_cons hgap, if_neg hclose, hitems, Option.map_some]

theorem readsBack_object {members : List (Option String × Value)}
    (hback : ∀ m ∈ members, ReadsBack m.2) : ReadsBack (.object members) := by
  intro fuel rest hfuel
  have hopen : isGap (ascii '\x7b') = false := by decide
  have hquote : isGap (ascii '"') = false := by decide
  have hother : ascii '\x7b' ≠ ascii '"' ∧ ascii '\x7b' ≠ ascii '[' := by decide
  have hclose : ascii '"' ≠ ascii '\x7d' := by decide
  rw [render, List.length_cons] at hfuel
  cases fuel with
  | zero => cases hfuel
  | succ fuel =>
    rw [render, List.cons_append, readValue, skipGaps_cons hopen]
    cases members with
    | nil => rfl
    | cons m ms =>
      obtain ⟨cs, hwritten⟩ := exists_renderMembers_eq m ms
      have hmembers := readMembers_renderMembers (by simp) hback fuel rest (by omega)
      rw [hwritten, List.cons_append] at hmembers ⊢
      simp only [if_neg hother.1, if_neg hother.2, if_pos, skipGaps_cons hquote, if_neg hclose,
        hmembers, Option.map_some]

/-- A value without numbers is read back from its compact form. -/
theorem Value.Numberless.readsBack {v : Value} (h : v.Numberless) : ReadsBack v := by
  induction h with
  | null => exact readsBack_null
  | bool b => exact readsBack_bool b
  | string s => exact readsBack_string s
  | array h ih => exact readsBack_array h ih
  | object h ih => exact readsBack_object ih

theorem Value.Numberless.parse?_render {v : Value} (h : v.Numberless) :
    parse? v.render = some v := by
  have hread := h.readsBack (2 * v.render.length + 2) [] (by omega)
  rw [List.append_nil] at hread
  rw [parse?, hread]
  rfl

end ScopeGate.Json
