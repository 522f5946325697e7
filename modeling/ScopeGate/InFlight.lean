/-!
# Calls in flight

A call that waits for a remote answer is a value: what it has found out so far and what it is about
to do. The calls that wait are kept under names of the caller's choice, at most one under each.
-/

namespace ScopeGate

structure InFlight (α : Type) where
  calls : List (String × α) := []
  deriving DecidableEq, Repr

namespace InFlight

variable {α : Type}

def find? (name : String) (f : InFlight α) : Option α :=
  (f.calls.find? fun c => c.1 = name).map Prod.snd

def drop (name : String) (f : InFlight α) : InFlight α :=
  ⟨f.calls.filter fun c => !(c.1 = name)⟩

def hold (name : String) (call : α) (f : InFlight α) : InFlight α :=
  ⟨(name, call) :: (f.drop name).calls⟩

theorem find?_hold_self (name : String) (call : α) (f : InFlight α) :
    (f.hold name call).find? name = some call := by
  simp [hold, find?]

theorem find?_drop_self (name : String) (f : InFlight α) : (f.drop name).find? name = none := by
  simp [drop, find?]

theorem find?_drop_of_ne {name other : String} (h : other ≠ name) (f : InFlight α) :
    (f.drop name).find? other = f.find? other := by
  obtain ⟨calls⟩ := f
  induction calls with
  | nil => rfl
  | cons c rest ih =>
    simp only [drop, find?] at ih ⊢
    by_cases hc : c.1 = name
    · simpa [hc, Ne.symm h] using ih
    · by_cases ho : c.1 = other
      · simp [ho, h]
      · simpa [hc, ho] using ih

theorem find?_hold_of_ne {name other : String} (h : other ≠ name) (call : α) (f : InFlight α) :
    (f.hold name call).find? other = f.find? other := by
  have hd := find?_drop_of_ne h f
  simp only [hold, find?] at hd ⊢
  simpa [Ne.symm h] using hd

end InFlight

end ScopeGate
