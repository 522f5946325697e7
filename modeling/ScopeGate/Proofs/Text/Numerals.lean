import Mathlib.Data.List.Induction
import ScopeGate.Proofs.FirstFailure
import ScopeGate.Proofs.Time.Numerals
import ScopeGate.Text.Numeral

/-!
# Numerals

A numeral within a bound is an optional plus sign and one or more ASCII digits whose number is not
beyond it: `readNumeral` reads these and gives the number, however many zeros stand in front. Of a
text that is none it names the first fault from the left. What stands before that fault is the
beginning of a numeral within the bound, so that a long number is refused at the digit that takes it
beyond, even if something behind is no digit.
-/

namespace ScopeGate.Text

structure FitDigits (bound : Nat) (ds : List Char) : Prop where
  isDigit : ∀ d ∈ ds, d.isDigit = true
  le : Nat.ofDigitChars 10 ds 0 ≤ bound

inductive IsNumeral (bound : Nat) : List Char → Nat → Prop where
  | plain {ds : List Char} (hne : ds ≠ []) (h : FitDigits bound ds) :
      IsNumeral bound ds (Nat.ofDigitChars 10 ds 0)
  | signed {ds : List Char} (hne : ds ≠ []) (h : FitDigits bound ds) :
      IsNumeral bound ('+' :: ds) (Nat.ofDigitChars 10 ds 0)

/-- How digits end before the text does: with something that is no digit, or with a digit that takes
their number beyond the bound. -/
inductive DigitsFault (bound : Nat) : List Char → NumeralFault → Prop where
  | notADigit {ds rest : List Char} {c : Char} (h : FitDigits bound ds) (hc : c.isDigit = false) :
      DigitsFault bound (ds ++ c :: rest) .notADigit
  | tooLarge {ds rest : List Char} {d : Char} (h : FitDigits bound ds) (hd : d.isDigit = true)
      (hlt : bound < Nat.ofDigitChars 10 (ds ++ [d]) 0) :
      DigitsFault bound (ds ++ d :: rest) .tooLarge

/-- The first fault of a text that is no numeral. A plus sign with nothing behind it is none. -/
inductive Misreads (bound : Nat) : List Char → NumeralFault → Prop where
  | empty : Misreads bound [] .empty
  | sign : Misreads bound ['+'] .notADigit
  | plain {cs : List Char} {f : NumeralFault} (hsign : cs.head? ≠ some '+')
      (h : DigitsFault bound cs f) : Misreads bound cs f
  | signed {cs : List Char} {f : NumeralFault} (h : DigitsFault bound cs f) :
      Misreads bound ('+' :: cs) f

variable {bound : Nat}

/-! ## Digits -/

theorem le_ofDigitChars (acc : Nat) (ds : List Char) : acc ≤ Nat.ofDigitChars 10 ds acc := by
  rw [Nat.ofDigitChars_eq_ofDigitChars_zero]
  have hle : acc ≤ 10 ^ ds.length * acc := Nat.le_mul_of_pos_left acc (Nat.pow_pos (by decide))
  exact Nat.le_add_right_of_le hle

/-- Digits are read as long as their number is not beyond the bound, which no shorter one is. -/
theorem readDigits_append {ds : List Char} (hdigits : ∀ d ∈ ds, d.isDigit = true) {acc : Nat}
    (hle : Nat.ofDigitChars 10 ds acc ≤ bound) (cs : List Char) :
    readDigits bound acc (ds ++ cs) = readDigits bound (Nat.ofDigitChars 10 ds acc) cs := by
  induction ds generalizing acc with
  | nil => rfl
  | cons d ds ih =>
    rw [List.forall_mem_cons] at hdigits
    have hd := digitValue?_eq_some_iff.mpr ⟨hdigits.1, rfl⟩
    rw [Nat.ofDigitChars_cons] at hle ⊢
    rw [List.cons_append, readDigits, hd]
    simp only
    rw [if_pos (Nat.le_trans (le_ofDigitChars _ ds) hle), ih hdigits.2 hle]

theorem FitDigits.readDigits_append {ds : List Char} (h : FitDigits bound ds) (cs : List Char) :
    readDigits bound 0 (ds ++ cs) = readDigits bound (Nat.ofDigitChars 10 ds 0) cs :=
  Text.readDigits_append h.isDigit h.le cs

theorem FitDigits.readDigits_eq {ds : List Char} (h : FitDigits bound ds) :
    readDigits bound 0 ds = .ok (Nat.ofDigitChars 10 ds 0) := by
  rw [← List.append_nil ds, h.readDigits_append, List.append_nil, readDigits]

theorem DigitsFault.readDigits_eq {cs : List Char} {f : NumeralFault}
    (h : DigitsFault bound cs f) : readDigits bound 0 cs = .error f := by
  cases h with
  | @notADigit ds rest c h hc =>
    have hnone : digitValue? c = none := by
      rw [Option.eq_none_iff_forall_ne_some]
      intro d hd
      rw [digitValue?_eq_some_iff, hc] at hd
      cases hd.1
    rw [h.readDigits_append, readDigits, hnone]
  | @tooLarge ds rest d h hd hlt =>
    rw [Nat.ofDigitChars_append, Nat.ofDigitChars_cons, Nat.ofDigitChars_nil] at hlt
    rw [h.readDigits_append, readDigits, digitValue?_eq_some_iff.mpr ⟨hd, rfl⟩]
    simp only
    rw [if_neg (Nat.not_le.mpr hlt)]

theorem DigitsFault.append {cs : List Char} {f : NumeralFault} (h : DigitsFault bound cs f)
    (more : List Char) : DigitsFault bound (cs ++ more) f := by
  cases h with
  | notADigit h hc =>
    rw [List.append_assoc, List.cons_append]
    exact .notADigit h hc
  | tooLarge h hd hlt =>
    rw [List.append_assoc, List.cons_append]
    exact .tooLarge h hd hlt

theorem fitDigits_or_digitsFault (bound : Nat) (cs : List Char) :
    FitDigits bound cs ∨ ∃ f, DigitsFault bound cs f := by
  -- From the right, so that a fault stays the first one whatever is added behind it.
  induction cs using List.reverseRecOn with
  | nil => exact .inl ⟨List.forall_mem_nil _, Nat.zero_le _⟩
  | append_singleton ds c ih =>
    rcases ih with h | ⟨f, h⟩
    · cases hc : c.isDigit with
      | false => exact .inr ⟨_, .notADigit h hc⟩
      | true =>
        rcases Nat.lt_or_ge bound (Nat.ofDigitChars 10 (ds ++ [c]) 0) with hlt | hle
        · exact .inr ⟨_, .tooLarge h hc hlt⟩
        · have hdigits : ∀ d ∈ ds ++ [c], d.isDigit = true := by
            rw [List.forall_mem_append]
            exact ⟨h.isDigit, List.forall_mem_singleton.mpr hc⟩
          exact .inl ⟨hdigits, hle⟩
    · exact .inr ⟨f, h.append [c]⟩

/-! ## Signs -/

theorem readNumeral_of_unsigned {cs : List Char} (hne : cs ≠ []) (hsign : cs.head? ≠ some '+') :
    readNumeral bound cs = readDigits bound 0 cs := by
  unfold readNumeral
  split
  · exact absurd rfl hne
  · exact absurd rfl hsign
  · rfl

theorem readNumeral_of_signed {cs : List Char} (hne : cs ≠ []) :
    readNumeral bound ('+' :: cs) = readDigits bound 0 cs := by
  obtain ⟨c, cs, rfl⟩ := List.exists_cons_of_ne_nil hne
  rfl

theorem FitDigits.head?_ne {ds : List Char} (h : FitDigits bound ds) : ds.head? ≠ some '+' := by
  intro hsign
  exact absurd (h.isDigit _ (List.mem_of_mem_head? hsign)) (by decide)

theorem DigitsFault.ne_nil {cs : List Char} {f : NumeralFault} (h : DigitsFault bound cs f) :
    cs ≠ [] := by
  cases h <;> simp

theorem IsNumeral.readNumeral_eq {cs : List Char} {n : Nat} (h : IsNumeral bound cs n) :
    readNumeral bound cs = .ok n := by
  cases h with
  | plain hne h => rw [readNumeral_of_unsigned hne h.head?_ne, h.readDigits_eq]
  | signed hne h => rw [readNumeral_of_signed hne, h.readDigits_eq]

theorem Misreads.readNumeral_eq {cs : List Char} {f : NumeralFault} (h : Misreads bound cs f) :
    readNumeral bound cs = .error f := by
  cases h with
  | empty => rfl
  | sign => rfl
  | plain hsign h => rw [readNumeral_of_unsigned h.ne_nil hsign, h.readDigits_eq]
  | signed h => rw [readNumeral_of_signed h.ne_nil, h.readDigits_eq]

theorem isNumeral_or_misreads (bound : Nat) (cs : List Char) :
    (∃ n, IsNumeral bound cs n) ∨ ∃ f, Misreads bound cs f := by
  by_cases hne : cs = []
  · subst hne
    exact .inr ⟨_, .empty⟩
  by_cases hsign : cs.head? = some '+'
  · obtain ⟨ds, rfl⟩ := List.head?_eq_some_iff.mp hsign
    by_cases hds : ds = []
    · subst hds
      exact .inr ⟨_, .sign⟩
    rcases fitDigits_or_digitsFault bound ds with h | ⟨f, h⟩
    · exact .inl ⟨_, .signed hds h⟩
    · exact .inr ⟨f, .signed h⟩
  · rcases fitDigits_or_digitsFault bound cs with h | ⟨f, h⟩
    · exact .inl ⟨_, .plain hne h⟩
    · exact .inr ⟨f, .plain hsign h⟩

theorem readNumeral_eq_ok_iff (cs : List Char) (n : Nat) :
    readNumeral bound cs = .ok n ↔ IsNumeral bound cs n :=
  (outcome_iff IsNumeral.readNumeral_eq Misreads.readNumeral_eq (isNumeral_or_misreads _ _)).1 n

theorem readNumeral_eq_error_iff (cs : List Char) (f : NumeralFault) :
    readNumeral bound cs = .error f ↔ Misreads bound cs f :=
  (outcome_iff IsNumeral.readNumeral_eq Misreads.readNumeral_eq (isNumeral_or_misreads _ _)).2 f

end ScopeGate.Text
