import Mathlib.Algebra.Group.Nat.Defs
import ScopeGate.Time.Timestamp

/-!
# Numbers in a timestamp

A number written with `padded` is read back by `readNumber`, which is told how many digits to take
at most: either it takes that many, or what follows is no digit. A number of at most `k` digits is
below ten to the power of `k`, on either side.
-/

namespace ScopeGate

open Text

namespace Text

theorem digitValue?_eq_some_iff {c : Char} {d : Nat} :
    digitValue? c = some d ↔ c.isDigit = true ∧ d = c.toNat - '0'.toNat := by
  have hdigit : c.isDigit = true ↔ '0' ≤ c ∧ c ≤ '9' := by
    simp [Char.isDigit, Char.le_def]
  rw [digitValue?, hdigit]
  grind

theorem not_isBlank_of_isDigit {c : Char} (h : c.isDigit = true) : isBlank c = false := by
  rw [Char.isDigit_iff_toNat] at h
  have h0 : '0'.toNat = 48 := rfl
  have h9 : '9'.toNat = 57 := rfl
  simp [isBlank, inRanges, blankRanges]
  omega

theorem isDigit_of_mem_padded {width n : Nat} {c : Char} (h : c ∈ padded width n) :
    c.isDigit = true := by
  rw [padded, List.mem_append] at h
  rcases h with hzero | hdigit
  · rw [List.eq_of_mem_replicate hzero]
    rfl
  · exact Nat.isDigit_of_mem_toDigits (by omega) (by omega) hdigit

@[simp] theorem ofDigitChars_padded (width n : Nat) :
    Nat.ofDigitChars 10 (padded width n) 0 = n := by
  rw [padded, Nat.ofDigitChars_append, Nat.ofDigitChars_replicate_zero, Nat.mul_zero, digits,
    Nat.ofDigitChars_ten_toDigits]

theorem padded_ne_nil (width n : Nat) : padded width n ≠ [] := by
  simp [padded, digits, Nat.toDigits_ne_nil]

theorem length_padded {width n : Nat} (hwidth : 0 < width) (h : n < 10 ^ width) :
    (padded width n).length = width := by
  have hle : (digits n).length ≤ width := (Nat.length_toDigits_le_iff (by omega) hwidth).mpr h
  simp only [padded, List.length_append, List.length_replicate]
  omega

theorem exists_padded_append_eq (width n : Nat) (cs : List Char) :
    ∃ d ds, d.isDigit = true ∧ padded width n ++ cs = d :: ds := by
  obtain ⟨d, ds, hds⟩ := List.exists_cons_of_ne_nil (padded_ne_nil width n)
  exact ⟨d, ds ++ cs, isDigit_of_mem_padded (n := n) (by rw [hds]; simp), by rw [hds]; rfl⟩

@[simp] theorem trimLeft_padded_append (width n : Nat) (cs : List Char) :
    trimLeft (padded width n ++ cs) = padded width n ++ cs := by
  obtain ⟨d, ds, hdigit, hds⟩ := exists_padded_append_eq width n cs
  simp [hds, trimLeft, not_isBlank_of_isDigit hdigit]

end Text

namespace Instant

def EndsNumber (cs : List Char) : Prop := ∀ c ∈ cs.head?, digitValue? c = none

@[simp] theorem endsNumber_cons (c : Char) (cs : List Char) :
    EndsNumber (c :: cs) ↔ digitValue? c = none := by
  simp [EndsNumber]

theorem moreDigits_append {most acc count : Nat} {ds cs : List Char}
    (hdigits : ∀ d ∈ ds, d.isDigit = true) (hmost : ds.length ≤ most)
    (hend : ds.length = most ∨ EndsNumber cs) :
    moreDigits most acc count (ds ++ cs) = (Nat.ofDigitChars 10 ds acc, count + ds.length, cs) := by
  induction ds generalizing most acc count with
  | nil =>
    cases most with
    | zero => rfl
    | succ most =>
      cases cs with
      | nil => rfl
      | cons c cs =>
        have hstop : digitValue? c = none := by simpa using hend
        simp [moreDigits, hstop]
  | cons d ds ih =>
    cases most with
    | zero => simp at hmost
    | succ most =>
      have hd := digitValue?_eq_some_iff.mpr ⟨hdigits d (by simp), rfl⟩
      rw [List.cons_append, moreDigits, hd, Nat.ofDigitChars_cons]
      simp only
      rw [ih (fun x hx => hdigits x (by simp [hx])) (by simpa using hmost) (by simpa using hend)]
      simp [Nat.add_assoc, Nat.add_comm 1]

theorem readNumber_padded {most width n : Nat} {cs : List Char}
    (hmost : (padded width n).length ≤ most)
    (hend : (padded width n).length = most ∨ EndsNumber cs) :
    readNumber most (padded width n ++ cs) = some (n, (padded width n).length, cs) := by
  have hlen : (padded width n).length ≠ 0 := by simp [padded_ne_nil]
  rw [readNumber, moreDigits_append (fun d hd => isDigit_of_mem_padded hd) hmost hend,
    ofDigitChars_padded, Nat.zero_add]
  split
  · simp_all
  · rfl

theorem lt_ten_of_digitValue? {c : Char} {d : Nat} (h : digitValue? c = some d) : d < 10 := by
  obtain ⟨hdigit, hd⟩ := digitValue?_eq_some_iff.mp h
  have hnine : c.toNat ≤ '9'.toNat := (Char.isDigit_iff_toNat.mp hdigit).2
  rw [hd]
  exact Nat.sub_lt_left_of_lt_add (Char.isDigit_iff_toNat.mp hdigit).1 (Nat.lt_succ_of_le hnine)

theorem moreDigits_lt {most acc count n k : Nat} {cs rest : List Char} (hacc : acc < 10 ^ count)
    (h : moreDigits most acc count cs = (n, k, rest)) : k ≤ count + most ∧ n < 10 ^ k := by
  induction most, acc, count, cs using moreDigits.induct with
  | case3 most acc count c cs d hc ih =>
    have hd := lt_ten_of_digitValue? hc
    have hstep : 10 * acc + d < 10 ^ (count + 1) := by
      rw [Nat.pow_succ]
      omega
    simp only [moreDigits, hc] at h
    obtain ⟨hk, hn⟩ := ih hstep h
    exact ⟨by omega, hn⟩
  | case4 most acc count c cs hc =>
    simp only [moreDigits, hc] at h
    cases h
    exact ⟨by omega, hacc⟩
  | _ =>
    cases h
    exact ⟨by omega, hacc⟩

theorem readNumber_lt {most n k : Nat} {cs rest : List Char}
    (h : readNumber most cs = some (n, k, rest)) : k ≤ most ∧ n < 10 ^ k := by
  simp only [readNumber] at h
  split at h
  · cases h
  · have hread := moreDigits_lt (by decide) (Option.some.inj h)
    exact ⟨by omega, hread.2⟩

end Instant

end ScopeGate
