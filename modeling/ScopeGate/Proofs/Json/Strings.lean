import ScopeGate.Json.Parser

/-!
# Strings of a document read back

Each octet of a string is written by itself or as an escape, and read back as one piece that spells
the octet. So the pieces that `scanString` finds in a written string spell the octets of its text.
-/

namespace ScopeGate.Json

theorem unit?_hexDigit : ∀ n < 0x20,
    unit? (ascii '0') (ascii '0') (hexDigit (n / 16)) (hexDigit (n % 16)) = some n := by
  decide

theorem ofChar_ofNat_control : ∀ n < 0x20, Octets.ofChar (Char.ofNat n) = [n.toUInt8] := by
  decide

/-- An octet of a string is written as a letter after a backslash, by its number, or by itself. -/
theorem escape_cases (b : UInt8) :
    (∃ e, escape b = [ascii '\\', e] ∧ letterEscape? e = some b)
      ∨ (b < 0x20 ∧ escape b
          = asciis "\\u00" ++ [hexDigit (b.toNat / 16), hexDigit (b.toNat % 16)])
      ∨ (escape b = [b] ∧ b ≠ ascii '"' ∧ b ≠ ascii '\\' ∧ ¬ b < 0x20) := by
  rw [escape]
  iterate 7
    split
    · subst b
      exact .inl ⟨_, rfl, rfl⟩
  split
  · exact .inr (.inl ⟨‹_›, rfl⟩)
  · exact .inr (.inr ⟨rfl, ‹_›, ‹_›, ‹_›⟩)

section Scan

variable (rest : Octets)

theorem scanString_quote : scanString (ascii '"' :: rest) = some ([], rest) := by
  rw [scanString.eq_def]
  rfl

theorem scanString_plain {b : UInt8} (hquote : b ≠ ascii '"') (hbackslash : b ≠ ascii '\\')
    (hcontrol : ¬ b < 0x20) :
    scanString (b :: rest) = (scanString rest).map fun (ps, r) => (.octet b :: ps, r) := by
  rw [scanString.eq_def]
  simp only [if_neg hquote, if_neg hbackslash, if_neg hcontrol]

theorem scanString_letter {e b : UInt8} (h : letterEscape? e = some b) :
    scanString (ascii '\\' :: e :: rest)
      = (scanString rest).map fun (ps, r) => (.octet b :: ps, r) := by
  have hquote : ascii '\\' ≠ ascii '"' := by decide
  have hcontrol : ¬ ascii '\\' < 0x20 := by decide
  rw [scanString.eq_def]
  simp only [if_neg hquote, if_neg hcontrol, if_pos, h]

theorem scanString_unit {h₁ h₂ h₃ h₄ : UInt8} {n : Nat} (h : unit? h₁ h₂ h₃ h₄ = some n) :
    scanString (ascii '\\' :: ascii 'u' :: h₁ :: h₂ :: h₃ :: h₄ :: rest)
      = (scanString rest).map fun (ps, r) => (.unit n :: ps, r) := by
  have hquote : ascii '\\' ≠ ascii '"' := by decide
  have hcontrol : ¬ ascii '\\' < 0x20 := by decide
  have hletter : letterEscape? (ascii 'u') = none := by decide
  rw [scanString.eq_def]
  simp only [if_neg hquote, if_neg hcontrol, if_pos, hletter, h]

end Scan

theorem scanString_escape (b : UInt8) (rest : Octets) :
    ∃ p, scanString (escape b ++ rest) = (scanString rest).map (fun (ps, r) => (p :: ps, r))
      ∧ ∀ ps, spell (p :: ps) = (spell ps).map (b :: ·) := by
  rcases escape_cases b with ⟨e, hwritten, hletter⟩ | ⟨hcontrol, hwritten⟩
    | ⟨hwritten, hquote, hbackslash, hcontrol⟩
  · rw [hwritten]
    exact ⟨.octet b, scanString_letter rest hletter, fun _ => rfl⟩
  · have hlt : b.toNat < 0x20 := hcontrol
    have hhalf : isHighHalf b.toNat = false ∧ isLowHalf b.toNat = false := by
      simp only [isHighHalf, isLowHalf, Bool.and_eq_false_iff, decide_eq_false_iff_not]
      omega
    rw [hwritten]
    refine ⟨.unit b.toNat, scanString_unit rest (unit?_hexDigit _ hlt), fun ps => ?_⟩
    rw [spell.eq_def]
    simp [hhalf, ofChar_ofNat_control _ hlt]
  · rw [hwritten]
    exact ⟨.octet b, scanString_plain rest hquote hbackslash hcontrol, fun _ => rfl⟩

theorem scanString_append_quote (os rest : Octets) :
    ∃ ps, scanString (os.flatMap escape ++ ascii '"' :: rest) = some (ps, rest)
      ∧ spell ps = some os := by
  induction os with
  | nil => exact ⟨[], scanString_quote rest, rfl⟩
  | cons b os ih =>
    obtain ⟨ps, hscan, hspell⟩ := ih
    obtain ⟨p, hp, hb⟩ := scanString_escape b (os.flatMap escape ++ ascii '"' :: rest)
    refine ⟨p :: ps, ?_, by rw [hb, hspell]; rfl⟩
    rw [List.flatMap_cons, List.append_assoc, hp, hscan]
    rfl

theorem scanString_renderString (s : Option String) (rest : Octets) :
    ∃ os ps, renderString s ++ rest = ascii '"' :: os ∧ scanString os = some (ps, rest)
      ∧ pieceText? ps = s := by
  cases s with
  | none =>
    have hunit : unit? (ascii 'd') (ascii '8') (ascii '0') (ascii '0') = some 0xD800 := by decide
    refine ⟨_, [.unit 0xD800], rfl, (scanString_unit _ hunit).trans ?_, rfl⟩
    exact congrArg _ (scanString_quote rest)
  | some s =>
    obtain ⟨ps, hscan, hspell⟩ := scanString_append_quote (Octets.ofString s) rest
    refine ⟨_, ps, rfl, by simpa using hscan, ?_⟩
    rw [pieceText?, hspell]
    exact Octets.text?_ofString s

end ScopeGate.Json
