import ScopeGate.Proofs.Time.Calendar
import ScopeGate.Proofs.Time.Numerals

/-!
# Timestamps read back

A written timestamp is read back as the instant that it was written for, with its year, its leap
second and all of its fraction, provided that the instant is sound: it lies in the years that can be
written, and only the last second of a minute is followed by a leap second. Whatever is read is
sound, so that no other instant has a written form.
-/

namespace ScopeGate.Instant

open Text

/-- An instant that a calendar and a clock show. -/
structure IsSound (t : Instant) : Prop where
  inRange : Instant.inRange t.seconds = true
  nanos_lt : t.nanos < 2 * Duration.nanosPerSecond
  leap : Duration.nanosPerSecond ≤ t.nanos → t.seconds % 60 = 59

section Parts

variable {cs : List Char}

theorem readField_padded {n : Nat} (h : n < 100) :
    readField (padded 2 n ++ cs) = some (n, cs) := by
  have hlen : (padded 2 n).length = 2 := length_padded (by omega) h
  rw [readField, trimLeft_padded_append, readNumber_padded (by omega) (.inl hlen)]
  rfl

theorem readMark_cons {mark : Char} (h : isBlank mark = false) :
    readMark mark (mark :: cs) = some cs := by
  simp [readMark, trimLeft, h]

theorem readYear_padded (n : Nat) :
    readYear (padded 4 n ++ cs)
      = (readNumber 4 (padded 4 n ++ cs)).map fun (n, _, r) => ((n : Int), r) := by
  obtain ⟨d, ds, hdigit, hds⟩ := exists_padded_append_eq 4 n cs
  rw [readYear, trimLeft_padded_append, hds]
  split
  · simp_all
  · simp_all
  · rfl

theorem readYear_minus : readYear ('-' :: cs)
    = (readNumber cs.length cs).map fun (n, _, r) => (-(n : Int), r) := rfl

theorem readYear_plus : readYear ('+' :: cs)
    = (readNumber cs.length cs).map fun (n, _, r) => ((n : Int), r) := rfl

theorem readYear_yearText (year : Int) :
    readYear (yearText year ++ '-' :: cs) = some (year, '-' :: cs) := by
  have hend : EndsNumber ('-' :: cs) := by simp [digitValue?]
  rw [yearText]
  split
  · have hlen : (padded 4 year.toNat).length = 4 := length_padded (by omega) (by omega)
    rw [readYear_padded, readNumber_padded (by omega) (.inl hlen)]
    simp only [Option.map_some, Option.some.injEq, Prod.mk.injEq, and_true]
    omega
  · have hsigned : readNumber (padded 4 year.natAbs ++ '-' :: cs).length
        (padded 4 year.natAbs ++ '-' :: cs)
          = some (year.natAbs, (padded 4 year.natAbs).length, '-' :: cs) :=
      readNumber_padded (by simp) (.inr hend)
    split
    · rw [List.cons_append, readYear_minus, hsigned]
      simp only [Option.map_some, Option.some.injEq, Prod.mk.injEq, and_true]
      omega
    · rw [List.cons_append, readYear_plus, hsigned]
      simp only [Option.map_some, Option.some.injEq, Prod.mk.injEq, and_true]
      omega

/-- A fraction of so many digits is read back, and nothing of the offset after it. -/
theorem readFraction_padded {width n : Nat} (hwidth : 0 < width ∧ width ≤ 9) (h : n < 10 ^ width)
    (style : OffsetStyle) :
    readFraction ('.' :: padded width n ++ style.zero)
      = some (n * 10 ^ (9 - width), style.zero) := by
  have hlen := length_padded hwidth.1 h
  have hend : EndsNumber style.zero := by
    cases style <;> exact (endsNumber_cons _ _).mpr rfl
  have hrest : style.zero.dropWhile (fun c => (digitValue? c).isSome) = style.zero := by
    cases style <;> rfl
  rw [List.cons_append, readFraction, readNumber_padded (by omega) (.inr hend), hlen]
  simp only [Option.map_some, hrest]
  rfl

theorem readFraction_fractionText {nanos : Nat} (h : nanos < Duration.nanosPerSecond)
    (style : OffsetStyle) :
    readFraction (fractionText nanos ++ style.zero) = some (nanos, style.zero) := by
  rw [Duration.nanosPerSecond] at h
  rw [fractionText]
  split
  · subst nanos
    cases style <;> rfl
  · split
    · rw [readFraction_padded (by omega) (by omega)]
      congr
      omega
    · split
      · rw [readFraction_padded (by omega) (by omega)]
        congr
        omega
      · rw [readFraction_padded (by omega) (by omega)]
        congr
        omega

theorem readOffset_zero (style : OffsetStyle) : readOffset style.zero = some (0, []) := by
  cases style <;> decide

theorem ofTimestampChars?_append {year : Int} {month day hour minute second nanos : Nat}
    (hdate : month < 100 ∧ day < 100) (htime : hour < 100 ∧ minute < 100 ∧ second < 100)
    (hnanos : nanos < Duration.nanosPerSecond) (style : OffsetStyle) :
    ofTimestampChars? (yearText year ++ '-' :: padded 2 month ++ '-' :: padded 2 day
        ++ 'T' :: padded 2 hour ++ ':' :: padded 2 minute ++ ':' :: padded 2 second
        ++ fractionText nanos ++ style.zero)
      = ofFields? ⟨year, month, day⟩ hour minute second nanos 0 := by
  have hmarks : isBlank '-' = false ∧ isBlank ':' = false := by decide
  have hdivider (cs : List Char) : readDivider ('T' :: cs) = some cs := rfl
  simp only [ofTimestampChars?, Option.bind_eq_bind, List.append_assoc, List.cons_append,
    readYear_yearText, readMark_cons hmarks.1, readMark_cons hmarks.2, hdivider,
    readField_padded hdate.1, readField_padded hdate.2, readField_padded htime.1,
    readField_padded htime.2.1, readField_padded htime.2.2, readFraction_fractionText hnanos,
    readOffset_zero, Option.bind_some, trimLeft, List.dropWhile_nil, if_true]

end Parts

/-- The second of a day is found again from its hour, its minute and its second, of which the last
may be the leap second after it. -/
theorem ofFields?_ofDayNumber {day : Int} {ofDay second nanos : Nat} (hday : ofDay < 86400)
    (hrange : inRange (day * secondsPerDay + ofDay) = true)
    (hsecond : second = ofDay % 60 ∨ ofDay % 60 = 59 ∧ second = 60) :
    ofFields? (Date.ofDayNumber day) (ofDay / 3600) (ofDay / 60 % 60) second nanos 0
      = some ⟨day * secondsPerDay + ofDay,
          nanos + if second = 60 then Duration.nanosPerSecond else 0⟩ := by
  have hshown : (ofDay / 3600 * 60 + ofDay / 60 % 60) * 60 + (if second = 60 then 59 else second)
      = ofDay := by
    split <;> omega
  have hclock : ofDay / 3600 ≤ 23 ∧ ofDay / 60 % 60 ≤ 59 ∧ second ≤ 60 := by omega
  have hoffset : -secondsPerDay < 0 ∧ 0 < secondsPerDay := by decide
  simp [ofFields?, hshown, hclock, hrange, hoffset, Date.dayNumber_ofDayNumber,
    Date.isValid_ofDayNumber]

theorem month_day_lt (n : Int) : 0 ≤ (Date.ofDayNumber n).month ∧ (Date.ofDayNumber n).month < 100
    ∧ 0 ≤ (Date.ofDayNumber n).day ∧ (Date.ofDayNumber n).day < 100 := by
  have hvalid := Date.isValid_ofDayNumber n
  have hdays : Date.daysInMonth (Date.ofDayNumber n).year (Date.ofDayNumber n).month ≤ 31 := by
    rw [Date.daysInMonth]
    grind
  simp only [Date.isValid, Bool.and_eq_true, decide_eq_true_eq] at hvalid
  omega

theorem ofTimestamp?_timestamp {t : Instant} (h : t.IsSound) (style : OffsetStyle) :
    ofTimestamp? (t.timestamp style) = some t := by
  obtain ⟨hmonth, hmonth', hday, hday'⟩ := month_day_lt (t.seconds / secondsPerDay)
  have hofDay : 0 ≤ t.seconds % secondsPerDay ∧ t.seconds % secondsPerDay < 86400 := by
    rw [secondsPerDay]
    omega
  have hseconds : t.seconds / secondsPerDay * secondsPerDay
      + ((t.seconds % secondsPerDay).toNat : Int) = t.seconds := by
    rw [Int.toNat_of_nonneg hofDay.1, Int.mul_comm]
    exact Int.mul_ediv_add_emod _ _
  have hrange := h.inRange
  rw [← hseconds] at hrange
  rw [timestamp, ofTimestamp?, String.toList_ofList, timestampChars]
  rcases Nat.lt_or_ge t.nanos Duration.nanosPerSecond with hplain | hlate
  · have hsecond : (t.seconds % secondsPerDay).toNat % 60 ≠ 60 := by omega
    simp only [Nat.not_le.mpr hplain, if_false, Nat.add_zero]
    rw [ofTimestampChars?_append (by omega) (by omega) hplain, Int.toNat_of_nonneg hmonth,
      Int.toNat_of_nonneg hday, ofFields?_ofDayNumber (by omega) hrange (.inl rfl), hseconds,
      if_neg hsecond]
    rfl
  · have hsecond : (t.seconds % secondsPerDay).toNat % 60 = 59 := by
      have := h.leap hlate
      rw [secondsPerDay]
      omega
    have hnanos : t.nanos - Duration.nanosPerSecond < Duration.nanosPerSecond := by
      have := h.nanos_lt
      omega
    simp only [hlate, if_true, hsecond]
    rw [ofTimestampChars?_append (by omega) (by omega) hnanos, Int.toNat_of_nonneg hmonth,
      Int.toNat_of_nonneg hday, ofFields?_ofDayNumber (by omega) hrange (.inr ⟨hsecond, rfl⟩),
      hseconds, if_pos rfl, Nat.sub_add_cancel hlate]

theorem readFraction_lt {cs rest : List Char} {nanos : Nat}
    (h : readFraction cs = some (nanos, rest)) : nanos < Duration.nanosPerSecond := by
  unfold readFraction at h
  split at h
  · obtain ⟨⟨n, count, cs'⟩, hread, heq⟩ := Option.map_eq_some_iff.mp h
    obtain ⟨hcount, hn⟩ := readNumber_lt hread
    cases heq
    calc n * 10 ^ (9 - count) < 10 ^ count * 10 ^ (9 - count) :=
          Nat.mul_lt_mul_of_pos_right hn (Nat.pow_pos (by omega))
      _ = 10 ^ 9 := by rw [← Nat.pow_add]; congr 1; omega
  · cases h
    decide

theorem readOffsetTime_emod {cs rest : List Char} {offset : Int}
    (h : readOffsetTime cs = some (offset, rest)) : offset % 60 = 0 := by
  unfold readOffsetTime at h
  split at h
  · split at h
    · simp only [Option.bind_eq_bind, Option.bind_eq_some_iff] at h
      obtain ⟨h₁, -, h₂, -, m₁, -, m₂, -, hread⟩ := h
      split at hread
      · cases hread
        omega
      · cases hread
    · cases h
  · cases h

theorem readOffset_emod {cs rest : List Char} {offset : Int}
    (h : readOffset cs = some (offset, rest)) : offset % 60 = 0 := by
  unfold readOffset at h
  split at h
  · split at h
    · cases h
      rfl
    · split at h
      · cases h
        rfl
      · split at h
        · exact readOffsetTime_emod h
        · split at h
          · obtain ⟨⟨n, r⟩, hread, heq⟩ := Option.map_eq_some_iff.mp h
            have := readOffsetTime_emod hread
            cases heq
            omega
          · cases h
  · split at h
    · cases h
      rfl
    · cases h
  · cases h

/-- The instant of a date and a time of day at an offset of whole minutes is sound. -/
theorem isSound_of_ofFields? {date : Date} {hour minute second nanos : Nat} {offset : Int}
    {t : Instant} (hnanos : nanos < Duration.nanosPerSecond) (hoffset : offset % 60 = 0)
    (h : ofFields? date hour minute second nanos offset = some t) : t.IsSound := by
  simp only [ofFields?, Option.ite_none_right_eq_some, Bool.and_eq_true, Option.some.injEq] at h
  obtain ⟨⟨-, hrange⟩, rfl⟩ := h
  by_cases hleap : second = 60
  · simp only [if_pos hleap] at hrange ⊢
    refine ⟨hrange, by simp only; omega, fun _ => ?_⟩
    simp only [secondsPerDay]
    omega
  · simp only [if_neg hleap] at hrange ⊢
    exact ⟨hrange, by simp only; omega, fun hlate => by simp only at hlate; omega⟩

theorem isSound_of_ofTimestamp? {text : String} {t : Instant} (h : ofTimestamp? text = some t) :
    t.IsSound := by
  simp only [ofTimestamp?, ofTimestampChars?, Option.bind_eq_bind, Option.bind_eq_some_iff] at h
  obtain ⟨_, -, _, -, _, -, _, -, _, -, _, -, _, -, _, -, _, -, _, -, _, -, fraction, hfraction,
    offset, hoffset, hread⟩ := h
  split at hread
  · exact isSound_of_ofFields? (readFraction_lt hfraction) (readOffset_emod hoffset) hread
  · cases hread

theorem isSound_of_ofSeconds? {seconds : Int} {t : Instant} (h : ofSeconds? seconds = some t) :
    t.IsSound := by
  simp only [ofSeconds?, Option.ite_none_right_eq_some, Option.some.injEq] at h
  obtain ⟨hrange, rfl⟩ := h
  exact ⟨hrange, by simp [Duration.nanosPerSecond], by simp [Duration.nanosPerSecond]⟩

/-- The sound instants are those that their written form gives back. -/
theorem ofTimestamp?_timestamp_iff (t : Instant) (style : OffsetStyle) :
    ofTimestamp? (t.timestamp style) = some t ↔ t.IsSound :=
  ⟨isSound_of_ofTimestamp?, fun h => ofTimestamp?_timestamp h style⟩

end ScopeGate.Instant
