import ScopeGate.Time.Calendar

/-!
# Days and dates

Every day number has a date in the calendar, and the date has that number. The proof follows
`Date.ofDayNumber`: the year within an era is found from the day of the era, then the month and the
day from the day of the year. Since years begin in March here, only a year whose last day is the
leap day has a day of number 365.
-/

namespace ScopeGate.Date

def yearStart (y : Int) : Int := 365 * y + y / 4 - y / 100

def yearOfEra (d : Int) : Int := (d - d / 1460 + d / 36524 - d / 146096) / 365

structure LiesIn (d y : Int) : Prop where
  year_nonneg : 0 ≤ y
  year_lt : y < 400
  start_le : yearStart y ≤ d
  le_end : d ≤ yearStart y + 365
  leap : d = yearStart y + 365 → isLeap (y + 1) = true

theorem isLeap_iff (year : Int) :
    isLeap year = true ↔ year % 4 = 0 ∧ (year % 100 ≠ 0 ∨ year % 400 = 0) := by
  simp [isLeap]

theorem isLeap_add_eras (year era : Int) : isLeap (year + era * 400) = isLeap year := by
  rw [Bool.eq_iff_iff, isLeap_iff, isLeap_iff]
  omega

/-- Within one of the four centuries of an era the year is found by counting leap days. The last day
of the era is left out: it is the leap day that ends a fourth century. -/
theorem liesIn_of_century {c d y : Int} (hc : 0 ≤ c ∧ c ≤ 3) (hfrom : 36524 * c ≤ d)
    (hto : d < 36524 * (c + 1)) (hy : y = (d - d / 1460 + c) / 365) : LiesIn d y := by
  have hcases : c = 0 ∨ c = 1 ∨ c = 2 ∨ c = 3 := by omega
  have hcentury : 100 * c ≤ y ∧ y < 100 * (c + 1) := by
    rcases hcases with rfl | rfl | rfl | rfl <;> omega
  have hcount : y / 100 = c := by omega
  have hstart : yearStart y = 365 * y + y / 4 - c := by rw [yearStart, hcount]
  have hday : 0 ≤ d - d / 1460 + c - 365 * y ∧ d - d / 1460 + c - 365 * y ≤ 364 := by omega
  clear hy hcases
  have hleaps : y / 4 ≤ d / 1460 := by omega
  refine ⟨by omega, by omega, by omega, by omega, fun hlast => (isLeap_iff _).mpr ?_⟩
  have hnext : y / 4 + 1 ≤ d / 1460 := by omega
  have hfourth : y % 4 = 3 := by omega
  have hfull : (y + 1) % 100 ≠ 0 := by omega
  exact ⟨by omega, .inl hfull⟩

theorem liesIn_yearOfEra {d : Int} (hd : 0 ≤ d ∧ d < daysPerEra) : LiesIn d (yearOfEra d) := by
  rw [daysPerEra] at hd
  rcases Int.lt_or_le d 146096 with hlt | hge
  · refine liesIn_of_century (c := d / 36524) (by omega) (by omega) (by omega) ?_
    rw [yearOfEra]
    congr 1
    omega
  · obtain rfl : d = 146096 := by omega
    constructor <;> decide

def ofMarchYear (year dayOfYear : Int) : Date :=
  let month := (5 * dayOfYear + 2) / 153
  let civil := if month < 10 then month + 3 else month - 9
  ⟨year + (if civil ≤ 2 then 1 else 0), civil, dayOfYear - (153 * month + 2) / 5 + 1⟩

theorem dayNumber_ofMarchYear (year : Int) {doy : Int} (hd : 0 ≤ doy ∧ doy ≤ 365) :
    (ofMarchYear year doy).dayNumber
      = year / 400 * daysPerEra + yearStart (year % 400) + doy - eraStart := by
  obtain ⟨month, hmonth⟩ : ∃ m, m = (5 * doy + 2) / 153 := ⟨_, rfl⟩
  have hrange : 0 ≤ month ∧ month ≤ 11 := by omega
  simp only [ofMarchYear, dayNumber, ← hmonth, yearStart]
  clear hmonth
  split <;> split <;> simp only [Int.add_sub_cancel, Int.add_zero] <;> omega

theorem isValid_ofMarchYear {year doy : Int} (hd : 0 ≤ doy ∧ doy ≤ 365)
    (hleap : doy = 365 → isLeap (year + 1) = true) : (ofMarchYear year doy).isValid = true := by
  obtain ⟨month, hmonth⟩ : ∃ m, m = (5 * doy + 2) / 153 := ⟨_, rfl⟩
  have hrange : (month = 0 ∨ month = 1 ∨ month = 2 ∨ month = 3 ∨ month = 4 ∨ month = 5 ∨ month = 6
    ∨ month = 7 ∨ month = 8 ∨ month = 9 ∨ month = 10) ∨ month = 11 := by omega
  simp only [ofMarchYear, isValid, ← hmonth]
  rcases hrange with hlonger | hfebruary
  · rcases hlonger with h | h | h | h | h | h | h | h | h | h | h
    all_goals
      simp [h, daysInMonth]
      omega
  · cases hyear : isLeap (year + 1) with
    | true =>
      simp [hfebruary, daysInMonth, hyear]
      omega
    | false =>
      have hcommon : doy ≠ 365 := fun hlast => by simp [hleap hlast] at hyear
      simp [hfebruary, daysInMonth, hyear]
      omega

/-- A day number lies in a year of an era, and its date is that of the day of this year. -/
theorem ofDayNumber_eq_ofMarchYear (n : Int) :
    ∃ era y, LiesIn (n + eraStart - era * daysPerEra) y
      ∧ ofDayNumber n
          = ofMarchYear (y + era * 400) (n + eraStart - era * daysPerEra - yearStart y) := by
  have hday : n + eraStart - (n + eraStart) / daysPerEra * daysPerEra
      = (n + eraStart) % daysPerEra := by
    rw [daysPerEra]
    omega
  refine ⟨(n + eraStart) / daysPerEra, yearOfEra ((n + eraStart) % daysPerEra), ?_⟩
  rw [hday]
  refine ⟨liesIn_yearOfEra ?_, rfl⟩
  rw [daysPerEra]
  omega

/-- A date is found for every day number, and it has that number. -/
theorem dayNumber_ofDayNumber (n : Int) : (ofDayNumber n).dayNumber = n := by
  obtain ⟨era, y, hlies, hdate⟩ := ofDayNumber_eq_ofMarchYear n
  obtain ⟨hnonneg, hlt, hstart, hend, -⟩ := hlies
  have hyear : (y + era * 400) / 400 = era ∧ (y + era * 400) % 400 = y := by omega
  rw [hdate, dayNumber_ofMarchYear _ (by omega), hyear.1, hyear.2]
  omega

theorem isValid_ofDayNumber (n : Int) : (ofDayNumber n).isValid = true := by
  obtain ⟨era, y, ⟨-, -, hstart, hend, hleap⟩, hdate⟩ := ofDayNumber_eq_ofMarchYear n
  rw [hdate]
  refine isValid_ofMarchYear (by omega) fun hlast => ?_
  rw [Int.add_right_comm, isLeap_add_eras]
  exact hleap (by omega)

end ScopeGate.Date
