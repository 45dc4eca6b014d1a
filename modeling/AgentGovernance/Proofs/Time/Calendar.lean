-- SUMMARY: The date of a day is one of the calendar and leads back to it, and dates go up with days.
import AgentGovernance.Time.Calendar
import Mathlib.Tactic.IntervalCases

/-!
# Days and their dates

Main statements: the date of a day is one that the calendar has, its day is that day, and later days
have later dates.
-/

namespace AgentGovernance.Date

/-! ## Years of an era -/

theorem yearOfEra_mono {a b : Nat} (hab : a ≤ b) (hb : b < 146096) : yearOfEra a ≤ yearOfEra b := by
  unfold yearOfEra
  omega

-- The days between are in the same year because years do not decrease from day to day.
theorem yearOfEra_first : ∀ y < 400, yearOfEra (daysBeforeYear y) = y := by
  decide +kernel

theorem yearOfEra_last : ∀ y < 400, yearOfEra (daysBeforeYear (y + 1) - 1) = y := by
  decide +kernel

/-- A year that starts in March is long if it ends in a leap year. -/
theorem daysBeforeYear_succ : ∀ y < 400,
    daysBeforeYear (y + 1) ≤ daysBeforeYear y + if isLeapYear ((y : Int) + 1) then 366 else 365 := by
  decide +kernel

/-- Every day of an era lies in its year. The last day of an era is a leap day. -/
theorem yearOfEra_spec {doe : Nat} (h : doe < 146097) :
    yearOfEra doe < 400 ∧ daysBeforeYear (yearOfEra doe) ≤ doe ∧
      (doe < daysBeforeYear (yearOfEra doe + 1) ∨ doe = 146096 ∧ yearOfEra doe = 399) := by
  have hyear : yearOfEra doe < 400 := by
    unfold yearOfEra
    omega
  by_cases hlast : doe = 146096
  · rw [hlast]
    decide
  have hdoe : doe < 146096 := by omega
  generalize hy : yearOfEra doe = y at hyear ⊢
  refine ⟨hyear, Nat.le_of_not_lt ?_, .inl (Nat.lt_of_not_le ?_)⟩
  · intro hbefore
    cases y with
    | zero => cases hbefore
    | succ x =>
      have hend : daysBeforeYear (x + 1) - 1 < 146096 := by
        unfold daysBeforeYear
        omega
      have hle := yearOfEra_mono (Nat.le_sub_one_of_lt hbefore) hend
      rw [hy, yearOfEra_last x (by omega)] at hle
      omega
  · intro hafter
    by_cases hlate : y + 1 < 400
    · have hle := yearOfEra_mono hafter hdoe
      rw [hy, yearOfEra_first (y + 1) hlate] at hle
      omega
    · obtain rfl : y = 399 := by omega
      exact absurd hafter (Nat.not_le_of_lt hdoe)

/-- The calendar repeats every era. -/
theorem isLeapYear_add_era (y era : Int) : isLeapYear (y + era * 400) = isLeapYear y := by
  have hfour : (y + era * 400) % 4 = y % 4 := by omega
  have hcentury : (y + era * 400) % 100 = y % 100 := by omega
  have hera : (y + era * 400) % 400 = y % 400 := by omega
  simp only [isLeapYear, hfour, hcentury, hera]

/-- The day of a year is one of 365, or of 366 in a year that ends in a leap year. -/
theorem dayOfYear_lt {doe : Nat} (h : doe < 146097) :
    doe - daysBeforeYear (yearOfEra doe) <
      if isLeapYear ((yearOfEra doe : Int) + 1) then 366 else 365 := by
  obtain ⟨hyear, hle, hnext | ⟨rfl, -⟩⟩ := yearOfEra_spec h
  · have hlength := daysBeforeYear_succ _ hyear
    omega
  · decide

/-! ## Months of a year -/

theorem month_spec {doy : Nat} (h : doy < 366) :
    (5 * doy + 2) / 153 < 12 ∧ daysBeforeMonth ((5 * doy + 2) / 153) ≤ doy := by
  unfold daysBeforeMonth
  omega

/-- No month has more days than the calendar gives it. -/
theorem day_le_daysInMonth (y : Int) {doy mp : Nat}
    (h : doy < if isLeapYear (y + 1) then 366 else 365) (hmp : (5 * doy + 2) / 153 = mp) :
    doy - daysBeforeMonth mp + 1 ≤
      daysInMonth (y + if (if mp < 10 then mp + 3 else mp - 9) ≤ 2 then 1 else 0)
        (if mp < 10 then mp + 3 else mp - 9) := by
  have hmonth : mp < 12 := by
    split at h <;> omega
  by_cases hfebruary : mp = 11
  · subst hfebruary
    simp only [daysInMonth, daysBeforeMonth]
    split at h <;> simp_all <;> omega
  · interval_cases mp
    all_goals
      simp [daysInMonth, daysBeforeMonth]
      omega

/-! ## Dates -/

/-- The parts of a date fit together. -/
theorem ofDays_spec (days : Int) :
    ∃ era : Int, ∃ doe mp : Nat, doe < 146097 ∧ days = era * 146097 + doe - epochShift ∧
      (5 * (doe - daysBeforeYear (yearOfEra doe)) + 2) / 153 = mp ∧
      ofDays days =
        { year := yearOfEra doe + era * 400 +
            (if (if mp < 10 then mp + 3 else mp - 9) ≤ 2 then 1 else 0)
          month := if mp < 10 then mp + 3 else mp - 9
          day := doe - daysBeforeYear (yearOfEra doe) - daysBeforeMonth mp + 1 } := by
  refine ⟨(days + epochShift) / 146097, ((days + epochShift) % 146097).toNat, _, ?_, ?_, rfl, rfl⟩
  · omega
  · omega

theorem toDays_ofDays (days : Int) : (ofDays days).toDays = days := by
  obtain ⟨era, doe, mp, hdoe, hdays, hmp, hdate⟩ := ofDays_spec days
  obtain ⟨hyear, hle, -⟩ := yearOfEra_spec hdoe
  have hdoy : doe - daysBeforeYear (yearOfEra doe) < 366 := by
    have := dayOfYear_lt hdoe
    split at this <;> omega
  obtain ⟨hmonth, hbefore⟩ := month_spec hdoy
  rw [hmp] at hmonth hbefore
  rw [hdate, hdays]
  generalize yearOfEra doe = y at *
  have hquot : ((y : Int) + era * 400) / 400 = era := by omega
  have hrem : (((y : Int) + era * 400) % 400).toNat = y := by omega
  by_cases hearly : mp < 10
  · have hmarch : ¬ mp + 3 ≤ 2 := by omega
    simp only [toDays, hearly, hmarch, if_true, if_false, Int.add_zero, hquot, hrem, daysPerEra,
      Nat.add_sub_cancel]
    omega
  · have hjanuary : mp - 9 ≤ 2 := by omega
    have hback : mp - 9 + 9 = mp := by omega
    simp only [toDays, hearly, hjanuary, if_true, if_false, Int.add_sub_cancel, hquot, hrem,
      daysPerEra, hback]
    omega

theorem isValid_ofDays (days : Int) : (ofDays days).isValid = true := by
  obtain ⟨era, doe, mp, hdoe, -, hmp, hdate⟩ := ofDays_spec days
  have hlong := dayOfYear_lt hdoe
  have hdoy : doe - daysBeforeYear (yearOfEra doe) < 366 := by
    split at hlong <;> omega
  obtain ⟨hmonth, -⟩ := month_spec hdoy
  rw [hmp] at hmonth
  have hleap : isLeapYear ((yearOfEra doe : Int) + 1) =
      isLeapYear ((yearOfEra doe : Int) + era * 400 + 1) := by
    rw [Int.add_right_comm, isLeapYear_add_era]
  rw [hleap] at hlong
  have hday := day_le_daysInMonth _ hlong hmp
  rw [hdate, isValid]
  simp only [Bool.and_eq_true, decide_eq_true_eq]
  refine ⟨⟨⟨?_, ?_⟩, ?_⟩, hday⟩
  · split <;> omega
  · split <;> omega
  · omega

/-! ## Order -/

/-- One date stands before another in the calendar. -/
def Before (a b : Date) : Prop :=
  a.year < b.year ∨ a.year = b.year ∧ (a.month < b.month ∨ a.month = b.month ∧ a.day < b.day)

/-- The number of the month of a date, counted over all years. -/
def months (d : Date) : Int := 12 * d.year + d.month

/-- Dates are in the order of their months, and within a month in the order of their days. -/
theorem before_of_months {a b : Date} (ha : a.isValid = true) (hb : b.isValid = true)
    (h : a.months < b.months ∨ a.months = b.months ∧ a.day < b.day) : a.Before b := by
  simp only [isValid, Bool.and_eq_true, decide_eq_true_eq] at ha hb
  unfold months at h
  unfold Before
  omega

theorem yearOfEra_le {a b : Nat} (hab : a ≤ b) (hb : b < 146097) : yearOfEra a ≤ yearOfEra b := by
  obtain ⟨hyear, -⟩ := yearOfEra_spec (Nat.lt_of_le_of_lt hab hb)
  by_cases hlast : b = 146096
  · have hlong : yearOfEra 146096 = 399 := by decide
    rw [hlast, hlong]
    exact Nat.le_of_lt_succ hyear
  · exact yearOfEra_mono hab (by omega)

/-- The number of the month and the day of a date, told by the day within its era. -/
theorem months_ofDays (days : Int) :
    ∃ era : Int, ∃ doe mp : Nat, doe < 146097 ∧ days = era * 146097 + doe - epochShift ∧
      daysBeforeYear (yearOfEra doe) ≤ doe ∧
      (5 * (doe - daysBeforeYear (yearOfEra doe)) + 2) / 153 = mp ∧ mp < 12 ∧
      daysBeforeMonth mp ≤ doe - daysBeforeYear (yearOfEra doe) ∧
      (ofDays days).months = 12 * (yearOfEra doe + era * 400) + mp + 3 ∧
      (ofDays days).day = doe - daysBeforeYear (yearOfEra doe) - daysBeforeMonth mp + 1 := by
  obtain ⟨era, doe, mp, hdoe, hdays, hmp, hdate⟩ := ofDays_spec days
  obtain ⟨-, hle, -⟩ := yearOfEra_spec hdoe
  have hmonth := month_spec (Nat.lt_of_lt_of_le (dayOfYear_lt hdoe) (by split <;> decide))
  rw [hmp] at hmonth
  refine ⟨era, doe, mp, hdoe, hdays, hle, hmp, hmonth.1, hmonth.2, ?_, by rw [hdate]⟩
  rw [hdate, months]
  dsimp only
  split <;> split <;> omega

/-- Later days have later dates. -/
theorem ofDays_before {m n : Int} (h : m < n) : (ofDays m).Before (ofDays n) := by
  refine before_of_months (isValid_ofDays m) (isValid_ofDays n) ?_
  obtain ⟨era, doe, mp, hdoe, hdays, hle, hmp, hmonth, hbefore, hmonths, hday⟩ := months_ofDays m
  obtain ⟨era', doe', mp', hdoe', hdays', hle', hmp', -, hbefore', hmonths', hday'⟩ :=
    months_ofDays n
  have hyear := (yearOfEra_spec hdoe).1
  rw [hmonths, hmonths', hday, hday']
  -- The later day is in a later era, a later year of it, a later month of that, or a later day.
  rcases Int.lt_or_le era era' with hera | hera
  · left
    omega
  obtain ⟨rfl, hdoes⟩ : era = era' ∧ doe < doe' := by omega
  rcases Nat.lt_or_eq_of_le (yearOfEra_le (Nat.le_of_lt hdoes) hdoe') with hyears | hyears
  · left
    omega
  rw [hyears] at hle hmp hbefore ⊢
  generalize daysBeforeYear (yearOfEra doe') = start at *
  rcases Nat.lt_or_eq_of_le (show mp ≤ mp' by omega) with hmps | rfl
  · left
    omega
  · right
    omega

end AgentGovernance.Date
