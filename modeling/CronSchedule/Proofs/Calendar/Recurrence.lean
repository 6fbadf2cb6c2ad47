import CronSchedule.Proofs.Calendar.DayNumber

/-!
How soon days come round. Main statements: among 2921 days in a row there is each day of a month that
some year has (`Date.exists_mem_window_of_day`), and each day of the week in each month
(`Date.exists_mem_window_of_weekday`). The longest wait is the one for a leap day across a century that
ends without one.
-/

namespace CronSchedule

/-- The most days that a month can have. -/
def longestMonth (month : Nat) : Nat :=
  (monthLengths true).getD (month - 1) 0

theorem exists_isLeapYear (y : Nat) : ∃ j, j ≤ 7 ∧ isLeapYear (y + j) = true := by
  have hleap {n : Nat} : isLeapYear n = true ↔ n % 4 = 0 ∧ (n % 100 ≠ 0 ∨ n % 400 = 0) := by
    simp only [isLeapYear, Bool.and_eq_true, Bool.or_eq_true, decide_eq_true_eq]
  simp only [hleap]
  by_cases h : (y + (3 - (y + 3) % 4)) % 100 = 0 ∧ (y + (3 - (y + 3) % 4)) % 400 ≠ 0
  · exact ⟨3 - (y + 3) % 4 + 4, by omega, by omega⟩
  · exact ⟨3 - (y + 3) % 4, by omega, by omega⟩

/-- The years before the next leap year have 365 days each. -/
theorem exists_isLeapYear_from {y j : Nat} (hy : 1 ≤ y) (h : isLeapYear (y + j) = true) :
    ∃ y', y ≤ y' ∧ isLeapYear y' = true ∧ daysBeforeYear y' ≤ daysBeforeYear y + 365 * j := by
  induction j generalizing y with
  | zero => exact ⟨y, Nat.le_refl y, h, Nat.le_refl _⟩
  | succ j ih =>
    by_cases hleap : isLeapYear y = true
    · exact ⟨y, Nat.le_refl y, hleap, Nat.le_add_right ..⟩
    · have hnext : isLeapYear (y + 1 + j) = true := by rwa [Nat.add_right_comm]
      obtain ⟨y', hle, hy', hdays⟩ := ih (Nat.le_succ_of_le hy) hnext
      rw [daysBeforeYear_succ hy, yearLength, if_neg hleap] at hdays
      exact ⟨y', Nat.le_of_succ_le hle, hy', by omega⟩

/-- Two years' days hold all days of a year, if they end on the time line. -/
theorem exists_year_within {n : Nat} (h : n + 732 ≤ daysBeforeYear 10000) :
    ∃ y, (1 ≤ y ∧ y ≤ 9999) ∧ n ≤ daysBeforeYear y ∧ daysBeforeYear (y + 1) ≤ n + 732 := by
  obtain ⟨y, r, hy, hr, rfl, -⟩ := Date.exists_ofNumber n
  have hnext := daysBeforeYear_succ hy
  have hnext' := daysBeforeYear_succ (Nat.le_add_left 1 y)
  have hone := yearLength_le y
  have htwo := yearLength_le (y + 1)
  refine ⟨y + 1, ⟨Nat.le_add_left 1 y, ?_⟩, by omega, by omega⟩
  by_contra hge
  have hmono : daysBeforeYear 10000 ≤ daysBeforeYear (y + 1) := daysBeforeYear_mono (by omega)
  omega

namespace Date

variable {n month day : Nat}

theorem le_monthLength {d : Date} (hmonth : 1 ≤ d.month ∧ d.month ≤ 12)
    (h : d.day ≤ (monthLengths false).getD (d.month - 1) 0) : d.day ≤ d.monthLength := by
  have hle : ∀ m < 12, ∀ leap, (monthLengths false).getD m 0 ≤ (monthLengths leap).getD m 0 := by
    decide
  exact Nat.le_trans h (hle _ (by omega) _)

theorem mem_window_of_year {d : Date} (hd : d.isValid = true) (hlow : n ≤ daysBeforeYear d.year)
    (hhigh : daysBeforeYear (d.year + 1) ≤ n + 732) : n ≤ d.number ∧ d.number < n + 732 := by
  have hlt := number_lt hd
  have hge : daysBeforeYear d.year ≤ d.number := number_eq d ▸ Nat.le_add_right ..
  omega

theorem number_leapDay {y : Nat} (hy : isLeapYear y = true) :
    number ⟨y, 2, 29⟩ = daysBeforeYear y + 59 := by
  rw [number_eq, dayOfYear, daysBeforeMonth, hy]
  rfl

theorem exists_mem_window_of_leapDay (h : n + 2921 ≤ daysBeforeYear 10000) :
    ∃ d : Date, d.isValid = true ∧ (d.month = 2 ∧ d.day = 29) ∧
      n ≤ d.number ∧ d.number < n + 2921 := by
  obtain ⟨y, r, hy, hr, rfl, -⟩ := Date.exists_ofNumber n
  have hnext := daysBeforeYear_succ hy
  have hlength := yearLength_le y
  -- Up to the 60th day of a year its own leap day may be ahead; later on only those of other years.
  obtain ⟨y', hy', hleap, hlow, hhigh⟩ : ∃ y', 1 ≤ y' ∧ isLeapYear y' = true ∧
      daysBeforeYear y + r ≤ daysBeforeYear y' + 59 ∧
      daysBeforeYear y' + 59 < daysBeforeYear y + r + 2921 := by
    by_cases hr : r ≤ 59
    · obtain ⟨j, hj, hleap⟩ := exists_isLeapYear y
      obtain ⟨y', hle, hy', hdays⟩ := exists_isLeapYear_from hy hleap
      have hmono := daysBeforeYear_mono hle
      exact ⟨y', Nat.le_trans hy hle, hy', by omega, by omega⟩
    · obtain ⟨j, hj, hleap⟩ := exists_isLeapYear (y + 1)
      obtain ⟨y', hle, hy', hdays⟩ := exists_isLeapYear_from (Nat.le_add_left 1 y) hleap
      have hmono := daysBeforeYear_mono hle
      exact ⟨y', by omega, hy', by omega, by omega⟩
  have hyear : y' ≤ 9999 := by
    by_contra hge
    have hmono : daysBeforeYear 10000 ≤ daysBeforeYear y' := daysBeforeYear_mono (by omega)
    omega
  rw [← number_leapDay hleap] at hlow hhigh
  refine ⟨⟨y', 2, 29⟩, isValid_iff.mpr ⟨⟨hy', hyear⟩, ⟨Nat.le_succ 1, Nat.le_add_right 2 10⟩,
    Nat.le_add_left 1 28, ?_⟩, ⟨rfl, rfl⟩, hlow, hhigh⟩
  rw [monthLength, hleap]
  exact Nat.le_refl 29

/-- A day of a month that some year has comes round within 2921 days. -/
theorem exists_mem_window_of_day (hmonth : 1 ≤ month ∧ month ≤ 12) (hday : 1 ≤ day)
    (hlong : day ≤ longestMonth month) (h : n + 2921 ≤ daysBeforeYear 10000) :
    ∃ d : Date, d.isValid = true ∧ (d.month = month ∧ d.day = day) ∧
      n ≤ d.number ∧ d.number < n + 2921 := by
  have hleap : ∀ m < 12, (monthLengths false).getD m 0 < (monthLengths true).getD m 0 →
      m = 1 ∧ (monthLengths true).getD m 0 = 29 ∧ (monthLengths false).getD m 0 = 28 := by decide
  by_cases hshort : day ≤ (monthLengths false).getD (month - 1) 0
  · obtain ⟨y, hy, hlow, hhigh⟩ := exists_year_within (n := n) (by omega)
    have hd : isValid ⟨y, month, day⟩ = true :=
      isValid_iff.mpr ⟨hy, hmonth, hday, le_monthLength hmonth hshort⟩
    have hmem := mem_window_of_year hd hlow hhigh
    exact ⟨_, hd, ⟨rfl, rfl⟩, hmem.1, by omega⟩
  · rw [longestMonth] at hlong
    have hfeb := hleap (month - 1) (by omega) (by omega)
    have hmonth2 : month = 2 := by omega
    have hday29 : day = 29 := by omega
    subst hmonth2 hday29
    exact exists_mem_window_of_leapDay h

theorem number_add {y j : Nat} : number ⟨y, month, 1 + j⟩ = number ⟨y, month, 1⟩ + j := by
  simp only [number, daysBeforeMonth]
  omega

theorem exists_mem_window_of_weekday {w : Nat} (hmonth : 1 ≤ month ∧ month ≤ 12) (hw : w < 7)
    (h : n + 2921 ≤ daysBeforeYear 10000) :
    ∃ d : Date, d.isValid = true ∧ (d.month = month ∧ d.weekday = w) ∧
      n ≤ d.number ∧ d.number < n + 2921 := by
  have hweek : ∀ m < 12, 7 ≤ (monthLengths false).getD m 0 := by decide
  obtain ⟨y, hy, hlow, hhigh⟩ := exists_year_within (n := n) (by omega)
  -- The first seven days of the month are one of each day of the week.
  obtain ⟨j, hj, hjw⟩ : ∃ j < 7, (number ⟨y, month, 1⟩ + j + 1) % 7 = w :=
    ⟨(w + 6 - number ⟨y, month, 1⟩ % 7) % 7, by omega, by omega⟩
  have hlong := hweek (month - 1) (by omega)
  have hd : isValid ⟨y, month, 1 + j⟩ = true :=
    isValid_iff.mpr ⟨hy, hmonth, Nat.le_add_right 1 j, le_monthLength hmonth (by dsimp only; omega)⟩
  have hmem := mem_window_of_year hd hlow hhigh
  exact ⟨_, hd, ⟨rfl, by rw [weekday, number_add, hjw]⟩, hmem.1, by omega⟩

end Date

end CronSchedule
