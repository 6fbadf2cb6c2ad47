import CronSchedule.Calendar.Date
import Mathlib.Algebra.BigOperators.Group.List.Basic
import Mathlib.Algebra.GroupWithZero.Nat
import Mathlib.Data.List.GetD
import Mathlib.Order.Monotone.Basic

/-!
Dates and their day numbers. Main statements: a date is found again from its number
(`Date.ofNumber_number`), and each number of a day before the end of year 9999 is found again from its
date (`Date.number_ofNumber`).
-/

namespace CronSchedule

section Cycle

/-! A year by its cycle of 400 years, its century, its four years and its place among them. -/

variable {q c f k : Nat}

theorem exists_cycle {y : Nat} (hy : 1 ≤ y) :
    ∃ q c f k, c ≤ 3 ∧ f ≤ 24 ∧ k ≤ 3 ∧ y = 400 * q + 100 * c + 4 * f + k + 1 :=
  ⟨(y - 1) / 400, (y - 1) % 400 / 100, (y - 1) % 100 / 4, (y - 1) % 4, by omega, by omega,
    by omega, by omega⟩

theorem daysBeforeYear_of_cycle (hc : c ≤ 3) (hf : f ≤ 24) (hk : k ≤ 3) :
    daysBeforeYear (400 * q + 100 * c + 4 * f + k + 1) =
      146097 * q + 36524 * c + 1461 * f + 365 * k := by
  have h4 : (400 * q + 100 * c + 4 * f + k) / 4 = 100 * q + 25 * c + f := by omega
  have h100 : (400 * q + 100 * c + 4 * f + k) / 100 = 4 * q + c := by omega
  have h400 : (400 * q + 100 * c + 4 * f + k) / 400 = q := by omega
  simp only [daysBeforeYear, Nat.add_sub_cancel, h4, h100, h400]
  omega

theorem isLeapYear_of_cycle (hc : c ≤ 3) (hf : f ≤ 24) (hk : k ≤ 3) :
    isLeapYear (400 * q + 100 * c + 4 * f + k + 1) = true ↔ k = 3 ∧ (f < 24 ∨ c = 3) := by
  simp only [isLeapYear, Bool.and_eq_true, Bool.or_eq_true, decide_eq_true_eq]
  omega

end Cycle

def yearLength (y : Nat) : Nat :=
  if isLeapYear y then 366 else 365

theorem yearLength_of_cycle {q c f k : Nat} (hc : c ≤ 3) (hf : f ≤ 24) (hk : k ≤ 3) :
    yearLength (400 * q + 100 * c + 4 * f + k + 1) =
      if k = 3 ∧ (f < 24 ∨ c = 3) then 366 else 365 := by
  simp only [yearLength, isLeapYear_of_cycle hc hf hk]

theorem yearLength_le (y : Nat) : yearLength y ≤ 366 := by
  rw [yearLength]
  split <;> omega

theorem sum_monthLengths (y : Nat) : (monthLengths (isLeapYear y)).sum = yearLength y := by
  rw [yearLength]
  cases isLeapYear y <;> rfl

theorem daysBeforeYear_succ {y : Nat} (hy : 1 ≤ y) :
    daysBeforeYear (y + 1) = daysBeforeYear y + yearLength y := by
  obtain ⟨q, c, f, k, hc, hf, hk, rfl⟩ := exists_cycle hy
  have h4 : (400 * q + 100 * c + 4 * f + k + 1) / 4 = 100 * q + 25 * c + f + (k + 1) / 4 := by omega
  have h100 : (400 * q + 100 * c + 4 * f + k + 1) / 100 = 4 * q + c + (4 * f + k + 1) / 100 := by
    omega
  have h400 : (400 * q + 100 * c + 4 * f + k + 1) / 400 = q + (100 * c + 4 * f + k + 1) / 400 := by
    omega
  rw [daysBeforeYear_of_cycle hc hf hk, yearLength_of_cycle hc hf hk, daysBeforeYear,
    Nat.add_sub_cancel, h4, h100, h400]
  clear h4 h100 h400
  split <;> omega

theorem daysBeforeYear_mono : Monotone daysBeforeYear := by
  apply monotone_nat_of_le_succ
  intro y
  cases y with
  | zero => exact Nat.le_refl 0
  | succ y => exact daysBeforeYear_succ (Nat.le_add_left 1 y) ▸ Nat.le_add_right ..

/-- A day lies in one year only. -/
theorem eq_of_mem_year {n y y' : Nat} (h : daysBeforeYear y ≤ n ∧ n < daysBeforeYear (y + 1))
    (h' : daysBeforeYear y' ≤ n ∧ n < daysBeforeYear (y' + 1)) : y = y' := by
  rcases Nat.lt_trichotomy y y' with hlt | heq | hlt
  · have hmono : daysBeforeYear (y + 1) ≤ daysBeforeYear y' := daysBeforeYear_mono hlt
    omega
  · exact heq
  · have hmono : daysBeforeYear (y' + 1) ≤ daysBeforeYear y := daysBeforeYear_mono hlt
    omega

namespace Date

theorem isValid_iff {d : Date} :
    d.isValid = true ↔ (1 ≤ d.year ∧ d.year ≤ 9999) ∧ (1 ≤ d.month ∧ d.month ≤ 12) ∧
      1 ≤ d.day ∧ d.day ≤ d.monthLength := by
  simp only [isValid, Bool.and_eq_true, decide_eq_true_eq]
  tauto

/-- The number of days of the year before a date. -/
def dayOfYear (d : Date) : Nat :=
  d.daysBeforeMonth + (d.day - 1)

theorem number_eq (d : Date) : d.number = daysBeforeYear d.year + d.dayOfYear :=
  Nat.add_assoc ..

section MonthDay

variable {ls : List Nat} {m d : Nat}

theorem sum_take_add_lt (hm : m < ls.length) (hd : d < ls[m]) : (ls.take m).sum + d < ls.sum := by
  rw [← List.sum_take_add_sum_drop ls m, List.drop_eq_getElem_cons hm, List.sum_cons]
  omega

theorem monthDay_sum_take (hm : m < ls.length) (hd : d < ls[m]) :
    monthDay ls ((ls.take m).sum + d) = (m + 1, d + 1) := by
  induction ls generalizing m with
  | nil => cases hm
  | cons length rest ih =>
    cases m with
    | zero =>
      rw [List.take_zero, List.sum_nil, Nat.zero_add, monthDay]
      exact if_pos hd
    | succ m =>
      have hge : ¬ length + (rest.take m).sum + d < length := by omega
      have hsub : length + (rest.take m).sum + d - length = (rest.take m).sum + d := by omega
      simp only [List.take_succ_cons, List.sum_cons, monthDay, if_neg hge, hsub]
      rw [ih (Nat.lt_of_succ_lt_succ hm) hd]

/-- Each day of a run of months lies in one of them. -/
theorem exists_sum_take {n : Nat} (h : n < ls.sum) :
    ∃ m d, ∃ hm : m < ls.length, d < ls[m] ∧ n = (ls.take m).sum + d := by
  induction ls generalizing n with
  | nil => cases h
  | cons length rest ih =>
    by_cases hn : n < length
    · exact ⟨0, n, Nat.succ_pos _, hn, by simp⟩
    · obtain ⟨m, d, hm, hd, he⟩ := ih (n := n - length) (by rw [List.sum_cons] at h; omega)
      refine ⟨m + 1, d, Nat.succ_lt_succ hm, hd, ?_⟩
      rw [List.take_succ_cons, List.sum_cons]
      omega

end MonthDay

/-- A day number leads to a day of some year. -/
theorem exists_ofNumber (n : Nat) :
    ∃ y r, 1 ≤ y ∧ r < yearLength y ∧ n = daysBeforeYear y + r ∧
      ofNumber n = ⟨y, (monthDay (monthLengths (isLeapYear y)) r).1,
        (monthDay (monthLengths (isLeapYear y)) r).2⟩ := by
  have hc : min 3 (n % 146097 / 36524) ≤ 3 := Nat.min_le_left ..
  have hf : (n % 146097 - 36524 * min 3 (n % 146097 / 36524)) / 1461 ≤ 24 := by omega
  have hk : min 3 ((n % 146097 - 36524 * min 3 (n % 146097 / 36524)) % 1461 / 365) ≤ 3 :=
    Nat.min_le_left ..
  refine ⟨_, _, Nat.le_add_left 1 _, ?_, ?_, rfl⟩
  · rw [yearLength_of_cycle hc hf hk]
    split <;> omega
  · rw [daysBeforeYear_of_cycle hc hf hk]
    omega

theorem ofNumber_add {y r : Nat} (hy : 1 ≤ y) (hr : r < yearLength y) :
    ofNumber (daysBeforeYear y + r) =
      ⟨y, (monthDay (monthLengths (isLeapYear y)) r).1,
        (monthDay (monthLengths (isLeapYear y)) r).2⟩ := by
  obtain ⟨y', r', hy', hr', hn, hof⟩ := exists_ofNumber (daysBeforeYear y + r)
  have hsame : y = y' := by
    apply eq_of_mem_year (n := daysBeforeYear y + r)
    · rw [daysBeforeYear_succ hy]
      omega
    · rw [daysBeforeYear_succ hy']
      omega
  subst hsame
  rw [hof, Nat.add_left_cancel hn]

variable {d : Date}

/-- A date is a day of one of the months of its year. -/
theorem exists_sum_take_of_isValid (h : d.isValid = true) :
    ∃ hm : d.month - 1 < (monthLengths (isLeapYear d.year)).length,
      d.day - 1 < (monthLengths (isLeapYear d.year))[d.month - 1] := by
  obtain ⟨-, hmonth, hday⟩ := isValid_iff.mp h
  have hm : d.month - 1 < (monthLengths (isLeapYear d.year)).length := by
    change d.month - 1 < 12
    omega
  refine ⟨hm, ?_⟩
  rw [monthLength, List.getD_eq_getElem _ _ hm] at hday
  omega

theorem dayOfYear_lt (h : d.isValid = true) : d.dayOfYear < yearLength d.year := by
  obtain ⟨hm, hd⟩ := exists_sum_take_of_isValid h
  rw [← sum_monthLengths]
  exact sum_take_add_lt hm hd

/-- A date is found again from its number. -/
theorem ofNumber_number (h : d.isValid = true) : ofNumber d.number = d := by
  obtain ⟨⟨hyear, -⟩, ⟨hmonth, -⟩, hday, -⟩ := isValid_iff.mp h
  obtain ⟨hm, hd⟩ := exists_sum_take_of_isValid h
  have hmd : monthDay (monthLengths (isLeapYear d.year)) d.dayOfYear = (d.month, d.day) := by
    have := monthDay_sum_take hm hd
    rwa [Nat.sub_add_cancel hmonth, Nat.sub_add_cancel hday] at this
  rw [number_eq, ofNumber_add hyear (dayOfYear_lt h), hmd]

theorem number_lt (h : d.isValid = true) : d.number < daysBeforeYear (d.year + 1) := by
  rw [number_eq, daysBeforeYear_succ (isValid_iff.mp h).1.1]
  exact Nat.add_lt_add_left (dayOfYear_lt h) _

/-- Each day before the end of year 9999 is the day of a date. -/
theorem exists_number_eq {n : Nat} (h : n < daysBeforeYear 10000) :
    ∃ d : Date, d.isValid = true ∧ d.number = n := by
  obtain ⟨y, r, hy, hr, hn, -⟩ := exists_ofNumber n
  have hy' : y < 10000 := by
    by_contra hge
    have := daysBeforeYear_mono (Nat.not_lt.mp hge)
    omega
  rw [← sum_monthLengths] at hr
  obtain ⟨m, d, hm, hd, rfl⟩ := exists_sum_take hr
  refine ⟨⟨y, m + 1, d + 1⟩, isValid_iff.mpr ⟨⟨hy, Nat.le_of_lt_succ hy'⟩, ⟨Nat.le_add_left 1 m, hm⟩,
    Nat.le_add_left 1 d, ?_⟩, ?_⟩
  · rw [monthLength, Nat.add_sub_cancel, List.getD_eq_getElem _ _ hm]
    exact hd
  · rw [hn]
    exact number_eq _

theorem isValid_ofNumber {n : Nat} (h : n < daysBeforeYear 10000) : (ofNumber n).isValid = true := by
  obtain ⟨d, hd, rfl⟩ := exists_number_eq h
  rwa [ofNumber_number hd]

theorem number_ofNumber {n : Nat} (h : n < daysBeforeYear 10000) : (ofNumber n).number = n := by
  obtain ⟨d, hd, rfl⟩ := exists_number_eq h
  rw [ofNumber_number hd]

end Date

end CronSchedule
