import CronSchedule.Proofs.Calendar.Recurrence
import CronSchedule.Proofs.Calendar.TimeLine
import CronSchedule.Proofs.Expression.Matching
import CronSchedule.Proofs.Expression.Modes
import CronSchedule.Proofs.Expression.Values

/-!
Schedules that never fire. Main statements: a schedule for every year lacks days, or else fires within
2921 days of any point of the time line (`Expression.exists_selects_after`), so that it never fires exactly if
it lacks days (`Expression.neverFires_iff_lacksDays`).
-/

namespace CronSchedule

theorem Date.day_le_longestMonth {d : Date} (h : d.isValid = true) :
    d.day ≤ longestMonth d.month := by
  have hlongest : ∀ m < 12, ∀ leap,
      (monthLengths leap).getD m 0 ≤ (monthLengths true).getD m 0 := by decide
  obtain ⟨-, hmonth, -, hday⟩ := isValid_iff.mp h
  exact Nat.le_trans hday (hlongest (d.month - 1) (by omega) _)

namespace Expression

/-- The schedule fires at no day and time that there is. -/
def NeverFires (e : Expression) : Prop :=
  ∀ c : Civil, c.isValid = true → e.matches? c = .ok false

/-- The days are chosen by their number in the month, and no month of the schedule ever has such a day. -/
structure LacksDays (e : Expression) : Prop where
  dayOfWeek : e.dayOfWeek.isUnrestricted = true
  dayOfMonth : e.dayOfMonth.isUnrestricted = false
  tooShort : ∀ month day : Nat, e.month.selects month = true → e.dayOfMonth.selects day = true →
    longestMonth month < day

variable {e : Expression}

theorem selectsDay_of_dayOfMonth (hw : e.dayOfWeek.isUnrestricted = true)
    (hd : e.dayOfMonth.isUnrestricted = false) (d : Date) :
    e.selectsDay d = e.dayOfMonth.selects d.day := by
  simp only [selectsDay, hw, hd, Bool.false_and, Bool.false_eq_true, if_false, if_true]

theorem selectsDay_of_weekday (hw : e.dayOfWeek.isUnrestricted = false) {d : Date}
    (h : e.dayOfWeek.selects d.weekday = true) : e.selectsDay d = true := by
  simp only [selectsDay, hw, h, Bool.and_false, Bool.or_true, Bool.false_eq_true, if_false, ite_self]

theorem LacksDays.selects_eq_false (h : e.LacksDays) {c : Civil} (hc : c.isValid = true) :
    e.selects c = false := by
  rw [Bool.eq_false_iff]
  intro hs
  simp only [selects, Bool.and_eq_true] at hs
  obtain ⟨⟨⟨-, hmonth⟩, -⟩, hday⟩ := hs
  rw [selectsDay_of_dayOfMonth h.dayOfWeek h.dayOfMonth] at hday
  have hshort := h.tooShort _ _ hmonth hday
  have hlong := Date.day_le_longestMonth (Civil.isValid_iff.mp hc).1
  omega

theorem selectsYear_of_token (hr : ∀ f, e.year = some f → Field.read .year f.token = .ok f)
    (hy : ∀ f, e.year = some f → f.token = "*") (y : Nat) : e.selectsYear y = true := by
  cases h : e.year with
  | none => rw [selectsYear, h]
  | some f =>
    have hopen : f.isUnrestricted = true := (Field.isUnrestricted_iff (hr f h)).mpr (.inl (hy f h))
    simp only [selectsYear, h, hopen, Bool.true_or]

theorem exists_day_of_not_lacksDays (hw : e.dayOfWeek.isUnrestricted = true)
    (hd : e.dayOfMonth.isUnrestricted = false) (hdays : ¬ e.LacksDays) :
    ∃ month day : Nat, e.month.selects month = true ∧ e.dayOfMonth.selects day = true ∧
      day ≤ longestMonth month := by
  by_contra hnone
  refine hdays ⟨hw, hd, fun month day hmonth hday => ?_⟩
  by_contra hlong
  exact hnone ⟨month, day, hmonth, hday, Nat.not_lt.mp hlong⟩

variable {source : String} {mode : Mode}

theorem month_within (h : parse source mode = .ok (.expression e)) (hv : e.isValid = true)
    {month : Nat} (hm : e.month.selects month = true) : 1 ≤ month ∧ month ≤ 12 := by
  have hfield : e.field? .month = some e.month := rfl
  have hwithin : 1 ≤ (month : Int) ∧ (month : Int) ≤ 12 := within_of_selects h hv hfield hm
  omega

/-- A schedule that does not lack days has one among any 2921 days in a row. -/
theorem exists_selectsDay (h : parse source mode = .ok (.expression e)) (hv : e.isValid = true)
    (hdays : ¬ e.LacksDays) {n : Nat} (hn : n + 2921 ≤ daysBeforeYear 10000) :
    ∃ d : Date, d.isValid = true ∧ (e.month.selects d.month = true ∧ e.selectsDay d = true) ∧
      n ≤ d.number ∧ d.number < n + 2921 := by
  have hmonthField : e.field? .month = some e.month := rfl
  have hdayField : e.field? .dayOfMonth = some e.dayOfMonth := rfl
  have hweekdayField : e.field? .dayOfWeek = some e.dayOfWeek := rfl
  obtain ⟨month, hmonth⟩ := exists_selects h hv hmonthField
  cases hw : e.dayOfWeek.isUnrestricted with
  | false =>
    obtain ⟨weekday, hweekday⟩ := exists_selects h hv hweekdayField
    have hwithin : 0 ≤ (weekday : Int) ∧ (weekday : Int) ≤ 6 :=
      within_of_selects h hv hweekdayField hweekday
    have hseven : weekday < 7 := by omega
    obtain ⟨d, hd, ⟨hdm, hdw⟩, hmem⟩ :=
      Date.exists_mem_window_of_weekday (month_within h hv hmonth) hseven hn
    exact ⟨d, hd, ⟨hdm ▸ hmonth, selectsDay_of_weekday hw (hdw ▸ hweekday)⟩, hmem⟩
  | true =>
    cases hdom : e.dayOfMonth.isUnrestricted with
    | true =>
      have hseven : 0 < 7 := by decide
      obtain ⟨d, hd, ⟨hdm, -⟩, hmem⟩ :=
        Date.exists_mem_window_of_weekday (month_within h hv hmonth) hseven hn
      refine ⟨d, hd, ⟨hdm ▸ hmonth, ?_⟩, hmem⟩
      simp only [selectsDay, hw, hdom, Bool.and_self, if_true]
    | false =>
      obtain ⟨month, day, hm, hday, hlong⟩ := exists_day_of_not_lacksDays hw hdom hdays
      have hwithin : 1 ≤ (day : Int) ∧ (day : Int) ≤ 31 := within_of_selects h hv hdayField hday
      have hone : 1 ≤ day := by omega
      obtain ⟨d, hd, ⟨hdm, hdd⟩, hmem⟩ :=
        Date.exists_mem_window_of_day (month_within h hv hm) hone hlong hn
      refine ⟨d, hd, ⟨hdm ▸ hm, ?_⟩, hmem⟩
      rw [selectsDay_of_dayOfMonth hw hdom, hdd]
      exact hday

/-- A time of day comes round within a day, and then on each of the days after it. -/
theorem exists_day_after {t time days : Nat} (htime : time < microsecondsPerDay)
    (h : t + days * microsecondsPerDay < daysBeforeYear 10000 * microsecondsPerDay) :
    ∃ n, n + days ≤ daysBeforeYear 10000 ∧ ∀ k, n ≤ k → k < n + days →
      t < k * microsecondsPerDay + time ∧
        k * microsecondsPerDay + time ≤ t + days * microsecondsPerDay := by
  have hperDay : microsecondsPerDay = 86400000000 := rfl
  rw [hperDay] at h htime ⊢
  exact ⟨(t + 86400000000 - time) / 86400000000, by omega, fun k hlow hhigh => ⟨by omega, by omega⟩⟩

/-- A schedule for every year that does not lack days fires within 2921 days of any point of the time
line, at the start of a unit. -/
theorem exists_selects_after (h : parse source mode = .ok (.expression e)) (hv : e.isValid = true)
    (hyear : ∀ f, e.year = some f → f.token = "*") (hdays : ¬ e.LacksDays) {t : Nat}
    (ht : t + 2921 * microsecondsPerDay < daysBeforeYear 10000 * microsecondsPerDay) :
    ∃ c : Civil, c.isValid = true ∧ e.selects c = true ∧
      (c.microsecond = 0 ∧ (mode = .minutes → c.second = 0)) ∧
      t < c.ticks ∧ c.ticks ≤ t + 2921 * microsecondsPerDay := by
  have hsecondField : e.field? .second = some e.second := rfl
  have hminuteField : e.field? .minute = some e.minute := rfl
  have hhourField : e.field? .hour = some e.hour := rfl
  obtain ⟨second, hsecond⟩ := exists_selects h hv hsecondField
  obtain ⟨minute, hminute⟩ := exists_selects h hv hminuteField
  obtain ⟨hour, hhour⟩ := exists_selects h hv hhourField
  have hsecond60 : second < 60 :=
    Nat.lt_succ_of_le (Int.ofNat_le.mp (within_of_selects h hv hsecondField hsecond).2)
  have hminute60 : minute < 60 :=
    Nat.lt_succ_of_le (Int.ofNat_le.mp (within_of_selects h hv hminuteField hminute).2)
  have hhour24 : hour < 24 :=
    Nat.lt_succ_of_le (Int.ofNat_le.mp (within_of_selects h hv hhourField hhour).2)
  have hzero (hm : mode = .minutes) : second = 0 := by
    subst hm
    exact Int.natCast_eq_zero.mp ((second_selects_iff h).mp hsecond)
  have htime : ((hour * 60 + minute) * 60 + second) * microsecondsPerSecond < microsecondsPerDay := by
    have hperSecond : microsecondsPerSecond = 1000000 := rfl
    have hperDay : microsecondsPerDay = 86400000000 := rfl
    rw [hperSecond, hperDay]
    omega
  obtain ⟨n, hn, hall⟩ := exists_day_after htime ht
  obtain ⟨d, hd, ⟨hmonth, hday⟩, hlow, hhigh⟩ := exists_selectsDay h hv hdays hn
  have hyear := selectsYear_of_token (fun f hf => (read_of_field? h hf).2) hyear d.year
  have hmicro : 0 < microsecondsPerSecond := by decide
  refine ⟨⟨d, hour, minute, second, 0⟩, ?_, ?_, ⟨rfl, hzero⟩, ?_⟩
  · exact Civil.isValid_iff.mpr ⟨hd, hhour24, hminute60, hsecond60, hmicro⟩
  · simp only [selects, hsecond, hminute, hhour, hmonth, hyear, hday, Bool.or_true, Bool.and_self]
  · rw [Civil.ticks, Nat.add_zero]
    exact hall d.number hlow hhigh

theorem neverFires_iff_lacksDays (h : parse source mode = .ok (.expression e))
    (hv : e.isValid = true) (hyear : ∀ f, e.year = some f → f.token = "*") :
    e.NeverFires ↔ e.LacksDays := by
  constructor
  · intro hnever
    by_contra hdays
    have hstart : 0 + 2921 * microsecondsPerDay < daysBeforeYear 10000 * microsecondsPerDay := by
      decide
    obtain ⟨c, hc, hs, -⟩ := exists_selects_after h hv hyear hdays hstart
    have hfalse := hnever c hc
    rw [matches?_of_isValid hv, hs] at hfalse
    cases hfalse
  · intro hdays c hc
    rw [matches?_of_isValid hv, hdays.selects_eq_false hc]

end Expression

end CronSchedule
