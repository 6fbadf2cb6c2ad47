import CronSchedule.Calendar.Moment
import CronSchedule.Proofs.Calendar.DayNumber

/-!
Readings of a clock and the points of its time line. Main statements: each point is read as a day and
time that there is (`Moment.isValid_civil`), and a reading is found again from its point
(`Civil.ofTicks_ticks`).
-/

namespace CronSchedule

namespace Civil

variable {c : Civil}

theorem isValid_iff :
    c.isValid = true ↔ c.date.isValid = true ∧ c.hour < 24 ∧ c.minute < 60 ∧ c.second < 60 ∧
      c.microsecond < microsecondsPerSecond := by
  simp only [isValid, Bool.and_eq_true, decide_eq_true_eq, and_assoc]

/-- A reading is found again from its point of the time line. -/
theorem ofTicks_ticks (h : c.isValid = true) : ofTicks c.ticks = c := by
  obtain ⟨hdate, hhour, hminute, hsecond, hmicro⟩ := isValid_iff.mp h
  obtain ⟨date, hour, minute, second, micro⟩ := c
  dsimp only at hdate hhour hminute hsecond hmicro
  have hperSecond : microsecondsPerSecond = 1000000 := rfl
  have hperDay : microsecondsPerDay = 86400000000 := rfl
  simp only [ofTicks, ticks, hperSecond, hperDay] at hmicro ⊢
  have hday : (date.number * 86400000000 + ((hour * 60 + minute) * 60 + second) * 1000000 + micro) /
      86400000000 = date.number := by omega
  rw [hday, Date.ofNumber_number hdate, mk.injEq]
  exact ⟨rfl, by omega, by omega, by omega, by omega⟩

theorem ticks_lt (h : c.isValid = true) : c.ticks < daysBeforeYear 10000 * microsecondsPerDay := by
  obtain ⟨hdate, hhour, hminute, hsecond, hmicro⟩ := isValid_iff.mp h
  have hyear : daysBeforeYear (c.date.year + 1) ≤ daysBeforeYear 10000 :=
    daysBeforeYear_mono (Nat.succ_le_succ (Date.isValid_iff.mp hdate).1.2)
  have hnumber := Date.number_lt hdate
  have hperSecond : microsecondsPerSecond = 1000000 := rfl
  have hperDay : microsecondsPerDay = 86400000000 := rfl
  simp only [ticks, hperSecond, hperDay] at hmicro ⊢
  omega

theorem ticks_ofTicks {n : Nat} (h : n < daysBeforeYear 10000 * microsecondsPerDay) :
    (ofTicks n).ticks = n := by
  have hperSecond : microsecondsPerSecond = 1000000 := rfl
  have hperDay : microsecondsPerDay = 86400000000 := rfl
  have hnumber : n / microsecondsPerDay < daysBeforeYear 10000 :=
    Nat.div_lt_of_lt_mul (Nat.mul_comm .. ▸ h)
  rw [ofTicks, ticks]
  simp only [Date.number_ofNumber hnumber]
  rw [hperSecond, hperDay]
  omega

end Civil

/-- A number of microseconds since the start of year 1 leads to a point of the time line. -/
def OnTimeLine (n : Int) : Prop :=
  0 ≤ n ∧ n < daysBeforeYear 10000 * microsecondsPerDay

instance (n : Int) : Decidable (OnTimeLine n) :=
  inferInstanceAs (Decidable (_ ∧ _))

namespace Moment

theorem ext_ticks {m m' : Moment} (h : m.ticks = m'.ticks) : m = m' := by
  cases m
  cases m'
  cases h
  rfl

theorem onTimeLine (m : Moment) : OnTimeLine m.ticks :=
  ⟨Int.natCast_nonneg _, by exact_mod_cast m.ticks_lt⟩

theorem number_lt (m : Moment) : m.ticks / microsecondsPerDay < daysBeforeYear 10000 :=
  Nat.div_lt_of_lt_mul (Nat.mul_comm .. ▸ m.ticks_lt)

/-- Each point of the time line is read as a day and time that there is. -/
theorem isValid_civil (m : Moment) : m.civil.isValid = true := by
  have hperSecond : microsecondsPerSecond = 1000000 := rfl
  have hperDay : microsecondsPerDay = 86400000000 := rfl
  refine Civil.isValid_iff.mpr ⟨Date.isValid_ofNumber m.number_lt, ?_, ?_, ?_, ?_⟩
  all_goals
    simp only [civil, Civil.ofTicks, hperSecond, hperDay]
    omega

theorem ticks_civil (m : Moment) : m.civil.ticks = m.ticks :=
  Civil.ticks_ofTicks m.ticks_lt

theorem moment?_civil (m : Moment) : m.civil.moment? = some m := by
  rw [Civil.moment?, dif_pos ⟨m.isValid_civil, m.ticks_civil ▸ m.ticks_lt⟩]
  exact congrArg some (ext_ticks m.ticks_civil)

theorem exists_civil_eq {c : Civil} (h : c.isValid = true) :
    ∃ m : Moment, m.ticks = c.ticks ∧ m.civil = c :=
  ⟨⟨c.ticks, Civil.ticks_lt h⟩, rfl, Civil.ofTicks_ticks h⟩

theorem shift?_eq_some_iff {m next : Moment} {d : Int} :
    m.shift? d = some next ↔ (next.ticks : Int) = m.ticks + d := by
  have hnext := next.ticks_lt
  simp only [shift?]
  split
  · rw [Option.some.injEq]
    constructor
    · rintro rfl
      simp only
      omega
    · exact fun h => ext_ticks (by simp only; omega)
  · next h =>
    refine iff_of_false nofun fun ht => h ?_
    omega

theorem shift?_eq_none_iff {m : Moment} {d : Int} : m.shift? d = none ↔ ¬ OnTimeLine (m.ticks + d) := by
  simp only [shift?, OnTimeLine]
  split
  · refine iff_of_false nofun ?_
    omega
  · refine iff_of_true rfl ?_
    omega

end Moment

end CronSchedule
