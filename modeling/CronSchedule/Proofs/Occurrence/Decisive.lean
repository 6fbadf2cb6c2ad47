import CronSchedule.Proofs.Expression.NeverFires
import CronSchedule.Proofs.Occurrence.Ending

/-!
Searches that see enough to say that there is nothing to find. Main statement: a search of 2921 days of
steps for a schedule for every year comes back empty only if the schedule never fires
(`Search.occurrences_one_eq_nil_iff`).
-/

namespace CronSchedule

/-- The steps that a search takes for a day. -/
def Mode.stepsPerDay : Mode → Nat
  | minutes => 1440
  | seconds => 86400

theorem Mode.stepsPerDay_mul_unit (mode : Mode) :
    mode.stepsPerDay * mode.unit = microsecondsPerDay := by
  cases mode <;> rfl

namespace Search

variable {s : Search} {source : String} {mode : Mode}

theorem staysOnCalendar_of_occurrences (hv : s.expression.isValid = true) {count : Int}
    {ts : List Moment} (h : s.occurrences count = .ok ts) : s.StaysOnCalendar count := by
  have hc : count ≤ maxCount := by
    by_contra hlt
    rw [occurrences_of_maxCount_lt (Int.not_le.mp hlt)] at h
    cases h
  by_contra hoff
  rw [occurrences_of_offCalendar hv hc (collect_ending_start.mpr hoff)] at h
  cases h

/-- A search that has found nothing has taken all its steps. -/
theorem limit_of_filter_eq_nil (hw : s.window = none) (hs : s.StaysOnCalendar 1)
    (hnone : (s.ahead s.start).filter s.fires = []) (hb : 0 < s.budget) :
    s.start.cursor.ticks + s.budget.toNat * s.unit < Moment.limit := by
  have hlen := hs.le_length (gaveUpOn_of_window_none hw _) (by rw [hnone]; decide)
  have hleft : s.start.left = s.budget.toNat := rfl
  obtain ⟨i, hi⟩ : ∃ i, s.budget.toNat = i + 1 := ⟨s.budget.toNat - 1, by omega⟩
  rw [hleft, hi] at hlen
  rw [hi]
  exact (Moment.lt_length_ahead.mp (Nat.lt_of_succ_le hlen)).2

theorem mem_ahead_start_of_cursor {t : Moment} (hwhole : t.ticks % s.unit = 0)
    (hlow : s.start.cursor.ticks < t.ticks)
    (hhigh : t.ticks ≤ s.start.cursor.ticks + s.budget.toNat * s.unit) : t ∈ s.ahead s.start := by
  have hcursor : s.start.cursor.ticks = s.reference.clock.ticks - s.reference.clock.ticks % s.unit :=
    rfl
  rw [mem_ahead_start_iff, Moment.ticks_truncate]
  rw [hcursor] at hlow hhigh
  rcases s.unit_eq with hu | hu
  all_goals
    rw [hu] at hwhole hlow hhigh ⊢
    omega

/-- A search of 2921 days of steps finds a schedule for every year that does not lack days. -/
theorem filter_fires_ne_nil (h : parse source mode = .ok (.expression s.expression))
    (hv : s.expression.isValid = true) (hyear : ∀ f, s.expression.year = some f → f.token = "*")
    (hw : s.window = none) (hb : (2921 * mode.stepsPerDay : Nat) ≤ s.budget)
    (hs : s.StaysOnCalendar 1) (hdays : ¬ s.expression.LacksDays) :
    (s.ahead s.start).filter s.fires ≠ [] := by
  intro hnone
  have hmode : s.expression.mode = mode := (forall₂_fields_of_parse h).2.1.2
  have hpos : 0 < mode.stepsPerDay := by cases mode <;> decide
  have hreach : 2921 * microsecondsPerDay ≤ s.budget.toNat * s.unit := by
    rw [← mode.stepsPerDay_mul_unit, ← Nat.mul_assoc, unit, hmode]
    exact Nat.mul_le_mul_right _ (by omega)
  have hlimit := limit_of_filter_eq_nil hw hs hnone (by omega)
  have hroom : s.start.cursor.ticks + 2921 * microsecondsPerDay <
      daysBeforeYear 10000 * microsecondsPerDay :=
    Nat.lt_of_le_of_lt (Nat.add_le_add_left hreach _) hlimit
  obtain ⟨c, hc, hsel, ⟨hmicro, hzero⟩, hlow, hhigh⟩ :=
    Expression.exists_selects_after h hv hyear hdays hroom
  obtain ⟨t, ht, rfl⟩ := Moment.exists_civil_eq hc
  have hwhole : t.ticks % s.unit = 0 :=
    Moment.isWhole_iff.mp ⟨hmicro, fun hm => hzero (hmode.symm.trans hm)⟩
  have hmem : t ∈ (s.ahead s.start).filter s.fires := by
    refine List.mem_filter.mpr ⟨mem_ahead_start_of_cursor hwhole (ht ▸ hlow) ?_, hsel⟩
    exact ht ▸ Nat.le_trans hhigh (Nat.add_le_add_left hreach _)
  rw [hnone] at hmem
  exact List.not_mem_nil hmem

/-- With 2921 days of steps, a search for a schedule for every year comes back empty exactly if the
schedule lacks days and no step leaves the time line; the schedules that lack days are those that never
fire. -/
theorem occurrences_one_eq_nil_iff (h : parse source mode = .ok (.expression s.expression))
    (hv : s.expression.isValid = true) (hyear : ∀ f, s.expression.year = some f → f.token = "*")
    (hw : s.window = none) (hb : (2921 * mode.stepsPerDay : Nat) ≤ s.budget) :
    (s.occurrences 1 = .ok [] → s.expression.NeverFires) ∧
      (s.expression.NeverFires ↔ s.expression.LacksDays) ∧
      (s.occurrences 1 = .ok [] ↔ s.expression.LacksDays ∧ s.StaysOnCalendar 1) := by
  have hnever := Expression.neverFires_iff_lacksDays h hv hyear
  have hempty : s.occurrences 1 = .ok [] ↔ s.expression.LacksDays ∧ s.StaysOnCalendar 1 := by
    constructor
    · intro ho
      have hs := staysOnCalendar_of_occurrences hv ho
      refine ⟨?_, hs⟩
      by_contra hdays
      have hne := filter_fires_ne_nil h hv hyear hw hb hs hdays
      rw [occurrences_of_window_none hv hw hs (by decide), Except.ok.injEq] at ho
      exact absurd ho (by simpa using hne)
    · intro hx
      obtain ⟨hdays, hs⟩ := hx
      rw [occurrences_of_window_none hv hw hs (by decide), Except.ok.injEq]
      have hnone : (s.ahead s.start).filter s.fires = [] :=
        List.filter_eq_nil_iff.mpr fun t _ =>
          Bool.eq_false_iff.mp (hdays.selects_eq_false t.isValid_civil)
      rw [hnone, List.take_nil]
  exact ⟨fun ho => hnever.mpr (hempty.mp ho).1, hnever, hempty⟩

/-- A day that no February has. -/
theorem occurrences_one_eq_nil_iff_february :
    ∃ s : Search, parse "0 12 30 2 * *" .minutes = .ok (.expression s.expression) ∧
      s.expression.isValid = true ∧ (∀ f, s.expression.year = some f → f.token = "*") ∧
      s.window = none ∧ (2921 * Mode.minutes.stepsPerDay : Nat) ≤ s.budget ∧
      s.reference.clock = .epoch ∧
      (s.occurrences 1 = .ok [] → s.expression.NeverFires) ∧
      (s.expression.NeverFires ↔ s.expression.LacksDays) ∧
      (s.occurrences 1 = .ok [] ↔ s.expression.LacksDays ∧ s.StaysOnCalendar 1) := by
  refine ⟨⟨_, ⟨.epoch, none⟩, 2921 * 1440, none⟩, rfl, by decide, ?_, rfl, by decide, rfl, ?_⟩
  · intro f hf
    cases hf
    rfl
  · have hparse : parse "0 12 30 2 * *" .minutes = .ok (.expression _) := rfl
    refine occurrences_one_eq_nil_iff hparse (by decide) ?_ rfl (by decide)
    intro f hf
    cases hf
    rfl

end Search

end CronSchedule
