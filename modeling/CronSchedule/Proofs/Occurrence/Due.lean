import CronSchedule.Proofs.Expression.Matching
import CronSchedule.Proofs.Occurrence.Steps

/-!
What a search without a window answers. Main statement: the first firings, in their order, among
the whole units after the reference that its budget reaches (`Search.occurrences_eq_take_due`).
-/

namespace CronSchedule

namespace Moment

/-- A moment at which a unit of the mode begins. -/
structure IsWhole (mode : Mode) (t : Moment) : Prop where
  microsecond : t.civil.microsecond = 0
  second : mode = .minutes → t.civil.second = 0

theorem isWhole_iff {mode : Mode} {t : Moment} : t.IsWhole mode ↔ t.ticks % mode.unit = 0 := by
  have hmicro : t.civil.microsecond = t.ticks % 86400000000 % 1000000 := rfl
  have hsecond : t.civil.second = t.ticks % 86400000000 / 1000000 % 60 := rfl
  cases mode with
  | minutes =>
    have hunit : Mode.minutes.unit = 60000000 := rfl
    rw [hunit]
    constructor
    · intro h
      obtain ⟨hm, hs⟩ := h
      have := hs rfl
      omega
    · exact fun h => ⟨by omega, fun _ => by omega⟩
  | seconds =>
    have hunit : Mode.seconds.unit = 1000000 := rfl
    rw [hunit]
    exact ⟨fun h => by have := h.microsecond; omega, fun h => ⟨by omega, nofun⟩⟩

end Moment

namespace Search

/-- A firing of the schedule on a whole unit after the reference, as far as the budget goes. -/
structure IsDue (s : Search) (t : Moment) : Prop where
  whole : t.IsWhole s.expression.mode
  matched : s.expression.matches? t.civil = .ok true
  after : s.reference.clock.ticks < t.ticks
  within : (t.ticks : Int) ≤ (s.reference.clock.truncate s.unit).ticks + s.budget * s.unit

/-- Whether a search that has found nothing yet gives up on one of these moments. -/
def gaveUpOn (s : Search) : List Moment → Bool
  | [] => false
  | m :: ms => !s.fires m && (s.givesUpAt m || s.gaveUpOn ms)

/-- The moments that the first `k` steps of a search lead to. -/
def passed (s : Search) (k : Nat) : List Moment :=
  Moment.ahead s.unit k s.start.cursor

/-- A search for `count` firings takes another step after `k` steps. -/
structure Continues (s : Search) (count : Int) (k : Nat) : Prop where
  budget : k < s.budget
  found : ((s.passed k).filter s.fires).length < count
  hopeful : s.gaveUpOn (s.passed k) = false

/-- No step of a search for `count` firings leaves the time line. -/
def StaysOnCalendar (s : Search) (count : Int) : Prop :=
  ∀ k, s.Continues count k → s.start.cursor.ticks + (k + 1) * s.unit < Moment.limit

variable {s : Search}

theorem fires_iff (hv : s.expression.isValid = true) {t : Moment} :
    s.fires t = true ↔ s.expression.matches? t.civil = .ok true := by
  rw [Expression.matches?_of_isValid hv, Except.ok.injEq, fires]

theorem unit_eq : s.unit = 60000000 ∨ s.unit = 1000000 := by
  cases h : s.expression.mode with
  | minutes => exact .inl (by rw [unit, h]; rfl)
  | seconds => exact .inr (by rw [unit, h]; rfl)

theorem unit_pos : 0 < s.unit := by
  have := s.unit_eq
  omega

/-- The moments ahead of the start are the whole units after the reference within the budget. -/
theorem mem_ahead_start_iff {t : Moment} :
    t ∈ s.ahead s.start ↔ t.ticks % s.unit = 0 ∧ s.reference.clock.ticks < t.ticks ∧
      (t.ticks : Int) ≤ (s.reference.clock.truncate s.unit).ticks + s.budget * s.unit := by
  simp only [ahead, start, Moment.mem_ahead_iff, Moment.ticks_truncate]
  generalize s.reference.clock.ticks = r
  rcases s.unit_eq with hu | hu
  all_goals
    rw [hu]
    constructor
    · intro h
      obtain ⟨i, hi, ht⟩ := h
      omega
    · intro h
      obtain ⟨hmod, hafter, hwithin⟩ := h
      -- Both ends are whole units, so the steps between them are the units between them.
      exact ⟨t.ticks / s.unit - r / s.unit - 1, by rw [hu]; omega, by rw [hu]; omega⟩

theorem mem_filter_fires_iff (hv : s.expression.isValid = true) {t : Moment} :
    t ∈ (s.ahead s.start).filter s.fires ↔ s.IsDue t := by
  rw [List.mem_filter, mem_ahead_start_iff, fires_iff hv]
  constructor
  · intro h
    obtain ⟨⟨hwhole, hafter, hwithin⟩, hm⟩ := h
    exact ⟨Moment.isWhole_iff.mpr hwhole, hm, hafter, hwithin⟩
  · intro h
    obtain ⟨hwhole, hm, hafter, hwithin⟩ := h
    exact ⟨⟨Moment.isWhole_iff.mp hwhole, hafter, hwithin⟩, hm⟩

theorem gaveUpOn_of_window_none (hw : s.window = none) (ms : List Moment) :
    s.gaveUpOn ms = false := by
  induction ms with
  | nil => rfl
  | cons m ms ih => simp [gaveUpOn, givesUpAt, hw, ih]

theorem passed_eq_take {k : Nat} (h : k ≤ s.start.left) :
    s.passed k = (s.ahead s.start).take k :=
  (Moment.take_ahead h).symm

/-- A search that goes on to the end of its steps has all of them on the time line. -/
theorem StaysOnCalendar.le_length {count : Int} (h : s.StaysOnCalendar count)
    (hg : s.gaveUpOn (s.ahead s.start) = false)
    (hf : ((s.ahead s.start).filter s.fires).length < count) :
    s.start.left ≤ (s.ahead s.start).length := by
  by_contra hlt
  rw [Nat.not_le] at hlt
  -- The search would go on after the last moment ahead, and that step would be ahead as well.
  have hall : s.passed (s.ahead s.start).length = s.ahead s.start := by
    rw [passed_eq_take (Nat.le_of_lt hlt), List.take_length]
  have hleft : s.start.left = s.budget.toNat := rfl
  have hcont : s.Continues count (s.ahead s.start).length :=
    ⟨by omega, by rwa [hall], by rwa [hall]⟩
  have hnext := h _ hcont
  exact Nat.lt_irrefl _ (Moment.lt_length_ahead.mpr ⟨hlt, hnext⟩)

theorem staysOnCalendar_of_budget {count : Int}
    (h : s.start.cursor.ticks + s.start.left * s.unit < Moment.limit) :
    s.StaysOnCalendar count := by
  intro k hk
  have hleft : s.start.left = s.budget.toNat := rfl
  have hbudget := hk.budget
  have hstep : (k + 1) * s.unit ≤ s.start.left * s.unit := Nat.mul_le_mul_right _ (by omega)
  omega

theorem occurrences_of_maxCount_lt {count : Int} (h : maxCount < count) :
    s.occurrences count = .error .countTooLarge := by
  rw [occurrences, harvest, if_pos h]
  rfl

theorem harvest_of_isValid (hv : s.expression.isValid = true) {count : Int}
    (hc : count ≤ maxCount) : s.harvest count = .ok (s.collect count.toNat s.start) := by
  have hr : s.expression.requireValid = .ok s.expression := if_pos hv
  rw [harvest, if_neg (Int.not_lt.mpr hc), hr]

theorem occurrences_of_ending (hv : s.expression.isValid = true) {count : Int}
    (hc : count ≤ maxCount) (he : (s.collect count.toNat s.start).ending ≠ .offCalendar) :
    s.occurrences count = .ok (s.collect count.toNat s.start).moments := by
  rw [occurrences, harvest_of_isValid hv hc]
  cases hend : (s.collect count.toNat s.start).ending with
  | offCalendar => exact absurd hend he
  | more w => simp only [bind, Except.bind, hend]
  | finished why => simp only [bind, Except.bind, hend]

/-- The firings among the moments ahead are the answer of a search without a window. -/
theorem occurrences_of_window_none (hv : s.expression.isValid = true) (hw : s.window = none)
    {count : Int} (hs : s.StaysOnCalendar count) (hc : count ≤ maxCount) :
    s.occurrences count = .ok (((s.ahead s.start).filter s.fires).take count.toNat) := by
  have hsteady : s.IsSteady s.start.found := .inl hw
  rw [← collect_moments count.toNat hsteady]
  refine occurrences_of_ending hv hc fun he => ?_
  obtain ⟨hleft, hfound⟩ := (collect_ending count.toNat hsteady).mp he
  have hlen := hs.le_length (gaveUpOn_of_window_none hw _) (by omega)
  omega

/-- A search without a window answers with the first of the due firings, unless it is asked for more
than it can count. -/
theorem occurrences_eq_take_due (hv : s.expression.isValid = true) (hw : s.window = none)
    {count : Int} (hs : s.StaysOnCalendar count) :
    ∃ due : List Moment, due.Pairwise (·.ticks < ·.ticks) ∧ (∀ t, t ∈ due ↔ s.IsDue t) ∧
      s.occurrences count =
        if count ≤ maxCount then .ok (due.take count.toNat) else .error .countTooLarge := by
  refine ⟨(s.ahead s.start).filter s.fires, (Moment.pairwise_ahead unit_pos).filter _,
    fun t => mem_filter_fires_iff hv, ?_⟩
  split
  · next hc => exact occurrences_of_window_none hv hw hs hc
  · next hc => exact occurrences_of_maxCount_lt (Int.not_le.mp hc)

theorem occurrences_eq_take_due_quarter_hours :
    ∃ s : Search, parse "*/15 * * * *" .minutes = .ok (.expression s.expression) ∧
      s.reference.clock = .epoch ∧ s.budget = 1000 ∧ s.expression.isValid = true ∧
      s.window = none ∧ s.StaysOnCalendar 3 ∧
      ∃ due : List Moment, due.Pairwise (·.ticks < ·.ticks) ∧ (∀ t, t ∈ due ↔ s.IsDue t) ∧
        s.occurrences 3 =
          if 3 ≤ maxCount then .ok (due.take (3 : Int).toNat) else .error .countTooLarge := by
  refine ⟨⟨_, ⟨.epoch, none⟩, 1000, none⟩, rfl, rfl, rfl, by decide, rfl, ?_, ?_⟩
  · exact staysOnCalendar_of_budget (by decide)
  · exact occurrences_eq_take_due (by decide) rfl (staysOnCalendar_of_budget (by decide))

/-- The first count that is refused, for a schedule that fires every minute. -/
theorem occurrences_every_minute_countTooLarge :
    ∃ s : Search, parse "* * * * *" .minutes = .ok (.expression s.expression) ∧
      s.reference.clock = .epoch ∧ s.budget = 1 ∧ s.window = none ∧
      s.StaysOnCalendar 9223372036854775808 ∧
      s.occurrences 9223372036854775808 = .error .countTooLarge :=
  ⟨⟨_, ⟨.epoch, none⟩, 1, none⟩, rfl, rfl, rfl, rfl, staysOnCalendar_of_budget (by decide), rfl⟩

end Search

end CronSchedule
