import CronSchedule.Proofs.Occurrence.Due
import Mathlib.Order.Bounds.Defs

/-!
What the window of a search changes. Main statement: nothing, if the schedule fires up to the first
step after the window, and otherwise there is no answer but the empty one
(`Search.occurrences_of_window`).
-/

namespace CronSchedule.Search

/-- The same search without a window. -/
def openEnded (s : Search) : Search :=
  { s with window := none }

/-- A step leads to a moment that is further from the reference than the window reaches. -/
structure Overdue (s : Search) (w : Duration) (k : Nat) : Prop where
  one_le : 1 ≤ k
  exceeds : w.micros <
    (s.reference.clock.truncate s.unit).ticks + (k * s.unit : Int) - s.reference.clock.ticks

/-- The first step that leads past the window. -/
def lastChance (s : Search) (w : Duration) : Nat :=
  (w.micros + (s.reference.clock.ticks % s.unit : Nat)).toNat / s.unit + 1

/-- The schedule fires where a step leads. -/
def MatchesAt (s : Search) (k : Nat) : Prop :=
  ∃ t : Moment, t.ticks = (s.reference.clock.truncate s.unit).ticks + k * s.unit ∧
    s.expression.matches? t.civil = .ok true

/-- The first firing after the reference comes within `k` steps. -/
def MatchesBy (s : Search) (k : Nat) : Prop :=
  ∃ j, 1 ≤ j ∧ j ≤ k ∧ s.MatchesAt j

variable {s : Search} {w : Duration}

theorem overdue_iff {k : Nat} : s.Overdue w k ↔ s.lastChance w ≤ k := by
  have hiff : s.Overdue w k ↔ 1 ≤ k ∧ w.micros <
      (s.reference.clock.truncate s.unit).ticks + (k * s.unit : Int) - s.reference.clock.ticks :=
    ⟨fun h => ⟨h.1, h.2⟩, fun h => ⟨h.1, h.2⟩⟩
  rw [hiff, lastChance, Moment.ticks_truncate]
  rcases s.unit_eq with hu | hu
  all_goals
    rw [hu]
    omega

theorem isLeast_lastChance : IsLeast {k | s.Overdue w k} (s.lastChance w) :=
  ⟨overdue_iff.mpr (Nat.le_refl _), fun _ hk => overdue_iff.mp hk⟩

/-- A window of whole units ends after as many steps, wherever in a unit the reference lies. -/
theorem lastChance_of_whole {n : Nat} (h : w.micros = n * s.unit) : s.lastChance w = n + 1 := by
  have hmod := Nat.mod_lt s.reference.clock.ticks s.unit_pos
  have hsum : (w.micros + (s.reference.clock.ticks % s.unit : Nat)).toNat =
      s.reference.clock.ticks % s.unit + n * s.unit := by
    rw [h]
    omega
  rw [lastChance, hsum, Nat.add_mul_div_right _ _ s.unit_pos, Nat.div_eq_of_lt hmod, Nat.zero_add]

theorem advance_openEnded {found : Nat} (h : 0 < found) (left : Nat) (cursor : Moment) :
    s.advance found left cursor = s.openEnded.advance found left cursor := by
  induction left generalizing cursor with
  | zero => rfl
  | succ left ih =>
    have hne : found ≠ 0 := Nat.ne_of_gt h
    simp only [advance, hne, false_and, if_false, ih]
    rfl

theorem collect_openEnded {w : Walk} (h : s.pull w = s.openEnded.pull w) (n : Nat) :
    s.collect n w = s.openEnded.collect n w := by
  induction n generalizing w with
  | zero => rfl
  | succ n ih =>
    have htells := pull_tells (s := s.openEnded) (w := w) (.inl rfl)
    simp only [collect, h]
    split
    · next m rest hp =>
      rw [hp] at htells
      -- A walk that has found something never looks at its window again.
      have hfound : 0 < rest.found := htells.1 ▸ Nat.succ_pos w.found
      rw [ih (advance_openEnded hfound rest.left rest.cursor)]
    · rfl
    · rfl

/-- Up to its first firing a search either gives up or goes as one without a window. -/
theorem advance_zero (left : Nat) (cursor : Moment) :
    s.advance 0 left cursor =
      if s.gaveUpOn (Moment.ahead s.unit left cursor) then .finished .gaveUp
      else s.openEnded.advance 0 left cursor := by
  induction left generalizing cursor with
  | zero => rfl
  | succ left ih =>
    have hu : s.openEnded.unit = s.unit := rfl
    have hf : s.openEnded.fires = s.fires := rfl
    have hg (m : Moment) : s.openEnded.givesUpAt m = false := rfl
    simp only [advance, Moment.ahead, hu, hf, hg]
    cases cursor.shift? s.unit with
    | none => rfl
    | some next =>
      cases hn : s.fires next <;> cases hw : s.givesUpAt next <;> simp [gaveUpOn, hn, hw, ih]

theorem pull_start :
    s.pull s.start =
      if s.gaveUpOn (s.ahead s.start) then .finished .gaveUp else s.openEnded.pull s.start :=
  advance_zero s.start.left s.start.cursor

theorem occurrences_of_gaveUpOn (hv : s.expression.isValid = true) {count : Int} (hc : 1 ≤ count)
    (hm : count ≤ maxCount) (hg : s.gaveUpOn (s.ahead s.start) = true) :
    s.occurrences count = .ok [] := by
  obtain ⟨n, hn⟩ : ∃ n, count.toNat = n + 1 := ⟨count.toNat - 1, by omega⟩
  have hcollect : s.collect count.toNat s.start = ⟨[], .finished .gaveUp⟩ := by
    rw [hn, collect, pull_start, if_pos hg]
  have hending : (s.collect count.toNat s.start).ending ≠ .offCalendar := by
    rw [hcollect]
    intro h
    cases h
  rw [occurrences_of_ending hv hm hending, hcollect]

theorem occurrences_openEnded (hg : s.gaveUpOn (s.ahead s.start) = false) (count : Int) :
    s.occurrences count = s.openEnded.occurrences count := by
  have hpull : s.pull s.start = s.openEnded.pull s.start := by
    rw [pull_start, hg, if_neg Bool.false_ne_true]
  have hcollect := collect_openEnded hpull count.toNat
  simp only [occurrences, harvest, hcollect]
  rfl

theorem gaveUpOn_take {ms : List Moment} (h : s.gaveUpOn ms = false) (k : Nat) :
    s.gaveUpOn (ms.take k) = false := by
  induction ms generalizing k with
  | nil => rw [List.take_nil, h]
  | cons m ms ih =>
    cases k with
    | zero => rfl
    | succ k =>
      simp only [List.take_succ_cons, gaveUpOn, Bool.and_eq_false_iff, Bool.or_eq_false_iff] at h ⊢
      exact h.imp_right fun h => ⟨h.1, ih h.2 k⟩

/-- Without giving up a search takes the same steps as one without a window. -/
theorem StaysOnCalendar.openEnded {count : Int} (h : s.StaysOnCalendar count)
    (hg : s.gaveUpOn (s.ahead s.start) = false) : s.openEnded.StaysOnCalendar count := by
  intro k hk
  have hbudget : (k : Int) < s.budget := hk.budget
  have hleft : s.start.left = s.budget.toNat := rfl
  refine h k ⟨hbudget, hk.found, ?_⟩
  rw [passed_eq_take (by omega)]
  exact gaveUpOn_take hg k

/-- A search gives up at the first moment past the window, if nothing fires up to it. -/
theorem gaveUpOn_iff {ms : List Moment} :
    s.gaveUpOn ms = true ↔ ∃ (i : Nat) (m : Moment), ms[i]? = some m ∧ s.givesUpAt m = true ∧
      ∀ j ≤ i, ∀ t, ms[j]? = some t → s.fires t = false := by
  induction ms with
  | nil => simp [gaveUpOn]
  | cons m ms ih =>
    simp only [gaveUpOn, Bool.and_eq_true, Bool.not_eq_true', Bool.or_eq_true, ih]
    constructor
    · intro h
      obtain ⟨hf, hm | ⟨i, m', hi, hg, hall⟩⟩ := h
      · refine ⟨0, m, rfl, hm, fun j hj t ht => ?_⟩
        obtain rfl := Nat.le_zero.mp hj
        cases ht
        exact hf
      · refine ⟨i + 1, m', hi, hg, fun j hj t ht => ?_⟩
        cases j with
        | zero =>
          cases ht
          exact hf
        | succ j => exact hall j (Nat.le_of_succ_le_succ hj) t ht
    · intro h
      obtain ⟨i, m', hi, hg, hall⟩ := h
      refine ⟨hall 0 (Nat.zero_le i) m rfl, ?_⟩
      cases i with
      | zero =>
        cases hi
        exact .inl hg
      | succ i => exact .inr ⟨i, m', hi, hg, fun j hj => hall (j + 1) (Nat.succ_le_succ hj)⟩

theorem getElem?_ahead_start {i : Nat} {t : Moment} :
    (s.ahead s.start)[i]? = some t ↔ i < s.start.left ∧
      t.ticks = (s.reference.clock.truncate s.unit).ticks + (i + 1) * s.unit :=
  Moment.getElem?_ahead_eq_some

theorem fires_eq_false_of_not_matchesBy (hv : s.expression.isValid = true) {i k : Nat}
    {t : Moment} (hm : ¬ s.MatchesBy k) (hi : (s.ahead s.start)[i]? = some t) (hk : i < k) :
    s.fires t = false := by
  rw [Bool.eq_false_iff]
  intro hf
  exact hm ⟨i + 1, Nat.succ_pos i, hk, t, (getElem?_ahead_start.mp hi).2, (fires_iff hv).mp hf⟩

theorem givesUpAt_iff (hw : s.window = some w) {i : Nat} {t : Moment}
    (hi : (s.ahead s.start)[i]? = some t) : s.givesUpAt t = true ↔ s.lastChance w ≤ i + 1 := by
  have ht := (getElem?_ahead_start.mp hi).2
  rw [← overdue_iff, givesUpAt, hw, decide_eq_true_iff, ht, Int.natCast_add, Int.natCast_mul]
  exact ⟨fun h => ⟨Nat.succ_pos i, h⟩, fun h => h.exceeds⟩

/-- A search gives up if its steps go past the window and the schedule does not fire before. -/
theorem gaveUpOn_ahead_iff (hv : s.expression.isValid = true) (hw : s.window = some w) :
    s.gaveUpOn (s.ahead s.start) = true ↔
      s.lastChance w ≤ (s.ahead s.start).length ∧ ¬ s.MatchesBy (s.lastChance w) := by
  rw [gaveUpOn_iff]
  constructor
  · intro h
    obtain ⟨i, m, hi, hg, hall⟩ := h
    have hlast := (givesUpAt_iff hw hi).mp hg
    obtain ⟨hlen, -⟩ := List.getElem?_eq_some_iff.mp hi
    refine ⟨Nat.le_trans hlast hlen, ?_⟩
    intro h
    obtain ⟨j, hj, hjk, t, ht, hmatch⟩ := h
    have hleft := (getElem?_ahead_start.mp hi).1
    have hat : (s.ahead s.start)[j - 1]? = some t :=
      getElem?_ahead_start.mpr ⟨by omega, by rw [ht, Nat.sub_add_cancel hj]⟩
    have hfalse := hall (j - 1) (by omega) t hat
    rw [(fires_iff hv).mpr hmatch] at hfalse
    cases hfalse
  · intro h
    obtain ⟨hlen, hm⟩ := h
    have hlast : s.lastChance w - 1 + 1 = s.lastChance w := rfl
    have hi : s.lastChance w - 1 < (s.ahead s.start).length := by omega
    have hat := List.getElem?_eq_getElem hi
    refine ⟨s.lastChance w - 1, _, hat, (givesUpAt_iff hw hat).mpr (Nat.le_of_eq hlast.symm), ?_⟩
    exact fun j hj t ht => fires_eq_false_of_not_matchesBy hv hm ht (by omega)

theorem filter_fires_eq_nil (hv : s.expression.isValid = true) {k : Nat} (hm : ¬ s.MatchesBy k)
    (hk : (s.ahead s.start).length ≤ k) : (s.ahead s.start).filter s.fires = [] := by
  rw [List.filter_eq_nil_iff]
  intro t ht
  obtain ⟨i, hi, rfl⟩ := List.mem_iff_getElem.mp ht
  rw [Bool.not_eq_true]
  exact fires_eq_false_of_not_matchesBy hv hm (List.getElem?_eq_getElem hi) (by omega)

/-- A window leaves the answer as it is if the schedule fires up to the first step past it, and
leaves nothing of it otherwise. A search that is asked for more than it can count has no answer. -/
theorem occurrences_of_window (hv : s.expression.isValid = true) (hw : s.window = some w)
    {count : Int} (hc : 1 ≤ count) (hs : s.StaysOnCalendar count) :
    ∃ k, IsLeast {k | s.Overdue w k} k ∧ (∀ n : Nat, w.micros = n * s.unit → k = n + 1) ∧
      (count ≤ maxCount → ∃ ts, s.occurrences count = .ok ts ∧
        (s.MatchesBy k → s.openEnded.occurrences count = .ok ts) ∧
        (¬ s.MatchesBy k → ts = []) ∧
        (ts ≠ [] → s.openEnded.occurrences count = .ok ts)) ∧
      (maxCount < count → s.occurrences count = .error .countTooLarge) := by
  refine ⟨s.lastChance w, isLeast_lastChance, fun n => lastChance_of_whole, fun hm => ?_,
    occurrences_of_maxCount_lt⟩
  cases hg : s.gaveUpOn (s.ahead s.start) with
  | true =>
    obtain ⟨-, hnone⟩ := (gaveUpOn_ahead_iff hv hw).mp hg
    exact ⟨[], occurrences_of_gaveUpOn hv hc hm hg, fun h => absurd h hnone, fun _ => rfl,
      fun h => absurd rfl h⟩
  | false =>
    have hsame := occurrences_openEnded hg count
    have hopen := occurrences_of_window_none (s := s.openEnded) hv rfl (hs.openEnded hg) hm
    refine ⟨_, hsame.trans hopen, fun _ => hopen, fun hnone => ?_, fun _ => hopen⟩
    have hshort : (s.ahead s.start).length < s.lastChance w := by
      by_contra hlen
      rw [(gaveUpOn_ahead_iff hv hw).mpr ⟨Nat.not_lt.mp hlen, hnone⟩] at hg
      cases hg
    have hnil := filter_fires_eq_nil hv hnone (Nat.le_of_lt hshort)
    exact (congrArg (List.take count.toNat) hnil).trans List.take_nil

theorem occurrences_of_window_half_hours :
    ∃ s : Search, parse "30 * * * *" .minutes = .ok (.expression s.expression) ∧
      s.reference.clock = .epoch ∧ s.budget = 1000 ∧ s.expression.isValid = true ∧
      s.window = some ⟨29 * 60000000⟩ ∧ s.StaysOnCalendar 2 ∧
      ∃ k, IsLeast {k | s.Overdue ⟨29 * 60000000⟩ k} k ∧
        (∀ n : Nat, (29 * 60000000 : Int) = n * s.unit → k = n + 1) ∧
        (2 ≤ maxCount → ∃ ts, s.occurrences 2 = .ok ts ∧
          (s.MatchesBy k → s.openEnded.occurrences 2 = .ok ts) ∧
          (¬ s.MatchesBy k → ts = []) ∧ (ts ≠ [] → s.openEnded.occurrences 2 = .ok ts)) ∧
        (maxCount < 2 → s.occurrences 2 = .error .countTooLarge) := by
  refine ⟨⟨_, ⟨.epoch, none⟩, 1000, some ⟨29 * 60000000⟩⟩, rfl, rfl, rfl, by decide, rfl, ?_, ?_⟩
  · exact staysOnCalendar_of_budget (by decide)
  · exact occurrences_of_window (by decide) rfl (by decide) (staysOnCalendar_of_budget (by decide))

/-- The first count that is refused, where the window leaves nothing to find. -/
theorem occurrences_closed_window_countTooLarge :
    ∃ s : Search, parse "30 * * * *" .minutes = .ok (.expression s.expression) ∧
      s.reference.clock = .epoch ∧ s.budget = 10 ∧ s.window = some ⟨0⟩ ∧
      s.StaysOnCalendar 9223372036854775808 ∧
      s.occurrences 9223372036854775808 = .error .countTooLarge :=
  ⟨⟨_, ⟨.epoch, none⟩, 10, some ⟨0⟩⟩, rfl, rfl, rfl, rfl, staysOnCalendar_of_budget (by decide),
    rfl⟩

end CronSchedule.Search
