import CronSchedule.Proofs.Expression.Modes
import CronSchedule.Proofs.Occurrence.Due
import Mathlib.Data.List.Sort

/-!
Searches by the minute and by the second. Main statement: a schedule of minutes is found at the same
moments if it is looked for second by second, with 60 steps for each of the minutes
(`Search.occurrences_inSeconds`).
-/

namespace CronSchedule

theorem Moment.eq_of_mem_iff {ts ts' : List Moment} (h : ts.Pairwise (·.ticks < ·.ticks))
    (h' : ts'.Pairwise (·.ticks < ·.ticks)) (hmem : ∀ t, t ∈ ts ↔ t ∈ ts') : ts = ts' := by
  have hirrefl : Std.Irrefl fun t t' : Moment => t.ticks < t'.ticks := ⟨fun _ => Nat.lt_irrefl _⟩
  have hantisymm : Std.Antisymm fun t t' : Moment => t.ticks < t'.ticks :=
    ⟨fun _ _ hlt hgt => absurd hlt (Nat.lt_asymm hgt)⟩
  exact h.eq_of_mem_iff h' hmem

namespace Search

variable {s s' : Search}

/-- Searches with the same due firings have the same answers, if they stay on the time line. -/
theorem occurrences_congr (hv : s.expression.isValid = true) (hv' : s'.expression.isValid = true)
    (hw : s.window = none) (hw' : s'.window = none) {count : Int} (hs : s.StaysOnCalendar count)
    (hs' : s'.StaysOnCalendar count) (hdue : ∀ t, s.IsDue t ↔ s'.IsDue t) :
    s.occurrences count = s'.occurrences count := by
  by_cases hc : count ≤ maxCount
  · have hsame : (s.ahead s.start).filter s.fires = (s'.ahead s'.start).filter s'.fires := by
      apply Moment.eq_of_mem_iff
      · exact (Moment.pairwise_ahead unit_pos).filter s.fires
      · exact (Moment.pairwise_ahead unit_pos).filter s'.fires
      · intro t
        rw [mem_filter_fires_iff hv, mem_filter_fires_iff hv', hdue]
    rw [occurrences_of_window_none hv hw hs hc, occurrences_of_window_none hv' hw' hs' hc, hsame]
  · rw [occurrences_of_maxCount_lt (Int.not_le.mp hc), occurrences_of_maxCount_lt (Int.not_le.mp hc)]

/-- No step is longer than a minute. -/
theorem staysOnCalendar_of_minutes {count : Int}
    (h : s.reference.clock.ticks + s.start.left * 60000000 < Moment.limit) :
    s.StaysOnCalendar count := by
  apply staysOnCalendar_of_budget
  have hstart : s.start.cursor.ticks ≤ s.reference.clock.ticks := Nat.sub_le ..
  have hunit : s.unit ≤ 60000000 := by
    have := s.unit_eq
    omega
  have hsteps : s.start.left * s.unit ≤ s.start.left * 60000000 := Nat.mul_le_mul_left _ hunit
  omega

variable {source : String} {e : Expression} {reference : Stamp} {budget : Int}

theorem isDue_inSeconds_iff (h : parse source .minutes = .ok (.expression e))
    (hv : e.isValid = true) {text : String} {t : Moment} :
    IsDue ⟨e.inSeconds text, reference, 60 * budget, none⟩ t ↔
      IsDue ⟨e, reference, budget, none⟩ t := by
  have hmode : e.mode = .minutes := (forall₂_fields_of_parse h).2.1.2
  have hvalid : (e.inSeconds text).isValid = true := (e.isValid_inSeconds text).trans hv
  have hunit : Search.unit ⟨e, reference, budget, none⟩ = 60000000 := by rw [unit, hmode]; rfl
  have hunit' : Search.unit ⟨e.inSeconds text, reference, 60 * budget, none⟩ = 1000000 := rfl
  have hmatched : (e.inSeconds text).matches? t.civil = .ok true ↔
      t.civil.second = 0 ∧ e.matches? t.civil = .ok true := by
    rw [Expression.matches?_of_isValid hvalid, Expression.matches?_of_isValid hv, Except.ok.injEq,
      Except.ok.injEq, selects_inSeconds_iff h]
  constructor
  · intro hd
    obtain ⟨hwhole, hm, hafter, hwithin⟩ := hd
    obtain ⟨hzero, hm⟩ := hmatched.mp hm
    have hminute : t.IsWhole .minutes := ⟨hwhole.microsecond, fun _ => hzero⟩
    have hticks : t.ticks % 60000000 = 0 := Moment.isWhole_iff.mp hminute
    refine ⟨hmode.symm ▸ hminute, hm, hafter, ?_⟩
    simp only [hunit, hunit', Moment.ticks_truncate] at hafter hwithin ⊢
    omega
  · intro hd
    obtain ⟨hwhole, hm, hafter, hwithin⟩ := hd
    have hminute : t.IsWhole .minutes := hmode ▸ hwhole
    refine ⟨⟨hminute.microsecond, fun h => by cases h⟩, hmatched.mpr ⟨hminute.second rfl, hm⟩, hafter, ?_⟩
    simp only [hunit, hunit', Moment.ticks_truncate] at hafter hwithin ⊢
    omega

/-- A schedule of minutes is found at the same moments if it is looked for second by second. -/
theorem occurrences_inSeconds (h : parse source .minutes = .ok (.expression e))
    (hv : e.isValid = true) {count : Int}
    (hs : StaysOnCalendar ⟨e, reference, budget, none⟩ count) :
    ∃ e', parse ("0 " ++ source) .seconds = .ok (.expression e') ∧ e'.isValid = true ∧
      (StaysOnCalendar ⟨e', reference, 60 * budget, none⟩ count →
        occurrences ⟨e', reference, 60 * budget, none⟩ count =
          occurrences ⟨e, reference, budget, none⟩ count) :=
  have hvalid : (e.inSeconds ("0 " ++ source)).isValid = true := (e.isValid_inSeconds _).trans hv
  ⟨_, parse_zero_append h, hvalid, fun hs' =>
    occurrences_congr hvalid hv rfl rfl hs' hs fun _ => isDue_inSeconds_iff h hv⟩

/-- From a reference within a minute. -/
theorem occurrences_inSeconds_weekday_mornings :
    ∃ (e e' : Expression) (reference : Stamp),
      parse "30 9 * * 1-5" .minutes = .ok (.expression e) ∧ e.isValid = true ∧
      reference.clock.civil = ⟨⟨1970, 1, 1⟩, 0, 0, 12, 345678⟩ ∧
      StaysOnCalendar ⟨e, reference, 1000, none⟩ 3 ∧
      parse ("0 " ++ "30 9 * * 1-5") .seconds = .ok (.expression e') ∧ e'.isValid = true ∧
      StaysOnCalendar ⟨e', reference, 60 * 1000, none⟩ 3 ∧
      occurrences ⟨e', reference, 60 * 1000, none⟩ 3 =
        occurrences ⟨e, reference, 1000, none⟩ 3 := by
  have hparse : parse "30 9 * * 1-5" .minutes = .ok (.expression _) := rfl
  have hstays (e : Expression) (budget : Int) (hb : budget ≤ 60000) :
      StaysOnCalendar ⟨e, ⟨⟨62135596812345678, by decide⟩, none⟩, budget, none⟩ 3 := by
    have hlimit : Moment.limit = 315537897600000000 := by decide
    apply staysOnCalendar_of_minutes
    rw [hlimit]
    dsimp only [start]
    omega
  obtain ⟨e', hparse', hv', heq⟩ := occurrences_inSeconds hparse (by decide) (hstays _ 1000 (by decide))
  exact ⟨_, e', _, hparse, by decide, by decide, hstays _ _ (by decide), hparse', hv',
    hstays _ _ (by decide), heq (hstays _ _ (by decide))⟩

end Search

end CronSchedule
