import CronSchedule.Proofs.Occurrence.Window

/-!
How searches end. Main statement: a search answers with a list, which may be short or empty, unless it
takes a step off the time line or is asked for more than it can count (`Search.occurrences_cases`).
-/

namespace CronSchedule.Search

variable {s : Search} {count : Int}

/-- A search leaves the time line if it has steps left at the end of it, has not found enough by then
and has not given up. -/
theorem not_staysOnCalendar_iff :
    ¬ s.StaysOnCalendar count ↔
      ((s.ahead s.start).length < s.start.left ∧
        ((s.ahead s.start).filter s.fires).length < count) ∧
      s.gaveUpOn (s.ahead s.start) = false := by
  constructor
  · intro h
    simp only [StaysOnCalendar, not_forall] at h
    obtain ⟨k, hk, hoff⟩ := h
    have hbudget := hk.budget
    have hleft : s.start.left = s.budget.toNat := rfl
    have hlen : (s.ahead s.start).length ≤ k := by
      by_contra hlt
      exact hoff (Moment.lt_length_ahead.mp (Nat.not_le.mp hlt)).2
    have hall : s.passed k = s.ahead s.start := by
      rw [passed_eq_take (by omega), List.take_of_length_le hlen]
    have hfound := hk.found
    have hhopeful := hk.hopeful
    rw [hall] at hfound hhopeful
    exact ⟨⟨by omega, hfound⟩, hhopeful⟩
  · intro h hs
    obtain ⟨⟨hleft, hfound⟩, hg⟩ := h
    have hlen := hs.le_length hg hfound
    omega

theorem pull_start_of_gaveUpOn (hg : s.gaveUpOn (s.ahead s.start) = true) :
    s.pull s.start = .finished .gaveUp := by
  rw [pull_start, if_pos hg]

theorem pull_start_openEnded (hg : s.gaveUpOn (s.ahead s.start) = false) :
    s.pull s.start = s.openEnded.pull s.start := by
  rw [pull_start, hg, if_neg Bool.false_ne_true]

/-- A search runs off the time line exactly if one of its steps leaves it. -/
theorem collect_ending_start :
    (s.collect count.toNat s.start).ending = .offCalendar ↔ ¬ s.StaysOnCalendar count := by
  rw [not_staysOnCalendar_iff]
  cases hg : s.gaveUpOn (s.ahead s.start) with
  | true =>
    refine iff_of_false (fun h => ?_) (fun h => Bool.noConfusion h.2)
    cases hn : count.toNat with
    | zero =>
      rw [hn] at h
      cases h
    | succ n =>
      rw [hn, collect, pull_start_of_gaveUpOn hg] at h
      cases h
  | false =>
    have hsteady : s.openEnded.IsSteady s.start.found := .inl rfl
    rw [collect_openEnded (pull_start_openEnded hg), collect_ending count.toNat hsteady,
      and_iff_left rfl]
    refine and_congr_right fun _ => ?_
    change ((s.ahead s.start).filter s.fires).length < count.toNat ↔ _
    omega

/-- A search passes the first of the firings that its steps lead to, or none. -/
theorem collect_moments_start (n : Nat) :
    (s.collect n s.start).moments =
      if s.gaveUpOn (s.ahead s.start) then [] else ((s.ahead s.start).filter s.fires).take n := by
  cases hg : s.gaveUpOn (s.ahead s.start) with
  | true =>
    rw [if_pos rfl]
    cases n with
    | zero => rfl
    | succ n => rw [collect, pull_start_of_gaveUpOn hg]
  | false =>
    have hsteady : s.openEnded.IsSteady s.start.found := .inl rfl
    rw [collect_openEnded (pull_start_openEnded hg), collect_moments n hsteady]
    rfl

theorem occurrences_of_offCalendar (hv : s.expression.isValid = true) (hc : count ≤ maxCount)
    (he : (s.collect count.toNat s.start).ending = .offCalendar) :
    s.occurrences count = .error .offCalendar := by
  simp only [occurrences, harvest_of_isValid hv hc, bind, Except.bind, he]

theorem collect_moments_sublist (n : Nat) :
    List.Sublist (s.collect n s.start).moments ((s.ahead s.start).filter s.fires) := by
  rw [collect_moments_start]
  split
  · exact List.nil_sublist _
  · exact List.take_sublist ..

/-- A search that has found something, or cannot give up, finds all it is asked for or all there is. -/
theorem mem_collect_moments {n : Nat} {t : Moment}
    (h : (s.collect n s.start).moments ≠ [] ∨ s.window = none)
    (hn : (s.collect n s.start).moments.length < n) (ht : t ∈ (s.ahead s.start).filter s.fires) :
    t ∈ (s.collect n s.start).moments := by
  rw [collect_moments_start] at h hn ⊢
  cases hg : s.gaveUpOn (s.ahead s.start) with
  | true =>
    rw [if_pos hg] at h
    rcases h with h | hw
    · exact absurd rfl h
    · rw [gaveUpOn_of_window_none hw] at hg
      cases hg
  | false =>
    rw [if_neg (Bool.eq_false_iff.mp hg)] at hn
    rw [if_neg Bool.false_ne_true]
    have hle : ((s.ahead s.start).filter s.fires).length ≤ n := by
      rw [List.length_take] at hn
      omega
    rwa [List.take_of_length_le hle]

/-- A search that stays on the time line answers with due firings, at most as many as it was asked for;
where it lists fewer and did not give up, there are no others. If it does not stay there, or is asked
for more than it can count, then it has no answer. -/
theorem occurrences_cases (hv : s.expression.isValid = true) (count : Int) :
    (maxCount < count → s.occurrences count = .error .countTooLarge) ∧
      (count ≤ maxCount → ¬ s.StaysOnCalendar count → s.occurrences count = .error .offCalendar) ∧
      (count ≤ maxCount → s.StaysOnCalendar count →
        ∃ ts, s.occurrences count = .ok ts ∧ ts.length ≤ count.toNat ∧
          ts.Pairwise (·.ticks < ·.ticks) ∧ (∀ t ∈ ts, s.IsDue t) ∧
          (ts ≠ [] ∨ s.window = none → ts.length < count.toNat → ∀ t, s.IsDue t → t ∈ ts)) := by
  refine ⟨occurrences_of_maxCount_lt, fun hc hoff => ?_, fun hc hon => ?_⟩
  · exact occurrences_of_offCalendar hv hc (collect_ending_start.mpr hoff)
  · have he : (s.collect count.toNat s.start).ending ≠ .offCalendar := fun he =>
      collect_ending_start.mp he hon
    have hsub := s.collect_moments_sublist count.toNat
    have hsorted : ((s.ahead s.start).filter s.fires).Pairwise (·.ticks < ·.ticks) :=
      (Moment.pairwise_ahead unit_pos).filter s.fires
    refine ⟨_, occurrences_of_ending hv hc he, length_collect_moments_le _, hsorted.sublist hsub,
      fun t ht => ?_, fun h hn t ht => ?_⟩
    · exact (mem_filter_fires_iff hv).mp (hsub.subset ht)
    · exact mem_collect_moments h hn ((mem_filter_fires_iff hv).mpr ht)

theorem occurrences_cases_last_minutes :
    ∃ s : Search, parse "* * * * *" .minutes = .ok (.expression s.expression) ∧
      s.reference.clock.civil = ⟨⟨9999, 12, 31⟩, 23, 58, 0, 0⟩ ∧ s.budget = 10 ∧ s.window = none ∧
      s.expression.isValid = true ∧ ¬ s.StaysOnCalendar 2 ∧
      s.occurrences 2 = .error .offCalendar := by
  refine ⟨⟨_, ⟨⟨315537897480000000, by decide⟩, none⟩, 10, none⟩, rfl, by decide, rfl, rfl, by decide,
    ?_, (occurrences_cases (by decide) 2).2.1 (by decide) ?_⟩
  · exact not_staysOnCalendar_iff.mpr ⟨⟨by decide, by decide⟩, by decide⟩
  · exact not_staysOnCalendar_iff.mpr ⟨⟨by decide, by decide⟩, by decide⟩

/-- A schedule for a day that never comes, looked for in the last minute of the time line. -/
theorem occurrences_impossible_date_offCalendar :
    ∃ s : Search, parse "0 0 30 2 *" .minutes = .ok (.expression s.expression) ∧
      s.expression.isValid = true ∧ s.reference.clock.civil = ⟨⟨9999, 12, 31⟩, 23, 59, 0, 0⟩ ∧
      s.budget = defaultBudget ∧ s.window = some defaultWindow ∧
      s.occurrences 1 = .error .offCalendar :=
  ⟨⟨_, ⟨⟨315537897540000000, by decide⟩, none⟩, defaultBudget, some defaultWindow⟩, rfl, by decide,
    by decide, rfl, rfl, occurrences_of_offCalendar (by decide) (by decide) (by decide)⟩

end CronSchedule.Search
