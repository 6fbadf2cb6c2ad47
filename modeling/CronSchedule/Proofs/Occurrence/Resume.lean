import CronSchedule.Proofs.Occurrence.Decisive

/-!
Searches that are taken up again. Main statement: after any of its firings a search goes on as one that
starts there, with the steps that are left and no window (`Search.occurrences_eq_take_append`).
-/

namespace CronSchedule

/-- The member of a filtered list at a place, with what comes before and after it in the whole list. -/
theorem exists_eq_append_cons_of_filter {α : Type} {p : α → Bool} {l : List α} {i : Nat}
    (h : i < (l.filter p).length) :
    ∃ before x after, l = before ++ x :: after ∧ (before.filter p).length = i ∧
      l.filter p = before.filter p ++ x :: after.filter p := by
  have hsplit : l.filter p = (l.filter p).take i ++ (l.filter p)[i] :: (l.filter p).drop (i + 1) := by
    rw [← List.drop_eq_getElem_cons h, List.take_append_drop]
  obtain ⟨first, rest, hl, hfirst, hrest⟩ := List.filter_eq_append_iff.mp hsplit
  obtain ⟨missed, after, rfl, hmissed, -, hafter⟩ := List.filter_eq_cons_iff.mp hrest
  have hbefore : (first ++ missed).filter p = (l.filter p).take i := by
    rw [List.filter_append, List.filter_eq_nil_iff.mpr hmissed, List.append_nil, hfirst]
  refine ⟨first ++ missed, _, after, hl.trans (List.append_assoc ..).symm, ?_, ?_⟩
  · rw [hbefore, List.length_take_of_le (Nat.le_of_lt h)]
  · rw [hbefore, hafter, ← hsplit]

namespace Moment

/-- The moments ahead of one of the moments ahead are those that follow it. -/
theorem ahead_of_eq_append_cons {unit n : Nat} {m t : Moment} {before after : List Moment}
    (h : ahead unit n m = before ++ t :: after) : ahead unit (n - (before.length + 1)) t = after := by
  induction before generalizing n m with
  | nil =>
    cases n with
    | zero => cases h
    | succ n =>
      simp only [ahead] at h
      split at h
      · cases h
      · cases h
        rfl
  | cons _ before ih =>
    cases n with
    | zero => cases h
    | succ n =>
      simp only [ahead] at h
      split at h
      · cases h
      · rw [List.length_cons, Nat.succ_sub_succ]
        exact ih (List.cons.inj h).2

end Moment

namespace Search

/-- The search for what follows a firing that `k` steps have led to. -/
def resumed (s : Search) (t : Moment) (k : Nat) : Search :=
  { s with reference := s.stamp t, budget := s.budget - k, window := none }

/-- Step `k` of a search leads to the moment. -/
structure ReachedAt (s : Search) (k : Nat) (t : Moment) : Prop where
  one_le : 1 ≤ k
  within : k ≤ s.budget
  ticks : t.ticks = (s.reference.clock.truncate s.unit).ticks + k * s.unit

variable {s : Search} {t : Moment} {k : Nat} {count : Int} {ts : List Moment}

theorem ReachedAt.step_eq {j : Nat} (h : s.ReachedAt j t) (h' : s.ReachedAt k t) : j = k :=
  Nat.eq_of_mul_eq_mul_right s.unit_pos (Nat.add_left_cancel (h.ticks.symm.trans h'.ticks))

theorem ReachedAt.truncate_eq (h : s.ReachedAt k t) : t.truncate s.unit = t := by
  apply Moment.ext_ticks
  have ht := h.ticks
  rw [Moment.ticks_truncate] at ht ⊢
  rcases s.unit_eq with hu | hu
  all_goals
    rw [hu] at ht ⊢
    omega

theorem reachedAt_of_ahead_start {before after : List Moment}
    (h : s.ahead s.start = before ++ t :: after) : s.ReachedAt (before.length + 1) t := by
  have hat : (s.ahead s.start)[before.length]? = some t := by
    rw [h, List.getElem?_append_right (Nat.le_refl _), Nat.sub_self, List.getElem?_cons_zero]
  obtain ⟨hleft, ht⟩ := getElem?_ahead_start.mp hat
  have hbudget : s.start.left = s.budget.toNat := rfl
  exact ⟨Nat.succ_pos _, by omega, ht⟩

/-- What lies ahead of the search that goes on is what lies behind the firing. -/
theorem ahead_start_resumed {before after : List Moment}
    (h : s.ahead s.start = before ++ t :: after) :
    (s.resumed t (before.length + 1)).ahead (s.resumed t (before.length + 1)).start = after := by
  have hleft : (s.budget - (before.length + 1 : Nat)).toNat = s.budget.toNat - (before.length + 1) := by
    omega
  have hcursor := (reachedAt_of_ahead_start h).truncate_eq
  rw [← Moment.ahead_of_eq_append_cons h]
  change Moment.ahead s.unit (s.budget - (before.length + 1 : Nat)).toNat (t.truncate s.unit) = _
  rw [hleft, hcursor]
  rfl

theorem le_maxCount_of_occurrences (h : s.occurrences count = .ok ts) : count ≤ maxCount := by
  by_contra hlt
  rw [occurrences_of_maxCount_lt (Int.not_le.mp hlt)] at h
  cases h

/-- A search that found something found the first of the firings ahead of it. -/
theorem eq_take_of_occurrences (hv : s.expression.isValid = true) (h : s.occurrences count = .ok ts)
    (hne : ts ≠ []) :
    s.gaveUpOn (s.ahead s.start) = false ∧ ts = ((s.ahead s.start).filter s.fires).take count.toNat := by
  have hs := staysOnCalendar_of_occurrences hv h
  rw [occurrences_of_ending hv (le_maxCount_of_occurrences h) fun he => collect_ending_start.mp he hs,
    collect_moments_start] at h
  cases hg : s.gaveUpOn (s.ahead s.start) with
  | true =>
    rw [hg, if_pos rfl] at h
    cases h
    exact absurd rfl hne
  | false =>
    rw [hg, if_neg Bool.false_ne_true] at h
    exact ⟨rfl, (Except.ok.inj h).symm⟩

theorem StaysOnCalendar.resumed {before after : List Moment} {m n : Int}
    (hs : s.StaysOnCalendar (m + n)) (hg : s.gaveUpOn (s.ahead s.start) = false)
    (h : s.ahead s.start = before ++ t :: after)
    (hm : ((s.ahead s.start).filter s.fires).length ≤ m + (after.filter s.fires).length) :
    (s.resumed t (before.length + 1)).StaysOnCalendar n := by
  by_contra hoff
  obtain ⟨⟨hleft, hfound⟩, -⟩ := not_staysOnCalendar_iff.mp hoff
  have hbudget := (reachedAt_of_ahead_start h).within
  have hstart : s.start.left = s.budget.toNat := rfl
  have hrest : (s.resumed t (before.length + 1)).start.left =
      (s.budget - (before.length + 1 : Nat)).toNat := rfl
  have hfires : (s.resumed t (before.length + 1)).fires = s.fires := rfl
  rw [ahead_start_resumed h] at hleft hfound
  rw [hfires] at hfound
  refine not_staysOnCalendar_iff.mpr ⟨⟨?_, by omega⟩, hg⟩ hs
  rw [h, List.length_append, List.length_cons]
  omega

/-- After any of its firings a search goes on as one that starts there, with the steps that are left
and no window. -/
theorem occurrences_eq_take_append (hv : s.expression.isValid = true) {m n : Int} (hm : 1 ≤ m)
    (hn : 0 ≤ n) (h : s.occurrences (m + n) = .ok ts) (hlen : m ≤ ts.length) :
    ∃ t k, ts[m.toNat - 1]? = some t ∧ (∀ j, s.ReachedAt j t ↔ j = k) ∧
      ∃ rest, (s.resumed t k).occurrences n = .ok rest ∧ ts = ts.take m.toNat ++ rest := by
  obtain ⟨i, hi⟩ : ∃ i, m.toNat = i + 1 := ⟨m.toNat - 1, by omega⟩
  have hne : ts ≠ [] := by
    rintro rfl
    rw [List.length_nil] at hlen
    omega
  obtain ⟨hg, hts⟩ := eq_take_of_occurrences hv h hne
  have hlt : i < ((s.ahead s.start).filter s.fires).length := by
    rw [hts, List.length_take] at hlen
    omega
  -- the steps up to the firing are `before` and one more; what lies behind it is `after`
  obtain ⟨before, t, after, hahead, hbefore, hfilter⟩ := exists_eq_append_cons_of_filter hlt
  have hreached := reachedAt_of_ahead_start hahead
  have hstays : (s.resumed t (before.length + 1)).StaysOnCalendar n := by
    refine (staysOnCalendar_of_occurrences hv h).resumed hg hahead ?_
    rw [hfilter, List.length_append, List.length_cons]
    omega
  have hmax := le_maxCount_of_occurrences h
  have hrest : (s.resumed t (before.length + 1)).occurrences n =
      .ok ((after.filter s.fires).take n.toNat) := by
    rw [occurrences_of_window_none (s := s.resumed t _) hv rfl hstays (by omega),
      ahead_start_resumed hahead]
    rfl
  have hwhole : ts = before.filter s.fires ++ t :: (after.filter s.fires).take n.toNat := by
    have hcount : (m + n).toNat = (before.filter s.fires).length + (n.toNat + 1) := by omega
    rw [hts, hfilter, hcount, List.take_length_add_append, List.take_succ_cons]
  refine ⟨t, before.length + 1, ?_, fun j => ⟨fun hj => hj.step_eq hreached, ?_⟩, _, hrest, ?_⟩
  · rw [hwhole, hi, Nat.add_sub_cancel, ← hbefore, List.getElem?_append_right (Nat.le_refl _),
      Nat.sub_self, List.getElem?_cons_zero]
  · rintro rfl
    exact hreached
  · rw [hwhole, hi, ← hbefore, List.take_length_add_append, List.take_succ_cons, List.take_zero,
      ← List.append_cons]

/-- From a reference within a minute, with a window that ends before the firings do. -/
theorem occurrences_eq_take_append_five_minutes :
    ∃ s : Search, parse "*/5 * * * *" .minutes = .ok (.expression s.expression) ∧
      s.reference.clock.civil = ⟨⟨1970, 1, 1⟩, 0, 0, 12, 345678⟩ ∧ s.budget = 20 ∧
      s.window = some ⟨360000000⟩ ∧ s.expression.isValid = true ∧
      ∃ ts : List Moment, s.occurrences (2 + 1) = .ok ts ∧ (2 : Int) ≤ ts.length ∧
        ∃ t k, ts[(2 : Int).toNat - 1]? = some t ∧ (∀ j, s.ReachedAt j t ↔ j = k) ∧
          ∃ rest, (s.resumed t k).occurrences 1 = .ok rest ∧ ts = ts.take (2 : Int).toNat ++ rest := by
  refine ⟨⟨_, ⟨⟨62135596812345678, by decide⟩, none⟩, 20, some ⟨360000000⟩⟩, rfl, by decide, rfl, rfl,
    by decide, [⟨62135597100000000, by decide⟩, ⟨62135597400000000, by decide⟩,
      ⟨62135597700000000, by decide⟩], by decide, by decide, ?_⟩
  exact occurrences_eq_take_append (by decide) (by decide) (by decide) (by decide) (by decide)

end Search

end CronSchedule
