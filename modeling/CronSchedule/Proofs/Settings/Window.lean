import CronSchedule.Proofs.Calendar.Duration
import CronSchedule.Proofs.Settings.Acceptance

/-!
Windows of loaded settings. Main statement: the window can be computed exactly if the hours are a number
below twenty-four thousand millions, or none (`Settings.window_of_load`).
-/

namespace CronSchedule

namespace Settings

variable {r : Readers} {c : Settings} {extra : List Source} {file : Option ConfigFile} {env : Environment}
  {group : String} {x : Binary64}

/-- Hours that are not below zero have a window, or a reason for having none. -/
theorem window_cases (hx : c.fastFailHours = some x) (hsign : x.isBelowZero = false) :
    (∃ w, c.window = .ok w ∧ (∀ d, w = some d → 0 ≤ d.micros) ∧
        ∃ v, x.value? = some v ∧ v < Duration.tooManyHours) ∨
      ∃ e, c.window = .error e ∧ e.Explains x := by
  have hwindow : c.window = if x.isZero then .ok none else some <$> Duration.ofHours x := by
    rw [window, hx]
  cases hform : x.form with
  | nan =>
    right
    refine ⟨.notANumber, ?_, hform⟩
    rw [hwindow, Binary64.isZero, Duration.ofHours, hform]
    rfl
  | infinite negative =>
    right
    refine ⟨.infinite, ?_, negative, hform⟩
    rw [hwindow, Binary64.isZero, Duration.ofHours, hform]
    rfl
  | finite negative m e =>
    have hvalue : x.value? = some ((if negative then -1 else 1) * ((m : ℚ) * 2 ^ e)) := by
      rw [Binary64.value?, hform]
    by_cases hm : m = 0
    · left
      subst hm
      refine ⟨none, ?_, ?_, _, hvalue, ?_⟩
      · rw [hwindow, Binary64.isZero, hform]
        rfl
      · rintro d ⟨⟩
      · simp [Duration.tooManyHours]
    · have hneg : negative = false := by
        simpa [Binary64.isBelowZero, hform, hm] using hsign
      subst hneg
      have hzero : x.isZero = false := by
        simp [Binary64.isZero, hform, hm]
      simp only [Bool.false_eq_true, if_false, one_mul] at hvalue
      simp only [hzero, Bool.false_eq_true, if_false] at hwindow
      rcases lt_or_ge ((m : ℚ) * 2 ^ e) Duration.tooManyHours with hlt | hge
      · obtain ⟨n, hn⟩ := Duration.ofHours_of_lt hform hlt
        left
        refine ⟨some ⟨n⟩, ?_, ?_, _, hvalue, hlt⟩
        · rw [hwindow, hn]
          rfl
        · rintro d ⟨⟩
          exact Int.natCast_nonneg n
      · obtain ⟨days, hdays, herror⟩ := Duration.ofHours_of_ge hform hge
        right
        refine ⟨.tooManyDays days, ?_, hdays, _, hvalue, hge⟩
        rw [hwindow, herror]
        rfl

/-- The window of loaded settings can be computed exactly if the hours are below the hours of a thousand
million days, and is not negative; else the hours are no number, infinite, or that many. -/
theorem window_of_load (h : load r extra file env group = .ok c) :
    ((∃ w, c.window = .ok w) ↔ ∀ x, c.fastFailHours = some x →
        ∃ v, x.value? = some v ∧ v < Duration.tooManyHours) ∧
      (∀ d, c.window = .ok (some d) → 0 ≤ d.micros) ∧
      ∀ e, c.window = .error e → ∃ x, c.fastFailHours = some x ∧ e.Explains x := by
  cases hx : c.fastFailHours with
  | none =>
    have hwindow : c.window = .ok none := by rw [window, hx]
    rw [hwindow]
    refine ⟨iff_of_true ⟨none, rfl⟩ ?_, ?_, ?_⟩
    · rintro x ⟨⟩
    · rintro d ⟨⟩
    · rintro e ⟨⟩
  | some x =>
    have hsign : x.isBelowZero = false := by
      have hadmits := admits_datum_of_load h .fastFailHours
      rw [datum, hx] at hadmits
      obtain ⟨⟨⟩⟩ | ⟨n, ⟨⟩, -⟩ | ⟨y, ⟨⟩, hy⟩ := hadmits
      exact hy
    rcases window_cases hx hsign with ⟨w, hw, hnonneg, v, hv, hlt⟩ | ⟨e, he, hreason⟩
    · rw [hw]
      refine ⟨iff_of_true ⟨w, rfl⟩ ?_, ?_, ?_⟩
      · rintro y ⟨⟩
        exact ⟨v, hv, hlt⟩
      · intro d hd
        exact hnonneg d (Except.ok.inj hd)
      · rintro e ⟨⟩
    · rw [he]
      refine ⟨iff_of_false ?_ ?_, ?_, ?_⟩
      · rintro ⟨w, ⟨⟩⟩
      · intro hall
        obtain ⟨v, hv, hlt⟩ := hall x rfl
        exact hreason.not_lt hv hlt
      · rintro d ⟨⟩
      · rintro e' ⟨⟩
        exact ⟨x, rfl, hreason⟩

/-- Hours just below the bound. -/
def longestHours : Settings :=
  { standard with fastFailHours := some (.ofRatio false 23999999999999996 1000000) }

theorem window_of_load_longest :
    load tiedReaders [] none [("CRONLENS_FAST_FAIL_HOURS", "23999999999.999996")] standardGroup =
        .ok longestHours ∧
      (∀ x, longestHours.fastFailHours = some x → ∃ v, x.value? = some v ∧ v < Duration.tooManyHours) ∧
      ∀ d, longestHours.window = .ok (some d) → 0 ≤ d.micros := by
  have hload : load tiedReaders [] none [("CRONLENS_FAST_FAIL_HOURS", "23999999999.999996")] standardGroup =
      .ok longestHours := by decide +kernel
  have hwindow : longestHours.window = .ok (some ⟨86399999999999986267⟩) := by decide +kernel
  exact ⟨hload, (window_of_load hload).1.mp ⟨_, hwindow⟩, (window_of_load hload).2.1⟩

theorem window_too_many_hours :
    ∃ c, load tiedReaders [] none [("CRONLENS_FAST_FAIL_HOURS", "24000000000")] standardGroup = .ok c ∧
      c.window = .error (.tooManyDays 1000000000) := by
  refine ⟨{ standard with fastFailHours := some (.ofRatio false 24000000000 1) }, ?_, ?_⟩
  · decide +kernel
  · decide +kernel

end Settings

end CronSchedule
