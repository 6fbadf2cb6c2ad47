import CronSchedule.Expression.Rejection
import CronSchedule.Proofs.Expression.Report

/-!
Strict reading, told from the tokens of a text: it gives an expression exactly if there are as many tokens as
the mode takes and each slot accepts its own (`exists_ofSource_eq_ok_iff`), and else names the tokens that
are not accepted (`ofSource_of_refused`).
-/

namespace CronSchedule

open Expression

variable {source : String} {mode : Mode} {e : Expression}

theorem accepts_of_refused_eq_nil (h : refused source mode = []) {w : Slot × String}
    (hw : w ∈ filled source mode) : w.1.Accepts w.2 := by
  rw [← filter_filled, List.filter_eq_nil_iff] at h
  exact of_not_not fun hn => h w hw (decide_eq_true hn)

theorem isValid_iff_of_parse (h : parse source mode = .ok (.expression e)) :
    e.isValid = true ↔ refused source mode = [] := by
  have hissues := issues_of_parse (l := .en) h
  rw [isValid, Report.isValid_iff, ← List.length_eq_zero_iff, ← List.length_eq_zero_iff]
  exact hissues.length_eq ▸ Iff.rfl

theorem exists_parse_of_takes (hn : mode.Takes (tokens source).length)
    (hs : ∀ o, ¬ Expression.Stops source mode o) :
    ∃ e, parse source mode = .ok (.expression e) := by
  obtain ⟨x, hp, -⟩ := parse_of_takes hn
  cases x with
  | error o => exact absurd (parse_eq_error_iff.mp hp) (hs o)
  | ok e => exact ⟨e, hp⟩

theorem not_stops_of_refused_eq_nil (h : refused source mode = []) (o : OverlongNumber) :
    ¬ Expression.Stops source mode o := by
  intro ho
  obtain ⟨w, hw, hstop⟩ := ho.exists_mem_filled
  obtain ⟨f, hf⟩ := Field.exists_read_of_accepts (accepts_of_refused_eq_nil h hw)
  rw [Field.read_eq_error_iff.mpr hstop] at hf
  cases hf

/-- The right number of tokens is rejected for those that are not accepted. -/
theorem ofSource_of_refused (hn : mode.Takes (tokens source).length)
    (hs : ∀ o, ¬ Expression.Stops source mode o) (hr : refused source mode ≠ []) :
    ∃ report, Expression.ofSource source mode = .error (.rejected (.invalid .reading source report)) ∧
      ∀ l, List.Forall₂ (fun i w => Issue.ShownAs l "field_range" (some w.1) w.2 i) report.issues
        (refused source mode) := by
  obtain ⟨e, hp⟩ := exists_parse_of_takes hn hs
  refine ⟨e.report, ?_, fun l => issues_of_parse hp⟩
  rw [Expression.ofSource, hp]
  exact if_neg (mt (isValid_iff_of_parse hp).mp hr)

/-- The right number of tokens is not refused for their number. -/
theorem ofSource_ne_wrongCount (hn : mode.Takes (tokens source).length) {text shown : String}
    {expected actual : Nat} :
    Expression.ofSource source mode ≠ .error (.rejected (.wrongCount text expected actual shown)) := by
  obtain ⟨x, hp, -⟩ := parse_of_takes hn
  rw [Expression.ofSource, hp]
  cases x with
  | error o => nofun
  | ok e =>
    intro h
    change (if e.isValid then _ else _) = _ at h
    split at h <;> cases h

theorem ofSource_eq_ok_iff :
    Expression.ofSource source mode = .ok e ↔
      parse source mode = .ok (.expression e) ∧ e.isValid = true := by
  rw [Expression.ofSource]
  constructor
  · intro h
    split at h
    · cases h
    · cases h
    · next hp =>
      split at h
      · next hv =>
        cases h
        exact ⟨hp, hv⟩
      · cases h
  · intro h
    obtain ⟨hp, hv⟩ := h
    simp only [hp, hv, if_true]

theorem exists_ofSource_eq_ok_iff :
    (∃ e, Expression.ofSource source mode = .ok e) ↔
      mode.Takes (tokens source).length ∧ refused source mode = [] := by
  constructor
  · intro h
    obtain ⟨e, he⟩ := h
    obtain ⟨hp, hv⟩ := ofSource_eq_ok_iff.mp he
    exact ⟨(forall₂_fields_of_parse hp).1, (isValid_iff_of_parse hp).mp hv⟩
  · intro h
    obtain ⟨hn, hr⟩ := h
    obtain ⟨e, hp⟩ := exists_parse_of_takes hn (not_stops_of_refused_eq_nil hr)
    exact ⟨e, ofSource_eq_ok_iff.mpr ⟨hp, (isValid_iff_of_parse hp).mpr hr⟩⟩

end CronSchedule
