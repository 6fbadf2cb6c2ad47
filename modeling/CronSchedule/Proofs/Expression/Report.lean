import CronSchedule.CommandLine.Display
import CronSchedule.Proofs.Expression.Tokens

/-!
What the report on a text says, told from its tokens alone: how many there are, which of them their
slots do not accept, and whether both day slots are restricted.
-/

namespace CronSchedule

open Expression

/-- The tokens of a text that their slots do not accept, in slot order. -/
def Expression.refused (source : String) (mode : Mode) : List (Slot × String) :=
  (assigned source mode).filter fun w => ¬ w.1.Accepts w.2

/-- The issue is shown in a language with this kind, slot and text at fault, and with some words. -/
def Issue.ShownAs (l : Locale) (kind : String) (slot? : Option Slot) (token : String)
    (i : Issue) : Prop :=
  ∃ message, i.datum l = .record [("kind", .text kind),
    ("field", (slot?.map fun s => Datum.text s.name).getD .null), ("token", .text token),
    ("message", .text message)]

theorem Issue.shownAs_field (l : Locale) (slot : Slot) (token : String) (fault : FieldFault) :
    (Issue.field slot token fault).ShownAs l "field_range" (some slot) token :=
  ⟨_, rfl⟩

/-- Reading fields finds an issue for each token that its slot does not accept. -/
theorem forall₂_issues {l : Locale} {ws : List (Slot × String)} {fs : List Field}
    (h : List.Forall₂ (fun w f => Field.read w.1 w.2 = .ok f) ws fs) :
    List.Forall₂ (fun i w => Issue.ShownAs l "field_range" (some w.1) w.2 i)
      (fs.filterMap fun f => f.fault?.map (Issue.field f.slot f.token))
      (ws.filter fun w => ¬ w.1.Accepts w.2) := by
  induction h with
  | nil => exact .nil
  | @cons w f ws fs hf _ ih =>
    cases hfault : f.fault? with
    | none =>
      have ha := (Field.fault?_eq_none_iff hf).mp hfault
      rw [List.filterMap_cons_none (by rw [hfault, Option.map_none]),
        List.filter_cons_of_neg (by simpa using ha)]
      exact ih
    | some fault =>
      have ha := mt (Field.fault?_eq_none_iff hf).mpr (by simp [hfault])
      rw [List.filterMap_cons_some (by rw [hfault, Option.map_some]),
        List.filter_cons_of_pos (by simpa using ha), Field.slot_of_read hf, Field.token_of_read hf]
      exact .cons (Issue.shownAs_field ..) ih

theorem Expression.filter_filled (source : String) (mode : Mode) :
    (filled source mode).filter (fun w => ¬ w.1.Accepts w.2) = refused source mode := by
  cases mode with
  | minutes => rw [filled_minutes, List.filter_cons_of_neg (by decide), refused]
  | seconds => rw [filled_seconds, refused]

/-- A text restricts both day slots if neither of their tokens is a star or a question mark. -/
def Expression.RestrictsBothDays (source : String) (mode : Mode) : Prop :=
  ∀ w ∈ assigned source mode, w.1 ∈ Slot.days → w.2 ≠ "*" ∧ w.2 ≠ "?"

instance (source : String) (mode : Mode) : Decidable (RestrictsBothDays source mode) :=
  inferInstanceAs (Decidable (∀ w ∈ assigned source mode, _))

variable {source : String} {mode : Mode} {e : Expression}

theorem isUnrestricted_iff_of_parse {slot : Slot} {f : Field}
    (h : parse source mode = .ok (.expression e)) (hs : slot ∈ Slot.days)
    (hf : e.field? slot = some f) :
    f.isUnrestricted = true ↔ ∃ w ∈ assigned source mode, w.1 = slot ∧ (w.2 = "*" ∨ w.2 = "?") := by
  have hsecond : slot ≠ .second := by rintro rfl; exact absurd hs (by decide)
  obtain ⟨hw, hr⟩ := read_of_field? h hf
  rw [Field.isUnrestricted_iff hr, Slot.leavesOpen_of_mem_days hs]
  constructor
  · exact fun ht => ⟨_, (mem_filled_iff hsecond).mp hw, rfl, ht⟩
  · intro hx
    obtain ⟨⟨_, token⟩, hw', rfl, ht⟩ := hx
    obtain ⟨f', hf', rfl⟩ := exists_field?_of_mem_filled h ((mem_filled_iff hsecond).mpr hw')
    rw [hf] at hf'
    cases hf'
    exact ht

theorem warnings_of_parse (h : parse source mode = .ok (.expression e)) :
    e.warnings = if RestrictsBothDays source mode then [.bothDaysRestricted] else [] := by
  have hdom : e.field? .dayOfMonth = some e.dayOfMonth := rfl
  have hdow : e.field? .dayOfWeek = some e.dayOfWeek := rfl
  have hdays : (e.dayOfMonth.isUnrestricted || e.dayOfWeek.isUnrestricted) = true ↔
      ¬ RestrictsBothDays source mode := by
    rw [Bool.or_eq_true, isUnrestricted_iff_of_parse h (by decide) hdom,
      isUnrestricted_iff_of_parse h (by decide) hdow]
    simp only [RestrictsBothDays, Slot.days]
    grind
  simp only [warnings, hdays]
  exact ite_not ..

theorem issues_of_parse {l : Locale} (h : parse source mode = .ok (.expression e)) :
    List.Forall₂ (fun i w => Issue.ShownAs l "field_range" (some w.1) w.2 i) e.issues
      (refused source mode) := by
  rw [← filter_filled]
  exact forall₂_issues (forall₂_fields_of_parse h).2.2

/-- A text with another number of tokens than an expression is reported for nothing else. Of any
other text there is an expression, and an issue for each token that its slot does not accept. -/
theorem report_of_parse (source : String) (mode : Mode) (l : Locale)
    (h : ¬ HasLongNumber source.toList) :
    ∃ p, parse source mode = .ok p ∧
      (¬ mode.Takes (tokens source).length →
        p.expression? = none ∧ p.report.warnings = [] ∧
          ∃ i, p.report.issues = [i] ∧
            i.ShownAs l "arity" none (String.ofList (Text.trim source.toList))) ∧
      (mode.Takes (tokens source).length →
        p.expression?.isSome = true ∧
          List.Forall₂ (fun i w => Issue.ShownAs l "field_range" (some w.1) w.2 i)
            p.report.issues (refused source mode) ∧
          p.report.warnings.map Warning.kind =
            if RestrictsBothDays source mode then ["semantic"] else []) := by
  cases hp : parse source mode with
  | error o => exact absurd (hasLongNumber_of_parse hp) h
  | ok p =>
    refine ⟨p, rfl, fun hn => ?_, fun hn => ?_⟩
    · rw [parse_of_not_takes hn] at hp
      cases hp
      exact ⟨rfl, rfl, _, rfl, _, rfl⟩
    · obtain ⟨x, hx, -⟩ := parse_of_takes hn
      obtain ⟨e, -, rfl⟩ := map_eq_ok.mp (hx ▸ hp)
      refine ⟨rfl, issues_of_parse hp, ?_⟩
      rw [Parsed.report, report, warnings_of_parse hp]
      split <;> rfl

theorem report_of_parse_two_refused :
    ¬ HasLongNumber "61 9 ? 13 1,7".toList ∧
      ∃ p, parse "61 9 ? 13 1,7" .minutes = .ok p ∧ p.expression?.isSome = true ∧
        List.Forall₂ (fun i w => Issue.ShownAs .zh "field_range" (some w.1) w.2 i)
          p.report.issues [(.minute, "61"), (.month, "13")] ∧
        p.report.warnings.map Warning.kind = [] := by
  have hshort : ¬ HasLongNumber "61 9 ? 13 1,7".toList := not_hasLongNumber (by decide)
  obtain ⟨p, hp, -, hreport⟩ := report_of_parse "61 9 ? 13 1,7" .minutes .zh hshort
  exact ⟨hshort, p, hp, hreport (.inl (by decide))⟩

end CronSchedule
