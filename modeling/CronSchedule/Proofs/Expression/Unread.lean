import CronSchedule.Description.Sentence
import CronSchedule.Proofs.Expression.Tokens

/-!
What comes of reading any text. Main statement: there is a report and a description, unless a token is
stopped at a number that is too long (`parse_outcome`).
-/

namespace CronSchedule

open Expression

variable {source : String} {mode : Mode} {p : Parsed}

theorem Parsed.isSome_valid? (p : Parsed) : p.valid?.isSome = p.report.isValid := by
  cases p with
  | wrongCount expected actual text => rfl
  | expression e =>
    change (Option.filter (fun e => e.isValid) (some e)).isSome = e.isValid
    cases he : e.isValid <;> simp [he]

theorem isValidExpression_of_parse (h : parse source mode = .ok p) :
    isValidExpression source mode = .ok p.report.isValid := by
  rw [isValidExpression, h, ← p.isSome_valid?]
  rfl

theorem describeSource_of_isValid (l : Locale) (h : parse source mode = .ok p)
    (hv : p.report.isValid = true) :
    ∃ e text, p.expression? = some e ∧ e.describe l = .ok text ∧
      describeSource l source mode = .ok text := by
  cases p with
  | wrongCount expected actual text => cases hv
  | expression e =>
    have hr : e.requireValid = .ok e := if_pos hv
    have hvalid : (Parsed.expression e).valid? = some e :=
      Option.filter_eq_some_iff.mpr ⟨rfl, hv⟩
    refine ⟨e, e.sentence l, rfl, ?_, ?_⟩
    · rw [describe, hr]
      rfl
    · simp only [describeSource, h, bind, Except.bind, hvalid]
      rfl

theorem describeSource_of_not_isValid (l : Locale) (h : parse source mode = .ok p)
    (hv : p.report.isValid = false) :
    describeSource l source mode = .ok (Message.invalidExpression.say l []) := by
  have hvalid : p.valid? = none := by
    rw [← Option.not_isSome_iff_eq_none, p.isSome_valid?, hv]
    exact Bool.false_ne_true
  simp only [describeSource, h, bind, Except.bind, hvalid]
  rfl

/-- Reading any text gives a report, and a description that goes by it; only a token that is stopped at
a number that is too long leaves neither. -/
theorem parse_outcome (source : String) (mode : Mode) (l : Locale) :
    (∀ o, Expression.Stops source mode o →
      (maxDigits < o.digits ∧ HasLongNumber source.toList) ∧ parse source mode = .error o ∧
        isValidExpression source mode = .error o ∧ describeSource l source mode = .error o) ∧
    ((∀ o, ¬ Expression.Stops source mode o) →
      ∃ p, parse source mode = .ok p ∧ isValidExpression source mode = .ok p.report.isValid ∧
        (p.report.isValid = true → ∃ e text, p.expression? = some e ∧ e.describe l = .ok text ∧
          describeSource l source mode = .ok text) ∧
        (p.report.isValid = false →
          describeSource l source mode = .ok (Message.invalidExpression.say l []))) := by
  constructor
  · intro o ho
    have hp := parse_eq_error_iff.mpr ho
    obtain ⟨-, before, w, after, -, -, hs⟩ := ho
    obtain ⟨ds, -, hds⟩ := hs.exists_isWritten
    refine ⟨⟨hds.maxDigits_lt_digits, hasLongNumber_of_parse hp⟩, hp, ?_, ?_⟩
    · rw [isValidExpression, hp]
      rfl
    · rw [describeSource, hp]
      rfl
  · intro hn
    cases hp : parse source mode with
    | error o => exact absurd (parse_eq_error_iff.mp hp) (hn o)
    | ok p =>
      exact ⟨p, rfl, isValidExpression_of_parse hp, describeSource_of_isValid l hp,
        describeSource_of_not_isValid l hp⟩

/-- A minute of 4301 digits. -/
theorem parse_overlong_minute :
    ∃ source : String, source.toList = List.replicate 4301 '1' ++ " * * * *".toList ∧
      parse source .minutes = .error ⟨4301⟩ ∧ describeSource .en source .minutes = .error ⟨4301⟩ := by
  have hones : OverlongNumber.IsWritten ⟨4301⟩ (List.replicate 4301 '1') := .replicate (by decide)
  have hblank : ∀ c ∈ List.replicate 4301 '1', Text.isBlank c = false := by
    intro c hc
    rw [List.eq_of_mem_replicate hc]
    decide
  have hwords : Text.words (List.replicate 4301 '1' ++ " * * * *".toList) =
      List.replicate 4301 '1' :: [['*'], ['*'], ['*'], ['*']] :=
    Text.words_append_cons hones.ne_nil hblank rfl "* * * *".toList
  have htokens : tokens (String.ofList (List.replicate 4301 '1' ++ " * * * *".toList)) =
      String.ofList (List.replicate 4301 '1') :: ["*", "*", "*", "*"] := by
    rw [tokens, String.toList_ofList, hwords]
    rfl
  have hparse : parse (String.ofList (List.replicate 4301 '1' ++ " * * * *".toList)) .minutes =
      .error ⟨4301⟩ := by
    rw [parse_eq_error_iff, Expression.Stops, filled, htokens]
    refine ⟨.inl rfl, [(.second, "0")], _, _, rfl, ?_, ?_⟩
    · intro v hv o ho
      rw [List.mem_singleton.mp hv] at ho
      exact absurd ho.maxDigits_lt_length (by decide)
    · rw [String.toList_ofList]
      exact hones.stops
  refine ⟨_, String.toList_ofList, hparse, ?_⟩
  rw [describeSource, hparse]
  rfl

end CronSchedule
