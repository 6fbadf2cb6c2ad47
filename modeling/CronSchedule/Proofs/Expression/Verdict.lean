import CronSchedule.Proofs.Description.Elements
import CronSchedule.Proofs.Description.Idioms
import CronSchedule.Proofs.Expression.Matching
import CronSchedule.Proofs.Expression.Unread
import CronSchedule.Proofs.Occurrence.Due
import Mathlib.Data.List.TFAE

/-!
What is done with a text goes by one verdict. Main statement: a text that can be read is valid for all
that ask for an expression or for none, and is refused for the issues of its report
(`valid_tfae`).
-/

namespace CronSchedule

open Expression

section

variable {source : String} {mode : Mode} {p : Parsed} {e : Expression} {l : Locale}

/-- How an expression is refused that is not valid. -/
def Expression.refusal (e : Expression) : Rejection :=
  .invalid .use e.source e.report

theorem requireValid_of_not_isValid (hv : e.isValid = false) : e.requireValid = .error e.refusal :=
  if_neg (Bool.eq_false_iff.mp hv)

theorem matches?_of_not_isValid (hv : e.isValid = false) (c : Civil) :
    e.matches? c = .error e.refusal := by
  rw [matches?, requireValid_of_not_isValid hv]
  rfl

theorem describe_of_not_isValid (hv : e.isValid = false) (l : Locale) :
    e.describe l = .error e.refusal := by
  rw [describe, requireValid_of_not_isValid hv]
  rfl

theorem occurrences_of_not_isValid {s : Search} (hv : s.expression.isValid = false) (count : Int) :
    s.occurrences count = .error
      (if Search.maxCount < count then .countTooLarge else .rejected s.expression.refusal) := by
  rw [Search.occurrences, Search.harvest, requireValid_of_not_isValid hv]
  split <;> rfl

theorem occurrences_ne_rejected {s : Search} (hv : s.expression.isValid = true) (count : Int)
    (r : Rejection) : s.occurrences count ≠ .error (.rejected r) := by
  intro h
  by_cases hc : count ≤ Search.maxCount
  · rw [Search.occurrences, Search.harvest_of_isValid hv hc] at h
    cases he : (s.collect count.toNat s.start).ending <;> simp [bind, Except.bind, he] at h
  · rw [Search.occurrences_of_maxCount_lt (Int.not_le.mp hc)] at h
    cases h

theorem ofSource_of_parse (h : parse source mode = .ok (.expression e)) :
    Expression.ofSource source mode =
      if e.isValid then .ok e else .error (.rejected (.invalid .reading source e.report)) := by
  rw [Expression.ofSource, h]

theorem say_sentence_ne_invalidExpression (l : Locale) (body : String) :
    Message.sentence.say l [(.body, body)] ≠ Message.invalidExpression.say l [] := by
  intro h
  -- The two begin with different words in English, and end differently in Chinese.
  cases l with
  | en =>
    have hfirst := congrArg (fun s => s.toList.head?) h
    simp [Message.say, Message.template, Message.english, Piece.fill] at hfirst
  | zh =>
    have hlast := congrArg (fun s => s.toList.getLast?) h
    simp [Message.say, Message.template, Message.chinese, Piece.fill] at hlast

/-- No description reads like the phrase for a text that is not valid. -/
theorem sentence_ne_invalidExpression (l : Locale) (e : Expression) :
    e.sentence l ≠ Message.invalidExpression.say l [] := by
  have hidioms : ∀ i ∈ Idiom.all, i.phrase l ≠ Message.invalidExpression.say l [] := by
    cases l <;> decide +kernel
  rw [sentence, canned?]
  cases hi : e.idiom? with
  | none => exact say_sentence_ne_invalidExpression l _
  | some i => exact hidioms i (idiom?_eq_some hi).1

theorem Parsed.eq_expression (h : p.expression? = some e) : p = .expression e := by
  cases p with
  | wrongCount expected actual text => cases h
  | expression e' =>
    cases h
    rfl

theorem Parsed.exists_of_isValid (hv : p.report.isValid = true) :
    ∃ e, p = .expression e ∧ e.isValid = true := by
  cases p with
  | wrongCount expected actual text => cases hv
  | expression e => exact ⟨e, rfl, hv⟩

theorem exists_ofSource_iff (h : parse source mode = .ok p) :
    (∃ e, p.expression? = some e ∧ Expression.ofSource source mode = .ok e) ↔
      p.report.isValid = true := by
  constructor
  · intro hx
    obtain ⟨e, he, hs⟩ := hx
    cases Parsed.eq_expression he
    rw [ofSource_of_parse h] at hs
    split at hs
    · next hv => exact hv
    · cases hs
  · intro hv
    obtain ⟨e, rfl, he⟩ := Parsed.exists_of_isValid hv
    refine ⟨e, rfl, ?_⟩
    rw [ofSource_of_parse h, if_pos he]

theorem exists_describe_iff (h : parse source mode = .ok p) (l : Locale) :
    (∃ e text, p.expression? = some e ∧ e.describe l = .ok text ∧
      describeSource l source mode = .ok text) ↔ p.report.isValid = true := by
  constructor
  · intro hx
    obtain ⟨e, text, he, htext, -⟩ := hx
    cases Parsed.eq_expression he
    cases hv : e.isValid with
    | true => exact hv
    | false =>
      rw [describe_of_not_isValid hv] at htext
      cases htext
  · exact describeSource_of_isValid l h

theorem describeSource_ne_iff (h : parse source mode = .ok p) (l : Locale) :
    describeSource l source mode ≠ .ok (Message.invalidExpression.say l []) ↔
      p.report.isValid = true := by
  cases hv : p.report.isValid with
  | true =>
    refine iff_of_true (fun hs => ?_) rfl
    obtain ⟨e, rfl, he⟩ := Parsed.exists_of_isValid hv
    obtain ⟨_, text, ⟨⟩, htext, hdescribe⟩ := describeSource_of_isValid l h hv
    cases (describe_of_isValid he l).symm.trans htext
    exact sentence_ne_invalidExpression l e (Except.ok.inj (hdescribe.symm.trans hs))
  | false =>
    refine iff_of_false ?_ Bool.false_ne_true
    exact not_not_intro (describeSource_of_not_isValid l h hv)

theorem exists_usable_iff (p : Parsed) (l : Locale) (c : Civil) (reference : Stamp) (budget : Int)
    (window : Option Duration) (count : Int) :
    (∃ e, p.expression? = some e ∧ (∀ r, e.matches? c ≠ .error r) ∧ (∀ r, e.describe l ≠ .error r) ∧
      ∀ r, Search.occurrences ⟨e, reference, budget, window⟩ count ≠ .error (.rejected r)) ↔
      p.report.isValid = true := by
  constructor
  · intro hx
    obtain ⟨e, he, hm, -⟩ := hx
    cases Parsed.eq_expression he
    cases hv : e.isValid with
    | true => exact hv
    | false => exact absurd (matches?_of_not_isValid hv c) (hm _)
  · intro hv
    obtain ⟨e, rfl, he⟩ := Parsed.exists_of_isValid hv
    refine ⟨e, rfl, fun r hr => ?_, fun r hr => ?_, occurrences_ne_rejected he count⟩
    · rw [matches?_of_isValid he] at hr
      cases hr
    · rw [describe_of_isValid he] at hr
      cases hr

theorem eq_of_parse_wrongCount {expected actual : Nat} {text : String}
    (h : parse source mode = .ok (.wrongCount expected actual text)) :
    expected = mode.size ∧ actual = (tokens source).length := by
  simp only [parse] at h
  split at h
  · obtain ⟨_, -, ⟨⟩⟩ := map_eq_ok.mp h
  · obtain ⟨_, -, ⟨⟩⟩ := map_eq_ok.mp h
  · cases h
    exact ⟨rfl, rfl⟩

theorem isValidExpression_eq_true_iff (h : parse source mode = .ok p) :
    isValidExpression source mode = .ok true ↔ p.report.isValid = true := by
  rw [isValidExpression_of_parse h, Except.ok.injEq]

theorem exists_ofSource_eq_wrongCount_iff (h : parse source mode = .ok p) :
    p.expression? = none ↔ ∃ text, Expression.ofSource source mode =
      .error (.rejected (.wrongCount source mode.size (tokens source).length text)) := by
  cases p with
  | wrongCount expected actual text =>
    obtain ⟨rfl, rfl⟩ := eq_of_parse_wrongCount h
    refine iff_of_true rfl ⟨text, ?_⟩
    rw [Expression.ofSource, h]
  | expression e =>
    refine iff_of_false nofun fun hx => ?_
    obtain ⟨text, ht⟩ := hx
    rw [ofSource_of_parse h] at ht
    split at ht <;> cases ht

theorem Rejection.message_eq {r : Rejection} (h : r.report.issues ≠ []) :
    r.message = r.heading ++ ": " ++ "; ".intercalate (r.report.issues.map (Issue.say .en)) := by
  rw [message, wording, if_neg]
  simpa using h

/-- Strict reading refuses what is not valid, and says so for each issue. -/
theorem exists_rejection_of_issues (h : parse source mode = .ok p) (hi : p.report.issues ≠ []) :
    ∃ r, Expression.ofSource source mode = .error (.rejected r) ∧
      r.message = "Invalid cron expression: " ++
        "; ".intercalate (p.report.issues.map (Issue.say .en)) := by
  have hmessage {r : Rejection} (hr : r.report = p.report)
      (hh : r.heading = "Invalid cron expression") :
      r.message = "Invalid cron expression: " ++
        "; ".intercalate (p.report.issues.map (Issue.say .en)) := by
    rw [Rejection.message_eq (hr ▸ hi), hr, hh]
    rfl
  cases p with
  | wrongCount expected actual text =>
    refine ⟨.wrongCount source expected actual text, ?_, hmessage rfl rfl⟩
    rw [Expression.ofSource, h]
  | expression e =>
    have hn : ¬ e.isValid = true := fun hx => hi (Report.isValid_iff.mp hx)
    refine ⟨.invalid .reading source e.report, ?_, hmessage rfl rfl⟩
    rw [ofSource_of_parse h, if_neg hn]

/-- A text that can be read is valid for all entries or for none: for the question itself, the report,
strict reading, a description in any language, and whatever is done with the expression. If it is not
valid, then strict reading refuses it in words that list the issues of the report: for its number of
tokens if there is no expression, and else as an expression that each use refuses as well, a search only
if it is not asked for more than it can count. -/
theorem valid_tfae (source : String) (mode : Mode) (h : ¬ HasLongNumber source.toList) :
    ∃ p, parse source mode = .ok p ∧
      (∀ l c reference budget window count, List.TFAE
        [isValidExpression source mode = .ok true,
          p.report.issues = [],
          ∃ e, p.expression? = some e ∧ Expression.ofSource source mode = .ok e,
          ∃ e text, p.expression? = some e ∧ e.describe l = .ok text ∧
            describeSource l source mode = .ok text,
          describeSource l source mode ≠ .ok (Message.invalidExpression.say l []),
          ∃ e, p.expression? = some e ∧ (∀ r, e.matches? c ≠ .error r) ∧
            (∀ r, e.describe l ≠ .error r) ∧
            ∀ r, Search.occurrences ⟨e, reference, budget, window⟩ count ≠ .error (.rejected r)]) ∧
      (p.report.issues ≠ [] →
        (p.expression? = none ↔ ∃ text, Expression.ofSource source mode =
          .error (.rejected (.wrongCount source mode.size (tokens source).length text))) ∧
        (∀ e, p.expression? = some e →
          Expression.ofSource source mode = .error (.rejected (.invalid .reading source e.report)) ∧
          (∀ c, e.matches? c = .error e.refusal) ∧ (∀ l, e.describe l = .error e.refusal) ∧
          ∀ reference budget window count,
            Search.occurrences ⟨e, reference, budget, window⟩ count = .error
              (if Search.maxCount < count then .countTooLarge else .rejected e.refusal)) ∧
        ∃ r, Expression.ofSource source mode = .error (.rejected r) ∧
          r.message = "Invalid cron expression: " ++
            "; ".intercalate (p.report.issues.map (Issue.say .en))) := by
  cases hp : parse source mode with
  | error o => exact absurd (hasLongNumber_of_parse hp) h
  | ok p =>
    refine ⟨p, rfl, fun l c reference budget window count => ?_, fun hi => ⟨?_, fun e he => ?_, ?_⟩⟩
    · apply List.tfae_of_forall (p.report.isValid = true)
      simp only [List.forall_mem_cons, List.not_mem_nil, false_imp_iff, implies_true, and_true]
      exact ⟨isValidExpression_eq_true_iff hp, Report.isValid_iff.symm, exists_ofSource_iff hp,
        exists_describe_iff hp l, describeSource_ne_iff hp l,
        exists_usable_iff p l c reference budget window count⟩
    · exact exists_ofSource_eq_wrongCount_iff hp
    · cases Parsed.eq_expression he
      have hn : ¬ e.isValid = true := fun hx => hi (Report.isValid_iff.mp hx)
      have hv : e.isValid = false := Bool.eq_false_iff.mpr hn
      refine ⟨?_, matches?_of_not_isValid hv, describe_of_not_isValid hv,
        fun reference budget window => occurrences_of_not_isValid hv⟩
      rw [ofSource_of_parse hp, if_neg hn]
    · exact exists_rejection_of_issues hp hi

/-- Not even a search for nothing is made with an hour that there is not. -/
theorem valid_tfae_no_such_hour :
    ¬ HasLongNumber " 0 24 * * 1 ".toList ∧
      ∃ p, parse " 0 24 * * 1 " .minutes = .ok p ∧ p.report.issues ≠ [] ∧
        isValidExpression " 0 24 * * 1 " .minutes ≠ .ok true ∧
        ∃ e, p.expression? = some e ∧ ∀ reference,
          Search.occurrences ⟨e, reference, 366, none⟩ 0 = .error (.rejected e.refusal) := by
  have hshort : ¬ HasLongNumber " 0 24 * * 1 ".toList := not_hasLongNumber (by decide)
  have hread : (parse " 0 24 * * 1 " .minutes).toOption.map (fun p =>
      (p.report.issues.length, p.expression?.isSome)) = some (1, true) := by
    decide +kernel
  obtain ⟨p, hp, hvalid, hrefused⟩ := valid_tfae " 0 24 * * 1 " .minutes hshort
  rw [hp] at hread
  obtain ⟨hone, hsome⟩ := Prod.mk.inj (Option.some.inj hread)
  have hi : p.report.issues ≠ [] := List.ne_nil_of_length_eq_add_one hone
  obtain ⟨e, he⟩ := Option.isSome_iff_exists.mp hsome
  have hasked : isValidExpression " 0 24 * * 1 " .minutes = .ok true ↔ p.report.issues = [] :=
    (hvalid .en ⟨⟨2026, 1, 1⟩, 0, 0, 0, 0⟩ ⟨⟨0, by decide⟩, none⟩ 366 none 0).out 0 1
  refine ⟨hshort, p, hp, hi, fun hx => hi (hasked.mp hx), e, he, fun reference => ?_⟩
  exact ((hrefused hi).2.1 e he).2.2.2 reference 366 none 0

end

end CronSchedule
