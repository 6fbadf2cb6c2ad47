import CronSchedule.Proofs.Expression.Unread
import CronSchedule.Proofs.Settings.Failure

/-!
The commands that are about an expression agree with what is read of it. Main statement: each of them exits
with the code for a failed validation exactly if there are issues, unless something that it shows is refused,
and those that show no report tell of the issues in full (`CommandLine.run_agrees`).
-/

namespace CronSchedule

theorem Parsed.valid?_cases (p : Parsed) :
    (∃ e, p = .expression e ∧ p.valid? = some e ∧ e.isValid = true ∧ p.report.issues = []) ∨
      p.valid? = none ∧ p.report.issues ≠ [] := by
  cases hp : p.valid? with
  | none =>
    refine .inr ⟨rfl, fun hissues => ?_⟩
    have hvalid := p.isSome_valid?
    rw [hp, Report.isValid_iff.mpr hissues] at hvalid
    cases hvalid
  | some e =>
    obtain ⟨hexpression, hv⟩ := Option.filter_eq_some_iff.mp hp
    cases p with
    | wrongCount expected actual text => cases hexpression
    | expression e' =>
      cases hexpression
      exact .inl ⟨e, rfl, rfl, hv, Report.isValid_iff.mp hv⟩

/-- What is told of a text that is not valid: a heading, and the message of each issue. -/
def Report.complaints (l : Locale) (r : Report) : List CommandLine.Passage :=
  .complaint "red" ("Error: " ++ Message.invalidExpression.say l []) ::
    r.issues.map fun i => .complaint "red" ("  - " ++ i.say l)

namespace CommandLine

/-- The command is about an expression, and its other options can be used. -/
inductive Command.IsAbout (subject : Subject) : Command → Prop where
  | validate {format : String} (h : format = "console" ∨ format = "json") :
    IsAbout subject (.validate subject format)
  | next {o : NextOptions} {format : String} (h : format = "console" ∨ format = "json")
    (hbudget : ∀ n ∈ o.maxIterations, 1 ≤ n) : IsAbout subject (.next subject o format)
  | describe : IsAbout subject (.describe subject)
  | explain {count : Option Int} {format : String} (h : format = "console" ∨ format = "json") :
    IsAbout subject (.explain subject count format)

/-- Whether a command shows its report on an expression; the others fail with it. -/
def Command.showsReport : Command → Bool
  | .validate .. | .explain .. => true
  | .next .. | .describe .. | .presets .. | .build .. => false

/-- How a command ends that agrees with what was read of the expression of its subject. -/
structure Command.Agrees (c : Command) (w : Surroundings) (subject : Subject) (l : Locale) (p : Parsed)
    (o : Outcome) : Prop where
  refused_iff : o.refused = none → (o.code = 20 ↔ p.report.issues ≠ [])
  /-- Once something is refused, the code is the general one, whatever was read. -/
  code_of_refused : o.refused ≠ none → o.code = 1
  validated : ∀ format, c = .validate subject format → p.report.issues = [] → o.refused = none → o.code = 0
  described : c = .describe subject → p.report.issues = [] → o.refused = none →
    o.code = 0 ∧ o.complaints = [] ∧
      ∃ e text, p = .expression e ∧ e.describe l = .ok text ∧ o.out = [.echo text]
  /-- Without a report the issues are told instead, and only that can be refused. -/
  told : c.showsReport = false → p.report.issues ≠ [] →
    o.out = [] ∧ (o.refused = none → o.complaints = p.report.complaints l) ∧
      ((∀ before colour text, w.refusal? before (.complaint colour text) = none) → o.refused = none)
  written : (∀ before q, w.refusal? before q = none) → o.refused = none

theorem Subject.localeIn_eq (subject : Subject) (s : Settings) :
    subject.localeIn s = Locale.ofTag ((subject.locale.filter (· ≠ "")).getD s.locale) := by
  cases h : subject.locale with
  | none => rw [localeIn, tagIn, h, tagOf.eq_def]; rfl
  | some tag =>
    rw [localeIn, tagIn, h, tagOf.eq_def]
    by_cases ht : tag = ""
    · subst ht
      rfl
    · have hfilter : (some tag).filter (· ≠ "") = some tag :=
        Option.filter_eq_some_iff.mpr ⟨rfl, decide_eq_true ht⟩
      rw [hfilter]
      simp only [ht, if_false, Option.getD_some]

/-! ## Work that only the journal shows -/

namespace Work

variable {α β : Type} {x : Work α} {f : α → Work β}

/-- Nothing but lines of the journal is shown. -/
def IsSilent (x : Work α) : Prop :=
  ∀ p ∈ x.shown, ∃ j, p = .record j

theorem pure_bind (a : α) (f : α → Work β) : pure a >>= f = f a := rfl

theorem result_bind_of_ok {a : α} (h : x.result = .ok a) : (x >>= f).result = (f a).result := by
  rw [bind_of_ok h]

theorem isSilent_log (js : List JournalLine) : (log js).IsSilent := by
  intro p hp
  obtain ⟨j, -, rfl⟩ := List.mem_map.mp hp
  exact ⟨j, rfl⟩

theorem isSilent_quietly (x : Except Stop α) : (quietly x).IsSilent :=
  nofun

theorem isSilent_stop (s : Stop) : (stop s : Work α).IsSilent :=
  nofun

theorem isSilent_pure (a : α) : (pure a : Work α).IsSilent :=
  nofun

theorem IsSilent.bind (hx : x.IsSilent) (hf : ∀ a, (f a).IsSilent) : (x >>= f).IsSilent := by
  cases h : x.result with
  | error s =>
    rw [bind_of_error h]
    exact hx
  | ok a =>
    rw [bind_of_ok h]
    exact List.forall_mem_append.mpr ⟨hx, hf a⟩

theorem IsSilent.isOutput_eq_false (h : x.IsSilent) {p : Passage} (hp : p ∈ x.shown) : p.isOutput = false := by
  obtain ⟨j, rfl⟩ := h p hp
  rfl

theorem IsSilent.filter_eq_nil (h : x.IsSilent) {shows : Passage → Bool} (hshows : ∀ j, shows (.record j) = false) :
    x.shown.filter shows = [] := by
  rw [List.filter_eq_nil_iff]
  intro p hp
  obtain ⟨j, rfl⟩ := h p hp
  rw [hshows j]
  exact Bool.false_ne_true

end Work

/-! ## From the work of a command to its outcome -/

/-- The work of a command stops and shows what agrees with what was read of the expression of its subject. -/
structure Command.Fits (c : Command) (subject : Subject) (l : Locale) (p : Parsed) (x : Work Unit) : Prop where
  refused_iff : x.code = 20 ↔ p.report.issues ≠ []
  validated : ∀ format, c = .validate subject format → p.report.issues = [] → x.code = 0
  described : c = .describe subject → p.report.issues = [] →
    x.result = .ok () ∧ x.shown.filter Passage.isComplaint = [] ∧
      ∃ e text, p = .expression e ∧ e.describe l = .ok text ∧ x.shown.filter Passage.isOutput = [.echo text]
  told : c.showsReport = false → p.report.issues ≠ [] → x.IsSilent ∧ x.told = p.report.complaints l

section

variable {w : Surroundings} {setup : LogSetup} {subject : Subject} {l : Locale} {p : Parsed} {c : Command}
  {x : Work Unit}

theorem isComplaint_of_mem_complaints {r : Report} {q : Passage} (h : q ∈ r.complaints l) :
    ∃ colour text, q = .complaint colour text := by
  rcases List.mem_cons.mp h with rfl | h
  · exact ⟨_, _, rfl⟩
  · obtain ⟨i, -, rfl⟩ := List.mem_map.mp h
    exact ⟨_, _, rfl⟩

/-- Lines of the journal in front of the work make no difference. -/
theorem Command.Fits.after_log (h : c.Fits subject l p x) (js : List JournalLine) :
    c.Fits subject l p (Work.log js >>= fun _ => x) := by
  have hlog := Work.isSilent_log js
  have hcode : (Work.log js >>= fun _ => x).code = x.code := rfl
  refine ⟨hcode ▸ h.refused_iff, fun format hc hv => hcode ▸ h.validated format hc hv, fun hc hv => ?_,
    fun hc hv => ⟨hlog.bind fun _ => (h.told hc hv).1, (h.told hc hv).2⟩⟩
  obtain ⟨hresult, hcomplaints, e, text, he, htext, hout⟩ := h.described hc hv
  rw [Work.bind_of_ok (Work.result_log js), List.filter_append, List.filter_append,
    hlog.filter_eq_nil fun _ => rfl, hlog.filter_eq_nil fun _ => rfl]
  exact ⟨hresult, hcomplaints, e, text, he, htext, hout⟩

theorem Command.Fits.agrees (h : c.Fits subject l p x) : c.Agrees w subject l p (x.outcome w setup) where
  refused_iff hrefused := by
    rw [Work.code_outcome, if_pos hrefused]
    exact h.refused_iff
  code_of_refused hrefused := by
    rw [Work.code_outcome, if_neg hrefused]
    rfl
  validated format hc hv hrefused := by
    rw [Work.code_outcome, if_pos hrefused]
    exact h.validated format hc hv
  described hc hv hrefused := by
    obtain ⟨hresult, hcomplaints, e, text, he, htext, hout⟩ := h.described hc hv
    have htold : x.told = [] := by rw [Work.told, hresult]
    refine ⟨?_, ?_, e, text, he, htext, (Work.out_outcome hrefused).trans hout⟩
    · rw [Work.code_outcome, if_pos hrefused, Work.code, hresult]
    · rw [Work.complaints_outcome hrefused, htold, List.append_nil, hcomplaints]
  told hc hv := by
    obtain ⟨hsilent, htold⟩ := h.told hc hv
    refine ⟨Work.out_outcome_eq_nil fun q hq => hsilent.isOutput_eq_false hq, fun hrefused => ?_, fun hw => ?_⟩
    · rw [Work.complaints_outcome hrefused, List.filter_append, hsilent.filter_eq_nil fun _ => rfl, htold,
        List.nil_append, List.filter_eq_self]
      intro q hq
      obtain ⟨colour, text, rfl⟩ := isComplaint_of_mem_complaints hq
      rfl
    · apply Work.refused_outcome
      intro before q hq
      rcases List.mem_append.mp hq with hq | hq
      · obtain ⟨j, rfl⟩ := hsilent q hq
        rfl
      · rw [htold] at hq
        obtain ⟨colour, text, rfl⟩ := isComplaint_of_mem_complaints hq
        exact hw before colour text
  written hw := by
    apply Work.refused_outcome
    intro before q _
    cases q with
    | record j => rfl
    | echo | page | complaint => exact hw before _

end

/-! ## Steps of the commands -/

section

variable {format : String} {source tag : String} {mode : Mode} {p : Parsed} {e : Expression} {w : Surroundings}

theorem exists_formatOf_eq (h : format = "console" ∨ format = "json") : ∃ f, formatOf format = pure f := by
  rcases h with rfl | rfl
  · exact ⟨.console, rfl⟩
  · exact ⟨.json, rfl⟩

theorem isSilent_parsed : (parsed source mode tag).IsSilent :=
  (Work.isSilent_log _).bind fun _ => Work.isSilent_quietly _

theorem result_parsed (h : parse source mode = .ok p) : (parsed source mode tag).result = .ok p := by
  rw [parsed, Work.result_bind_of_ok (Work.result_log _), Work.result_quietly, h]
  rfl

theorem isSilent_say (m : Message) : (say m tag).IsSilent :=
  (Work.isSilent_log _).bind fun _ => Work.isSilent_pure _

theorem result_say (m : Message) : (say m tag).result = .ok (m.say (Locale.ofTag tag) []) := rfl

theorem isSilent_validExpression : (validExpression source mode tag).IsSilent := by
  refine isSilent_parsed.bind fun p => ?_
  split
  · exact Work.isSilent_pure _
  · exact (isSilent_say _).bind fun _ => Work.isSilent_stop _

theorem result_validExpression_of_some (h : parse source mode = .ok p) (hv : p.valid? = some e) :
    (validExpression source mode tag).result = .ok e := by
  rw [validExpression, Work.result_bind_of_ok (result_parsed h), hv]
  rfl

/-- The failure of a command whose expression is not valid. -/
def refusal (l : Locale) (r : Report) : Failure :=
  .expression (Message.invalidExpression.say l []) (r.issues.map (·.say l)) ""

theorem complaints_refusal (l : Locale) (r : Report) : (refusal l r).complaints = r.complaints l := by
  have hhint : (refusal l r).hint = "" := rfl
  rw [Failure.complaints, if_pos hhint, List.append_nil, Report.complaints]
  simp only [refusal, Failure.expression, List.map_map]
  rfl

theorem result_validExpression_of_none (h : parse source mode = .ok p) (hv : p.valid? = none) :
    (validExpression source mode tag).result = .error (.failed (refusal (Locale.ofTag tag) p.report)) := by
  rw [validExpression, Work.result_bind_of_ok (result_parsed h), hv]
  rfl

theorem isSilent_sentenceOf : (sentenceOf e tag).IsSilent :=
  (Work.isSilent_log _).bind fun _ => Work.isSilent_quietly _

theorem describe_of_isValid (hv : e.isValid = true) (l : Locale) : e.describe l = .ok (e.sentence l) := by
  rw [Expression.describe, Expression.requireValid, if_pos hv]
  rfl

theorem result_sentenceOf (hv : e.isValid = true) :
    (sentenceOf e tag).result = .ok (e.sentence (Locale.ofTag tag)) := by
  rw [sentenceOf, Work.result_bind_of_ok (Work.result_log _), Work.result_quietly, describe_of_isValid hv]
  rfl

/-! ### What is shown always comes to its end -/

theorem result_showReport (l : Locale) (r : Report) : (showReport l r).result = .ok () := by
  rw [showReport, showIssues]
  split <;> rfl

theorem result_showInvalid (r : Report) : (showInvalid tag r).result = .ok () := by
  rw [showInvalid, Work.result_bind_of_ok (result_say _)]
  exact result_showReport _ _

theorem result_showVerdict (expression : String) (p : Parsed) (f : Format) :
    (showVerdict expression tag p f).result = .ok () := by
  cases f with
  | json => rfl
  | console =>
    rw [showVerdict]
    split
    · exact result_showReport _ _
    · exact result_showInvalid _

theorem result_showUnexplained (expression : String) (p : Parsed) (f : Format) :
    (showUnexplained expression tag p f).result = .ok () := by
  cases f with
  | json => rfl
  | console => exact result_showInvalid _

theorem result_showFiringsIfAny (hours : Int) (stamps : List Stamp) :
    (showFiringsIfAny tag hours stamps).result = .ok () := by
  rw [showFiringsIfAny]
  split <;> rfl

theorem result_showNext (r : Reference) (runs : List Stamp) (s : Settings) (f : Format) :
    (showNext e tag r runs s f).result = .ok () := by
  cases f with
  | json => rfl
  | console => exact result_showFiringsIfAny _ _

theorem result_showExplained (sentence : String) (runs : List Stamp) (s : Settings) (f : Format) :
    (showExplained e tag sentence runs s f).result = .ok () := by
  cases f with
  | json => rfl
  | console =>
    rw [showExplained, Work.result_bind_of_ok (Work.result_display _),
      Work.result_bind_of_ok (result_showReport _ _)]
    exact result_showFiringsIfAny _ _

/-! ### A valid expression is not what a command stops at -/

/-- The stop has another reason than an expression that is not valid. -/
def Stop.IsOther (s : Stop) : Prop :=
  s.code ≠ .validationFailed

theorem raised_fails {ε α : Type} (exception : ε → Exception) (x : Except ε α) :
    FailsOnly Stop.IsOther (x.mapError fun e => .raised (exception e)) := by
  cases x with
  | error e => exact .error nofun
  | ok a => exact .ok a

theorem zoneOf_fails (w : Surroundings) (key : Option String) : FailsOnly Stop.IsOther (zoneOf w key) := by
  rw [zoneOf.eq_def]
  split
  · exact .ok _
  · next key =>
    split
    · exact .ok _
    · cases w.zones key with
      | ok rules => exact .ok _
      | error f => cases f <;> exact .error nofun

theorem ofStamp?_fails (stamp : Option Stamp) (rules : Option ZoneRules) :
    FailsOnly Stop.IsOther (Reference.ofStamp? stamp rules) := by
  cases stamp with
  | none => exact .error nofun
  | some stamp => exact .ok _

theorem ofStart_fails (start : Option String) (zone : Option ZoneRules) (clock : Clock) :
    FailsOnly Stop.IsOther (Reference.ofStart start zone clock) := by
  cases start with
  | none => exact ofStamp?_fails _ _
  | some text =>
    rw [Reference.ofStart, Reference.ofText.eq_def]
    split
    · exact .error nofun
    · split
      · exact .ok _
      · exact ofStamp?_fails _ _

theorem firings_fails (r : Reference) (count budget : Int) (s : Settings) :
    FailsOnly Stop.IsOther (firings e r count budget s).result := by
  simp only [firings, Work.result_bind, Work.result_quietly, Work.result_log, Work.result_pure]
  refine (raised_fails _ _).bind fun window => ?_
  exact FailsOnly.bind (.ok ()) fun _ => (raised_fails _ _).bind fun ms => .ok _

theorem runFrom_fails (f : Format) (count budget : Int) (s : Settings) (r : Reference) :
    FailsOnly Stop.IsOther (runFrom e tag f count budget s r).result := by
  simp only [runFrom, Work.result_bind, result_showNext]
  exact (firings_fails _ _ _ _).bind fun runs => .ok _

theorem explain_fails (f : Format) (count : Int) (s : Settings) :
    FailsOnly Stop.IsOther (explain w e tag f count s).result := by
  simp only [explain, Work.result_bind, Work.result_quietly, result_showExplained]
  refine (zoneOf_fails _ _).bind fun zone => (ofStamp?_fails _ _).bind fun reference => ?_
  refine (firings_fails _ _ _ _).bind fun runs => FailsOnly.bind ?_ fun sentence => .ok _
  simp only [sentenceOf, Work.result_bind, Work.result_quietly, Work.result_log]
  exact FailsOnly.bind (.ok ()) fun _ => raised_fails _ _

theorem code_ne_of_fails {x : Work Unit} (h : FailsOnly Stop.IsOther x.result) : x.code ≠ 20 := by
  rw [Work.code]
  cases hx : x.result with
  | ok u => exact (by decide : 0 ≠ 20)
  | error stop =>
    have hcode : stop.code ≠ .validationFailed := h stop hx
    cases hstop : stop.code with
    | validationFailed => exact absurd hstop hcode
    | general | usage | fileNotFound | configInvalid => simp only [hstop]; decide

end

/-! ## Each command agrees -/

section

variable {subject : Subject} {s : Settings} {l : Locale} {p : Parsed} {format : String} {w : Surroundings}

/-- A command that shows its report has nothing more to tell. -/
theorem Command.Fits.of_showsReport {c : Command} {x : Work Unit} (hreport : c.showsReport = true)
    (hiff : x.code = 20 ↔ p.report.issues ≠ [])
    (hvalid : p.report.issues = [] → ∀ format, c = .validate subject format → x.code = 0) :
    c.Fits subject l p x where
  refused_iff := hiff
  validated format hc hv := hvalid hv format hc
  described hc _ := by
    rw [hc] at hreport
    cases hreport
  told h _ := by
    rw [hreport] at h
    cases h

theorem fits_validate (hp : parse subject.expression (subject.modeIn s) = .ok p)
    (hformat : format = "console" ∨ format = "json") :
    (Command.validate subject format).Fits subject l p (runValidate subject format s) := by
  obtain ⟨f, hf⟩ := exists_formatOf_eq hformat
  have hresult : (runValidate subject format s).result =
      if p.report.isValid then .ok () else .error (.exit .validationFailed) := by
    rw [runValidate, hf, Work.pure_bind, Work.result_bind_of_ok (result_parsed hp),
      Work.result_bind_of_ok (result_showVerdict _ _ _)]
    split <;> rfl
  rcases p.valid?_cases with ⟨e, -, -, -, hissues⟩ | ⟨-, hissues⟩
  · have hcode : (runValidate subject format s).code = 0 := by
      rw [Work.code, hresult, if_pos (Report.isValid_iff.mpr hissues)]
    refine .of_showsReport rfl ?_ fun _ _ _ => hcode
    rw [hcode]
    exact iff_of_false (by decide) (not_not.mpr hissues)
  · have hcode : (runValidate subject format s).code = 20 := by
      rw [Work.code, hresult, if_neg (mt Report.isValid_iff.mp hissues)]
      rfl
    exact .of_showsReport rfl (iff_of_true hcode hissues) fun hv => absurd hv hissues

/-- The work of a command that stops at an expression that is not valid. -/
theorem fits_refusal {c : Command} (hp : parse subject.expression (subject.modeIn s) = .ok p)
    (hnone : p.valid? = none) (hissues : p.report.issues ≠ []) (f : Expression → Work Unit) :
    c.Fits subject (subject.localeIn s) p
      (validExpression subject.expression (subject.modeIn s) (subject.tagIn s) >>= f) := by
  rw [Work.bind_of_error (result_validExpression_of_none hp hnone)]
  exact {
    refused_iff := iff_of_true rfl hissues
    validated := fun _ _ hv => absurd hv hissues
    described := fun _ hv => absurd hv hissues
    told := fun _ _ => ⟨isSilent_validExpression, complaints_refusal _ _⟩ }

theorem fits_describe (hp : parse subject.expression (subject.modeIn s) = .ok p) :
    (Command.describe subject).Fits subject (subject.localeIn s) p (runDescribe subject s) := by
  rcases p.valid?_cases with ⟨e, rfl, hsome, hv, hissues⟩ | ⟨hnone, hissues⟩
  · have hshown : runDescribe subject s = ⟨(validExpression subject.expression (subject.modeIn s)
        (subject.tagIn s)).shown ++ ((sentenceOf e (subject.tagIn s)).shown ++
          [.echo (e.sentence (subject.localeIn s))]), .ok ()⟩ := by
      rw [runDescribe, Work.bind_of_ok (result_validExpression_of_some hp hsome),
        Work.bind_of_ok (result_sentenceOf hv)]
      rfl
    have hcode : (runDescribe subject s).code = 0 := by rw [hshown]; rfl
    have hsilent : (validExpression subject.expression (subject.modeIn s) (subject.tagIn s)).IsSilent :=
      isSilent_validExpression
    have hsentence : (sentenceOf e (subject.tagIn s)).IsSilent := isSilent_sentenceOf
    refine ⟨iff_of_false (by rw [hcode]; decide) (not_not.mpr hissues), nofun, fun _ _ => ?_,
      fun _ hne => absurd hissues hne⟩
    rw [hshown]
    refine ⟨rfl, ?_, e, _, rfl, describe_of_isValid hv _, ?_⟩
    · rw [List.filter_append, List.filter_append, hsilent.filter_eq_nil fun _ => rfl,
        hsentence.filter_eq_nil fun _ => rfl]
      rfl
    · rw [List.filter_append, List.filter_append, hsilent.filter_eq_nil fun _ => rfl,
        hsentence.filter_eq_nil fun _ => rfl]
      rfl
  · exact fits_refusal hp hnone hissues _

/-- A valid expression takes the command to another end. -/
theorem Command.Fits.of_fails {c : Command} {x : Work Unit} (hissues : p.report.issues = [])
    (hx : FailsOnly Stop.IsOther x.result) (hvalidate : ∀ format, c ≠ .validate subject format)
    (hdescribe : c ≠ .describe subject) : c.Fits subject l p x where
  refused_iff := iff_of_false (code_ne_of_fails hx) (not_not.mpr hissues)
  validated format hc _ := absurd hc (hvalidate format)
  described hc _ := absurd hc hdescribe
  told _ hne := absurd hissues hne

theorem fits_next {o : NextOptions} (hp : parse subject.expression (subject.modeIn s) = .ok p)
    (hformat : format = "console" ∨ format = "json") (hbudget : 1 ≤ o.maxIterations.getD s.maxIterations) :
    (Command.next subject o format).Fits subject (subject.localeIn s) p (runNext w subject o format s) := by
  obtain ⟨f, hf⟩ := exists_formatOf_eq hformat
  rw [runNext, hf, Work.pure_bind]
  simp only [if_neg (Int.not_lt.mpr hbudget)]
  rcases p.valid?_cases with ⟨e, -, hsome, -, hissues⟩ | ⟨hnone, hissues⟩
  · refine .of_fails hissues ?_ nofun nofun
    rw [Work.result_bind_of_ok (result_validExpression_of_some hp hsome)]
    simp only [Work.result_bind, Work.result_quietly]
    refine (zoneOf_fails _ _).bind fun zone => (ofStart_fails _ _ _).bind fun reference => ?_
    exact runFrom_fails _ _ _ _ _
  · exact fits_refusal hp hnone hissues _

theorem fits_explain {count : Option Int} (hp : parse subject.expression (subject.modeIn s) = .ok p)
    (hformat : format = "console" ∨ format = "json") :
    (Command.explain subject count format).Fits subject l p (runExplain w subject count format s) := by
  obtain ⟨f, hf⟩ := exists_formatOf_eq hformat
  rcases p.valid?_cases with ⟨e, -, hsome, -, hissues⟩ | ⟨hnone, hissues⟩
  · refine .of_fails hissues ?_ nofun nofun
    rw [runExplain, hf, Work.pure_bind, Work.result_bind_of_ok (result_parsed hp), hsome]
    exact explain_fails _ _ _
  · have hresult : (runExplain w subject count format s).result = .error (.exit .validationFailed) := by
      rw [runExplain, hf, Work.pure_bind, Work.result_bind_of_ok (result_parsed hp), hnone]
      exact Work.result_bind_of_ok (result_showUnexplained _ _ _)
    have hcode : (runExplain w subject count format s).code = 20 := by
      rw [Work.code, hresult]
      rfl
    exact .of_showsReport rfl (iff_of_true hcode hissues) fun hv => absurd hv hissues

end

theorem one_le_maxIterations {w : Surroundings} {config : Option String} {s : Settings}
    (h : loadSettings w config = .ok s) : 1 ≤ s.maxIterations := by
  by_cases hthere : ∀ path, config = some path → (w.file path).target ≠ .nothing
  · rw [loadSettings_of_something hthere, mapError_eq_ok] at h
    obtain ⟨n, ⟨⟩, hn⟩ := Settings.admits_datum_of_load h .maxIterations
    exact hn
  · obtain ⟨path, hpath⟩ := not_forall.mp hthere
    obtain ⟨rfl, hnothing⟩ := Classical.not_imp.mp hpath
    rw [loadSettings_of_nothing (not_not.mp hnothing)] at h
    cases h

/-- The four commands that are about an expression agree with what is read of it, whatever its text, the
options, the settings and the surroundings are, in the language that is asked for or else set. -/
theorem run_agrees {w : Surroundings} {i : Invocation} {s : Settings} {subject : Subject}
    (hload : loadSettings w i.config = .ok s) (hc : i.command.IsAbout subject)
    (hshort : ¬ HasLongNumber subject.expression.toList) :
    ∃ p, parse subject.expression (.ofSeconds (subject.seconds || s.includeSeconds)) = .ok p ∧
      i.command.Agrees w subject (.ofTag ((subject.locale.filter (· ≠ "")).getD s.locale)) p (run w i) := by
  rw [← Subject.localeIn_eq]
  cases hp : parse subject.expression (subject.modeIn s) with
  | error o => exact absurd (hasLongNumber_of_parse hp) hshort
  | ok p =>
    obtain ⟨js, hrun⟩ := run_of_loadSettings hload
    rw [hrun]
    refine ⟨p, hp, (Command.Fits.after_log ?_ js).agrees⟩
    obtain ⟨config, verbose, c⟩ := i
    cases hc with
    | validate hformat => exact fits_validate hp hformat
    | @next o _ hformat hbudget =>
      refine fits_next hp hformat ?_
      cases hn : o.maxIterations with
      | none => exact one_le_maxIterations hload
      | some n => exact hbudget n hn
    | describe => exact fits_describe hp
    | explain hformat => exact fits_explain hp hformat

/-- Surroundings without variables and files, at the epoch. No zone is known, and all can be written. -/
def bareSurroundings : Surroundings where
  environment := []
  readers := Settings.tiedReaders
  file path := .ofPath path .nothing
  zones _ := .error .unknown
  clock := ⟨.epoch, .epoch⟩
  stderr := ⟨2, false⟩
  refusal? _ _ := none

theorem loadSettings_bare : loadSettings bareSurroundings none = .ok Settings.standard := by
  decide +kernel

/-- Two tokens that are out of range, told in Chinese, with the journal in between. -/
theorem run_agrees_next :
    loadSettings bareSurroundings none = .ok Settings.standard ∧
      (Command.next ⟨"61 25 * * *", false, "zh"⟩ ⟨none, none, none, none⟩ "console").IsAbout
        ⟨"61 25 * * *", false, "zh"⟩ ∧
      ¬ HasLongNumber "61 25 * * *".toList ∧ ∃ p, parse "61 25 * * *" .minutes = .ok p ∧
        (Command.next ⟨"61 25 * * *", false, "zh"⟩ ⟨none, none, none, none⟩ "console").Agrees bareSurroundings
          ⟨"61 25 * * *", false, "zh"⟩ .zh p
          (run bareSurroundings ⟨none, true, .next ⟨"61 25 * * *", false, "zh"⟩ ⟨none, none, none, none⟩ "console"⟩) := by
  have hc : (Command.next ⟨"61 25 * * *", false, "zh"⟩ ⟨none, none, none, none⟩ "console").IsAbout
      ⟨"61 25 * * *", false, "zh"⟩ := .next (.inl rfl) (by simp)
  have hshort : ¬ HasLongNumber "61 25 * * *".toList := not_hasLongNumber (by decide)
  have hzh : Locale.ofTag (((some "zh").filter (· ≠ "")).getD Settings.standard.locale) = .zh := by
    decide +kernel
  obtain ⟨p, hp, hagrees⟩ := run_agrees (w := bareSurroundings)
    (i := ⟨none, true, .next ⟨"61 25 * * *", false, "zh"⟩ ⟨none, none, none, none⟩ "console"⟩)
    loadSettings_bare hc hshort
  exact ⟨loadSettings_bare, hc, hshort, p, hp, hzh ▸ hagrees⟩

/-- Whether the output can be written in ASCII. -/
def Passage.isAsciiOutput : Passage → Bool
  | echo text => text.toList.all (·.toNat < 0x80)
  | page (.line spans) => spans.all fun s => s.text.toList.all (·.toNat < 0x80)
  | page (.table columns rows) =>
    (columns.map (·.title) ++ rows.flatten.map (·.text)).all fun s => s.toList.all (·.toNat < 0x80)
  | page (.panel title lines) =>
    (title :: lines.flatten.map (·.text)).all fun s => s.toList.all (·.toNat < 0x80)
  | complaint .. | record _ => true

/-- Surroundings whose output takes ASCII only, while all that is told of failures can be written. -/
def asciiSurroundings : Surroundings :=
  { bareSurroundings with
    refusal? := fun _ p =>
      if p.isAsciiOutput then none else some ⟨"UnicodeEncodeError", "ordinal not in range(128)"⟩ }

/-- Where the cross in front of the heading cannot be written, a command that shows its report exits with the
general code; one that tells of the issues exits with the code for a failed validation. -/
theorem run_where_cross_is_refused :
    (run asciiSurroundings ⟨none, false, .validate ⟨"x * * * *", false, none⟩ "console"⟩).code = 1 ∧
      (run asciiSurroundings ⟨none, false, .describe ⟨"x * * * *", false, none⟩⟩).code = 20 ∧
      (run asciiSurroundings ⟨none, false, .next ⟨"x * * * *", false, none⟩ ⟨none, none, none, none⟩ "console"⟩).code
        = 20 ∧
      ∃ p, parse "x * * * *" .minutes = .ok p ∧ p.report.issues ≠ [] := by
  refine ⟨by decide +kernel, by decide +kernel, by decide +kernel, _, rfl, by decide +kernel⟩

end CommandLine

end CronSchedule
