import CronSchedule.CommandLine.Run
import CronSchedule.Proofs.Outcome

/-!
How the program ends, whatever its surroundings refuse to write. Main statements: the code is that of the
stop, if there was one, and the general one once something is refused (`Work.code_outcome`), and the settings
are loaded before a command begins (`run_of_loadSettings`, `code_run_of_loadSettings_error`).
-/

namespace CronSchedule.CommandLine

/-! ## Writing -/

section

variable {w : Surroundings} {before ps : List Passage}

theorem write_of_none (h : ∀ before, ∀ p ∈ ps, w.refuses? before p = none) :
    w.write before ps = (before ++ ps, none) := by
  induction ps generalizing before with
  | nil =>
    rw [List.append_nil]
    rfl
  | cons p ps ih =>
    rw [Surroundings.write, h before p List.mem_cons_self]
    simp only
    rw [ih fun before q hq => h before q (List.mem_cons_of_mem p hq), List.append_assoc, List.singleton_append]

/-- What is written comes first among what was to be written. -/
theorem exists_write_eq (w : Surroundings) (before ps : List Passage) :
    ∃ written refusal, w.write before ps = (before ++ written, refusal) ∧ written <+: ps ∧
      (refusal = none → written = ps) := by
  induction ps generalizing before with
  | nil => exact ⟨[], none, by rw [List.append_nil]; rfl, List.prefix_rfl, fun _ => rfl⟩
  | cons p ps ih =>
    rw [Surroundings.write]
    cases w.refuses? before p with
    | some e => exact ⟨[], some e, by rw [List.append_nil], List.nil_prefix, nofun⟩
    | none =>
      obtain ⟨written, refusal, hwrite, hstarts, hall⟩ := ih (before ++ [p])
      refine ⟨p :: written, refusal, ?_, (List.prefix_cons_inj p).mpr hstarts, fun h => by rw [hall h]⟩
      rw [hwrite, List.append_assoc, List.singleton_append]

end

/-! ## Work and its outcome -/

namespace Work

variable (w : Surroundings) (setup : LogSetup) (x : Work Unit)

/-- The code that work ends with if nothing is refused. -/
def code (x : Work Unit) : Nat :=
  match x.result with
  | .ok () => 0
  | .error stop => stop.code.value

/-- What is told when the work has ended. -/
def told (x : Work Unit) : List Passage :=
  match x.result with
  | .ok () => []
  | .error stop => stop.told

theorem isOutput_of_mem_told {stop : Stop} {p : Passage} (h : p ∈ stop.told) : p.isOutput = false := by
  cases stop with
  | exit code => cases h
  | raised e =>
    rcases List.mem_cons.mp h with rfl | h
    · rfl
    · rw [List.mem_singleton.mp h]
      rfl
  | failed f =>
    rcases List.mem_append.mp h with h | h
    · rcases List.mem_cons.mp h with rfl | h
      · rfl
      · obtain ⟨issue, -, rfl⟩ := List.mem_map.mp h
        rfl
    · split at h
      · cases h
      · rw [List.mem_singleton.mp h]
        rfl

/-- What is told of a stop is written after the rest, unless some of it is refused. -/
theorem exists_outcome_stop (before : List Passage) (refused : Option Exception) (stop : Stop) :
    ∃ told refusal, (∀ p ∈ told, p.isOutput = false) ∧
      (refusal = none → told = stop.told.filter (·.passes setup)) ∧
      stop.outcome w setup before refused =
        ⟨if refusal = none then stop.code.value else ExitCode.general.value, before ++ told, refused.or refusal⟩ := by
  obtain ⟨told, refusal, hwrite, hstarts, hall⟩ := exists_write_eq w before (stop.told.filter (·.passes setup))
  refine ⟨told, refusal, fun p hp => ?_, hall, ?_⟩
  · exact isOutput_of_mem_told (List.mem_filter.mp (hstarts.subset hp)).1
  · rw [Stop.outcome, hwrite]
    cases refusal with
    | none => simp
    | some e => simp

/-- Work ends in one of two ways: all that gets past the logger is written, or something is refused and the code
is the general one. -/
theorem outcome_cases :
    x.outcome w setup = ⟨x.code, (x.shown ++ x.told).filter (·.passes setup), none⟩ ∨
      ∃ written told e, x.outcome w setup = ⟨ExitCode.general.value, written ++ told, some e⟩ ∧
        written <+: x.shown.filter (·.passes setup) ∧ ∀ p ∈ told, p.isOutput = false := by
  obtain ⟨written, refusal, hwrite, hstarts, hall⟩ := exists_write_eq w [] (x.shown.filter (·.passes setup))
  rw [List.nil_append] at hwrite
  rw [outcome, hwrite, code, told]
  cases refusal with
  | some e =>
    obtain ⟨told, refusal, htold, -, hend⟩ := exists_outcome_stop w setup written (some e) (.raised e)
    refine .inr ⟨written, told, e, hend.trans ?_, hstarts, htold⟩
    simp [Stop.code]
  | none =>
    obtain rfl := hall rfl
    cases x.result with
    | ok u => exact .inl (by rw [List.append_nil])
    | error stop =>
      obtain ⟨told, refusal, htold, hall, hend⟩ := exists_outcome_stop w setup (x.shown.filter (·.passes setup)) none stop
      cases refusal with
      | none => exact .inl (hend.trans (by rw [hall rfl, ← List.filter_append]; rfl))
      | some e => exact .inr ⟨_, told, e, hend, hstarts, htold⟩

variable {w setup x}

/-- Once something is refused, the code is the general one. -/
theorem code_outcome : (x.outcome w setup).code =
    if (x.outcome w setup).refused = none then x.code else ExitCode.general.value := by
  rcases outcome_cases w setup x with h | ⟨written, told, e, h, -, -⟩
  · rw [h, if_pos rfl]
  · rw [h, if_neg nofun]

/-- The logger holds back lines of the journal only. -/
theorem filter_passes {shows : Passage → Bool} (h : ∀ j, shows (.record j) = false) (ps : List Passage) :
    (ps.filter (·.passes setup)).filter shows = ps.filter shows := by
  rw [List.filter_filter]
  apply List.filter_congr
  intro p _
  cases p with
  | record j => rw [h j, Bool.false_and]
  | echo | page | complaint => exact Bool.and_true _

theorem filter_isOutput_told : x.told.filter Passage.isOutput = [] := by
  rw [told, List.filter_eq_nil_iff]
  intro p hp
  cases hresult : x.result with
  | ok u =>
    rw [hresult] at hp
    cases hp
  | error stop =>
    rw [hresult] at hp
    rw [isOutput_of_mem_told hp]
    exact Bool.false_ne_true

theorem out_outcome (h : (x.outcome w setup).refused = none) :
    (x.outcome w setup).out = x.shown.filter Passage.isOutput := by
  rcases outcome_cases w setup x with hend | ⟨written, told, e, hend, -, -⟩
  · rw [hend, Outcome.out, filter_passes fun _ => rfl, List.filter_append, filter_isOutput_told, List.append_nil]
  · rw [hend] at h
    cases h

theorem out_outcome_eq_nil (h : ∀ p ∈ x.shown, p.isOutput = false) : (x.outcome w setup).out = [] := by
  have hshown : x.shown.filter Passage.isOutput = [] :=
    List.filter_eq_nil_iff.mpr fun p hp => by rw [h p hp]; exact Bool.false_ne_true
  rcases outcome_cases w setup x with hend | ⟨written, told, e, hend, hstarts, htold⟩
  · rw [hend, Outcome.out, filter_passes fun _ => rfl, List.filter_append, hshown, filter_isOutput_told]
    rfl
  · rw [hend, Outcome.out, List.filter_eq_nil_iff]
    intro p hp
    rcases List.mem_append.mp hp with hp | hp
    · rw [h p (List.mem_filter.mp (hstarts.subset hp)).1]
      exact Bool.false_ne_true
    · rw [htold p hp]
      exact Bool.false_ne_true

theorem complaints_outcome (h : (x.outcome w setup).refused = none) :
    (x.outcome w setup).complaints = (x.shown ++ x.told).filter Passage.isComplaint := by
  rcases outcome_cases w setup x with hend | ⟨written, told, e, hend, -, -⟩
  · rw [hend, Outcome.complaints, filter_passes fun _ => rfl]
  · rw [hend] at h
    cases h

theorem refused_outcome (h : ∀ before, ∀ p ∈ x.shown ++ x.told, w.refuses? before p = none) :
    (x.outcome w setup).refused = none := by
  have hpasses (ps : List Passage) (hps : ps ⊆ x.shown ++ x.told) (before : List Passage) :
      w.write before (ps.filter (·.passes setup)) = (before ++ ps.filter (·.passes setup), none) :=
    write_of_none fun before p hp => h before p (hps (List.mem_filter.mp hp).1)
  rw [outcome, hpasses _ (List.subset_append_left _ _)]
  have htold := hpasses x.told (List.subset_append_right _ _)
  rw [told] at htold
  cases hresult : x.result with
  | ok u => rfl
  | error stop =>
    rw [hresult] at htold
    simp only [Stop.outcome, htold]

end Work

/-! ## The program -/

section

variable {w : Surroundings} {i : Invocation} {s : Settings}

/-- A line of the journal that is shown is what the logger writes of its record, to the standard error. -/
theorem write_record (here : LocalClock) (stderr : LogStream) (verbose : Bool) (j : JournalLine) (created : Moment) :
    (logSetup stderr verbose).write here (j.record created) =
      if Passage.passes (logSetup stderr verbose) (.record j) then
        [(stderr, (j.record created).text here (.console stderr.isTerminal) ++ "\n")]
      else [] := rfl

theorem exists_prepared_eq (h : loadSettings w i.config = .ok s) :
    ∃ js : List JournalLine, prepared w i.config = ⟨js.map .record, .ok s⟩ := by
  refine ⟨Journal.ofSettings w.readers (Settings.sources [] (i.config.map w.file) w.environment
    Settings.standardGroup) ++ [JournalLine.debug "cronlens.cli" ("Using " ++ s.display)], ?_⟩
  rw [prepared, h, List.map_append]
  rfl

/-- Once the settings are loaded, the command works with them. -/
theorem run_of_loadSettings (h : loadSettings w i.config = .ok s) :
    ∃ js, run w i = (Work.log js >>= fun _ => i.command.work w s).outcome w (logSetup w.stderr i.verbose) := by
  obtain ⟨js, hprepared⟩ := exists_prepared_eq h
  rw [run, hprepared]
  exact ⟨js, rfl⟩

/-- If they are not, the program ends with that. -/
theorem run_of_loadSettings_error {stop : Stop} (h : loadSettings w i.config = .error stop) :
    ∃ js, run w i = (Work.log js >>= fun _ => .stop stop).outcome w (logSetup w.stderr i.verbose) := by
  rw [run, prepared, h]
  exact ⟨_, rfl⟩

theorem code_run_of_loadSettings_error {stop : Stop} (h : loadSettings w i.config = .error stop)
    (hrefused : (run w i).refused = none) : (run w i).code = stop.code.value := by
  obtain ⟨js, hrun⟩ := run_of_loadSettings_error h
  rw [hrun] at hrefused ⊢
  rw [Work.code_outcome, if_pos hrefused]
  rfl

end

end CronSchedule.CommandLine
