import CronSchedule.Proofs.Calendar.Instant
import CronSchedule.Proofs.CommandLine.Agreement

/-!
The reference of the firings that are asked for. Main statement: a start is only its instant to a search in a
zone, whichever offset it is written with, and in a zone whose offset never changes the reference is what a
clock of the zone shows at that instant (`CommandLine.run_next_of_denotes`).
-/

namespace CronSchedule.CommandLine

/-! ## The reference of a search -/

section

variable {start start' : String} {i : Int}

/-- Two texts that stand for one instant give one reference in a zone, whatever its rules are. -/
theorem ofText_congr (h : Denotes start i) (h' : Denotes start' i) (rules : ZoneRules) :
    Reference.ofText start (some rules) = Reference.ofText start' (some rules) := by
  obtain ⟨stamp, hstamp, hi⟩ := h
  obtain ⟨stamp', hstamp', hi'⟩ := h'
  simp only [Reference.ofText, hstamp, hstamp', Stamp.inZone?_congr hi hi' rules]

theorem exists_ofText_fixed (h : Denotes start i) (z : Zone) :
    ∃ r, z.Resolves i r ∧
      Reference.ofText start (some (.fixed z)) = Reference.ofStamp? r (some (.fixed z)) := by
  obtain ⟨stamp, hstamp, hi⟩ := h
  refine ⟨stamp.inZone? (.fixed z), Zone.resolves_inZone? hi, ?_⟩
  simp only [Reference.ofText, hstamp]

end

/-! ## The search after it -/

namespace Work

variable {α β : Type}

theorem log_bind_log (js ks : List JournalLine) (x : Work α) :
    (log js >>= fun _ => log ks >>= fun _ => x) = log (js ++ ks) >>= fun _ => x := by
  rw [bind_of_ok (result_log js), bind_of_ok (result_log ks), bind_of_ok (result_log (js ++ ks))]
  simp only [log, List.map_append, List.append_assoc]

theorem log_bind_pure_bind (js : List JournalLine) (a : α) (f : α → Work β) :
    (log js >>= fun _ => pure a) >>= f = log js >>= fun _ => f a := by
  have hlog : (log js >>= fun _ => pure a : Work α) = ⟨(log js).shown ++ [], .ok a⟩ := rfl
  rw [hlog, List.append_nil, bind_of_ok (x := ⟨(log js).shown, .ok a⟩) rfl, bind_of_ok (result_log js)]

theorem quietly_ok_bind (a : α) (f : α → Work β) : quietly (.ok a) >>= f = f a := rfl

end Work

theorem validExpression_of_some {source tag : String} {mode : Mode} {p : Parsed} {e : Expression}
    (h : parse source mode = .ok p) (hv : p.valid? = some e) :
    validExpression source mode tag = Work.log (Journal.ofParse source mode tag) >>= fun _ => pure e := by
  have hparsed : parsed source mode tag = Work.log (Journal.ofParse source mode tag) >>= fun _ => pure p := by
    rw [parsed, h]
    rfl
  rw [validExpression, hparsed, Work.log_bind_pure_bind, hv]

section

variable {w : Surroundings} {subject : Subject} {count maxIterations : Option Int} {start start' key : String}
  {format : String} {s : Settings} {f : Format} {e : Expression}

theorem zoneOf_key (hkey : key ≠ "") :
    zoneOf w (zoneKey key s) = (some <$> w.zones key).mapError (ZoneFailure.stop key) := by
  simp only [zoneKey, if_neg hkey, zoneOf]

/-- A search knows its start by the reference only. -/
theorem runNext_congr (hkey : key ≠ "")
    (h : ∀ rules, Reference.ofText start (some rules) = Reference.ofText start' (some rules)) :
    runNext w subject ⟨count, start, key, maxIterations⟩ format s =
      runNext w subject ⟨count, start', key, maxIterations⟩ format s := by
  simp only [runNext, zoneOf_key hkey]
  cases w.zones key with
  | error e => rfl
  | ok rules =>
    have hzone : (some <$> (.ok rules : Except ZoneFailure ZoneRules)).mapError (ZoneFailure.stop key) =
        .ok (some rules) := rfl
    simp only [hzone, Work.quietly_ok_bind, Reference.ofStart, h rules]

theorem runNext_eq {rules : ZoneRules} (hf : Format.read format = .ok f)
    (hbudget : 1 ≤ maxIterations.getD s.maxIterations)
    (he : parse subject.expression (subject.modeIn s) = .ok (.expression e)) (hv : e.isValid = true)
    (hkey : key ≠ "") (hzone : w.zones key = .ok rules) :
    runNext w subject ⟨count, start, key, maxIterations⟩ format s =
      Work.log (Journal.ofParse subject.expression (subject.modeIn s) (subject.tagIn s)) >>= fun _ =>
        Work.quietly (Reference.ofText start (some rules)) >>=
          runFrom e (subject.tagIn s) f (count.getD s.defaultCount) (maxIterations.getD s.maxIterations) s := by
  have hsome : (Parsed.expression e).valid? = some e := Option.filter_eq_some_iff.mpr ⟨rfl, hv⟩
  have hformat : formatOf format = pure f := by
    rw [formatOf, hf]
    rfl
  rw [runNext, hformat, Work.pure_bind]
  simp only [if_neg (Int.not_lt.mpr hbudget), validExpression_of_some he hsome, Work.log_bind_pure_bind,
    zoneOf_key hkey, hzone]
  rfl

end

/-- Two starts of one instant end the program in the same way, whatever their offsets are. In a zone whose offset
never changes, the reference is what a clock of the zone shows at the instant, and with a valid expression and a
budget the program shows the firings after it, or fails with it. -/
theorem run_next_of_denotes {w : Surroundings} {config : Option String} {verbose : Bool} {subject : Subject}
    {count maxIterations : Option Int} {start start' key format : String} {i : Int}
    (hkey : key ≠ "") (hstart : Denotes start i) (hstart' : Denotes start' i) :
    run w ⟨config, verbose, .next subject ⟨count, start, key, maxIterations⟩ format⟩ =
      run w ⟨config, verbose, .next subject ⟨count, start', key, maxIterations⟩ format⟩ ∧
    ∀ zone : Zone, ∃ r, zone.Resolves i r ∧
      Reference.ofText start (some (.fixed zone)) = Reference.ofStamp? r (some (.fixed zone)) ∧
      Reference.ofText start' (some (.fixed zone)) = Reference.ofStamp? r (some (.fixed zone)) ∧
      ∀ s e f, w.zones key = .ok (.fixed zone) → loadSettings w config = .ok s →
        parse subject.expression (subject.modeIn s) = .ok (.expression e) → e.isValid = true →
        Format.read format = .ok f → 1 ≤ maxIterations.getD s.maxIterations →
        ∃ js, run w ⟨config, verbose, .next subject ⟨count, start, key, maxIterations⟩ format⟩ =
          (Work.log js >>= fun _ => Work.quietly (Reference.ofStamp? r (some (.fixed zone))) >>=
            runFrom e (subject.tagIn s) f (count.getD s.defaultCount) (maxIterations.getD s.maxIterations)
              s).outcome w (logSetup w.stderr verbose) := by
  constructor
  · have hwork : Command.work w (.next subject ⟨count, start, key, maxIterations⟩ format) =
        Command.work w (.next subject ⟨count, start', key, maxIterations⟩ format) :=
      funext fun _ => runNext_congr hkey (ofText_congr hstart hstart')
    rw [run, run, hwork]
  · intro zone
    obtain ⟨r, hr, hreference⟩ := exists_ofText_fixed hstart zone
    refine ⟨r, hr, hreference, ofText_congr hstart hstart' _ ▸ hreference, ?_⟩
    intro s e f hzone hload he hv hf hbudget
    obtain ⟨js, hrun⟩ := run_of_loadSettings (i := ⟨config, verbose, .next subject ⟨count, start, key, maxIterations⟩
      format⟩) hload
    rw [hrun, Command.work, runNext_eq hf hbudget he hv hkey hzone, hreference, Work.log_bind_log]
    exact ⟨_, rfl⟩

def ninthZone : Zone := ⟨9 * 3600 * microsecondsPerSecond, "+09"⟩

/-- Bare surroundings in which one zone is known. -/
def ninthSurroundings : Surroundings :=
  { bareSurroundings with
    zones := fun key => if key = "Etc/GMT-9" then .ok (.fixed ninthZone) else .error .unknown }

/-- A search for the starts of years on the clock of that zone. -/
def newYearSearch (start : String) : Command :=
  .next ⟨"0 0 1 1 *", false, none⟩ ⟨none, start, "Etc/GMT-9", none⟩ "console"

/-- An instant that is in the old year by one offset and in the new year by the other, on the clock of a third. -/
theorem run_next_at_new_year :
    Denotes "2023-12-31T23:30:00.5-01:00" 63839665800500000 ∧
    Denotes "20240101T061500,5+0545" 63839665800500000 ∧
    run ninthSurroundings ⟨none, true, newYearSearch "2023-12-31T23:30:00.5-01:00"⟩ =
      run ninthSurroundings ⟨none, true, newYearSearch "20240101T061500,5+0545"⟩ ∧
    ∃ (m : Moment) (e : Expression) (js : List JournalLine), m.civil = ⟨⟨2024, 1, 1⟩, 9, 30, 0, 500000⟩ ∧
      parse "0 0 1 1 *" .minutes = .ok (.expression e) ∧
      run ninthSurroundings ⟨none, true, newYearSearch "2023-12-31T23:30:00.5-01:00"⟩ =
        (Work.log js >>= fun _ => runFrom e "en" .console 5 1000 Settings.standard
          ⟨⟨m, ninthZone⟩, some (.fixed ninthZone)⟩).outcome ninthSurroundings (logSetup ⟨2, false⟩ true) := by
  have hstart : Denotes "2023-12-31T23:30:00.5-01:00" 63839665800500000 :=
    ⟨⟨⟨63839662200500000, by decide⟩, Zone.ofOffset (-3600000000)⟩, by decide +kernel, by decide +kernel⟩
  have hstart' : Denotes "20240101T061500,5+0545" 63839665800500000 :=
    ⟨⟨⟨63839686500500000, by decide⟩, Zone.ofOffset 20700000000⟩, by decide +kernel, by decide +kernel⟩
  obtain ⟨hrun, hzone⟩ := @run_next_of_denotes ninthSurroundings none true ⟨"0 0 1 1 *", false, none⟩
    none none _ _ "Etc/GMT-9" "console" _ (by decide) hstart hstart'
  refine ⟨hstart, hstart', hrun, ?_⟩
  obtain ⟨r, hr, -, -, hsearch⟩ := hzone ninthZone
  have hload : loadSettings ninthSurroundings none = .ok Settings.standard := by decide +kernel
  have hparse : ∃ e, parse "0 0 1 1 *" .minutes = .ok (.expression e) ∧ e.isValid = true :=
    ⟨_, rfl, by decide +kernel⟩
  obtain ⟨e, he, hv⟩ := hparse
  have htag : Subject.tagIn ⟨"0 0 1 1 *", false, none⟩ Settings.standard = "en" := by decide +kernel
  have hcount : (none : Option Int).getD Settings.standard.defaultCount = 5 := by decide +kernel
  have hbudget : (none : Option Int).getD Settings.standard.maxIterations = 1000 := by decide +kernel
  have hmode : Subject.modeIn ⟨"0 0 1 1 *", false, none⟩ Settings.standard = .minutes := by decide +kernel
  obtain ⟨js, hend⟩ := hsearch Settings.standard e .console rfl hload (by rw [hmode]; exact he) hv rfl
    (by decide +kernel)
  rw [htag, hcount, hbudget] at hend
  cases hr with
  | @shown m _ hm =>
    simp only [Reference.ofStamp?, Work.quietly_ok_bind] at hend
    exact ⟨m, e, js, hm.unique ⟨by decide, by decide⟩, he, hend⟩
  | offLine hoff => exact absurd ⟨by decide, by decide⟩ hoff

end CronSchedule.CommandLine
