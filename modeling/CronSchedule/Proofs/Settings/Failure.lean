import CronSchedule.Proofs.CommandLine.Ending
import CronSchedule.Proofs.Datum.Refusal
import CronSchedule.Proofs.Number.DecimalText
import CronSchedule.Proofs.Settings.Acceptance

/-!
How loading settings fails. Main statement: it fails in another way than by a refused file or by faults of
the settings exactly if what is at the path of the file cannot be read as a text, if its JSON has a number too
long or brackets too deep, if the reader of YAML fails in a way of its own, or if the hours are an integer too
large (`CommandLine.load_undeclared`).
-/

namespace CronSchedule

/-- Whether the callers that load settings are told to expect the error. -/
def SettingsError.isDeclared (err : SettingsError) : Bool :=
  err.exception?.isNone

theorem SettingsError.isDeclared_eq_false_iff {err : SettingsError} :
    err.isDeclared = false ↔ err.exception?.isSome := by
  rw [isDeclared]
  cases err.exception? with
  | none => exact iff_of_false nofun nofun
  | some e => exact iff_of_true rfl rfl

/-- Sources that are given as they are, with their priorities. -/
def Source.fixedAll (statics : List (Int × Members)) : List Source :=
  statics.map fun (priority, members) => .fixed priority members

namespace ConfigFile

/-- The suffix asks for YAML. -/
def IsYaml (f : ConfigFile) : Prop :=
  Text.lower (suffix f.name) = ".yaml" ∨ Text.lower (suffix f.name) = ".yml"

def IsJson (f : ConfigFile) : Prop :=
  Text.lower (suffix f.name) = ".json"

/-- Reading the content in the format that the suffix asks for fails. -/
def FailsToRead (r : Readers) (f : ConfigFile) (content : String) (u : Datum.Unreadable) : Prop :=
  f.IsYaml ∧ r.yaml content = .error u ∨ f.IsJson ∧ Json.read r.jsonHalf r.jsonDepth content = .error u

/-- What goes wrong with a file before it can be accepted or refused. -/
inductive Breaks (r : Readers) (f : ConfigFile) : Prop
  | directory (h : f.target = .directory)
  | unnamable (h : f.target = .unnamable)
  | broken {e : Exception} (h : f.target = .broken e)
  | overlong {content : String} {e : OverlongNumber} (h : f.target = .file content) (hjson : f.IsJson)
      (hread : Json.read r.jsonHalf r.jsonDepth content = .error (.overlong e)) (hlong : maxDigits < e.digits)
  | tooDeep {content : String} {b : Datum.Bracket} (h : f.target = .file content) (hjson : f.IsJson)
      (hread : Json.read r.jsonHalf r.jsonDepth content = .error (.tooDeep b))
  | yaml {content : String} {u : Datum.Unreadable} (h : f.target = .file content) (hyaml : f.IsYaml)
      (hread : r.yaml content = .error u) (hu : u ≠ .malformed)

variable {r : Readers} {f : ConfigFile} {content : String} {u : Datum.Unreadable} {e : FileError}

theorem settingsOf_error {path : String} {d : Datum} (h : settingsOf path d = .error e) :
    e.exception? = none := by
  rw [settingsOf.eq_def] at h
  split at h
  · split at h <;> cases h
  · cases h
    rfl

/-- The error of a file whose content cannot be read. -/
def errorOf (f : ConfigFile) : Datum.Unreadable → FileError
  | .malformed => .unreadable f.path
  | .overlong o => .overlong o
  | .tooDeep b => .tooDeep b
  | .other e => .other e

theorem isSome_exception?_errorOf : (f.errorOf u).exception?.isSome ↔ u ≠ .malformed := by
  cases u with
  | malformed => exact iff_of_false Bool.false_ne_true fun h => h rfl
  | overlong | tooDeep | other => exact iff_of_true rfl nofun

theorem read_of_failsToRead (h : f.FailsToRead r content u) : f.read r content = .error (f.errorOf u) := by
  rw [read]
  rcases h with ⟨hsuffix, h⟩ | ⟨hsuffix, h⟩
  · rw [IsYaml] at hsuffix
    simp only [if_pos hsuffix, h]
    cases u <;> rfl
  · rw [IsJson] at hsuffix
    rw [hsuffix, if_neg (by decide), if_pos rfl, h]
    cases u <;> rfl

theorem failsToRead_of_read (h : f.read r content = .error e) (hexception : e.exception?.isSome) :
    ∃ u, f.FailsToRead r content u ∧ e = f.errorOf u := by
  rw [read] at h
  split at h
  · next hsuffix =>
    cases hu : r.yaml content with
    | ok d =>
      rw [hu] at h
      cases h
    | error u =>
      rw [hu] at h
      refine ⟨u, .inl ⟨hsuffix, hu⟩, ?_⟩
      cases u <;> cases h <;> rfl
  · split at h
    · next hsuffix =>
      cases hu : Json.read r.jsonHalf r.jsonDepth content with
      | ok d =>
        rw [hu] at h
        cases h
      | error u =>
        rw [hu] at h
        refine ⟨u, .inr ⟨hsuffix, hu⟩, ?_⟩
        cases u <;> cases h <;> rfl
    · cases h
      cases hexception

theorem members_of_file (h : f.target = .file content) (required : Bool) :
    f.members r required = f.read r content >>= settingsOf f.path := by
  rw [members, h]

/-- A file whose content fails to be read breaks, unless it is refused as malformed. -/
theorem Breaks.of_failsToRead (h : f.target = .file content) (hread : f.FailsToRead r content u)
    (hu : u ≠ .malformed) : f.Breaks r := by
  rcases hread with ⟨hyaml, hread⟩ | ⟨hjson, hread⟩
  · exact .yaml h hyaml hread hu
  · have hfair : u.IsFair := Json.read_fails r.jsonHalf r.jsonDepth content u hread
    cases u with
    | malformed => exact absurd rfl hu
    | overlong o => exact .overlong h hjson hread hfair
    | tooDeep b => exact .tooDeep h hjson hread
    | other e => exact hfair.elim

theorem breaks_iff (required : Bool) :
    f.Breaks r ↔ ∃ e, f.members r required = .error e ∧ e.exception?.isSome := by
  constructor
  · intro h
    have hfails {content : String} {u : Datum.Unreadable} (h : f.target = .file content)
        (hread : f.FailsToRead r content u) (hu : u ≠ .malformed) :
        ∃ e, f.members r required = .error e ∧ e.exception?.isSome :=
      ⟨_, by rw [members_of_file h, read_of_failsToRead hread]; rfl, isSome_exception?_errorOf.mpr hu⟩
    cases h with
    | directory h => exact ⟨.isDirectory f.path, by rw [members, h], rfl⟩
    | unnamable h => exact ⟨.nameTooLong f.path, by rw [members, h], rfl⟩
    | @broken e h => exact ⟨.other e, by rw [members, h], rfl⟩
    | overlong h hjson hread => exact hfails h (.inr ⟨hjson, hread⟩) nofun
    | tooDeep h hjson hread => exact hfails h (.inr ⟨hjson, hread⟩) nofun
    | yaml h hyaml hread hu => exact hfails h (.inl ⟨hyaml, hread⟩) hu
  · rintro ⟨e, h, hexception⟩
    cases htarget : f.target with
    | nothing =>
      rw [members, htarget] at h
      cases required <;> cases h
      cases hexception
    | directory => exact .directory htarget
    | unnamable => exact .unnamable htarget
    | broken e => exact .broken htarget
    | file content =>
      rw [members_of_file htarget, bind_eq_error] at h
      rcases h with h | ⟨d, -, h⟩
      · obtain ⟨u, hread, rfl⟩ := failsToRead_of_read h hexception
        exact .of_failsToRead htarget hread (isSome_exception?_errorOf.mp hexception)
      · rw [settingsOf_error h] at hexception
        cases hexception

end ConfigFile

/-! ## Numerals in the environment -/

theorem Text.lowerAfter_of_isDigit {s : List Char} (h : ∀ c ∈ s, c.isDigit = true)
    (before : List Char) : lowerAfter before s = s := by
  induction s generalizing before with
  | nil => rfl
  | cons c s ih =>
    obtain ⟨hc, hs⟩ := List.forall_mem_cons.mp h
    have hlow : lowerCode lowerRanges c.toNat = c.toNat := by
      rw [Char.isDigit, Bool.and_eq_true, decide_eq_true_iff, decide_eq_true_iff] at hc
      have hlt : c.toNat < 0x41 := by
        have hle : c.toNat ≤ '9'.toNat := hc.2
        exact Nat.lt_of_le_of_lt hle (by decide)
      rw [lowerRanges, lowerCode, if_pos hlt]
    have hdotted : c ≠ '\u0130' := by
      rintro rfl
      exact absurd hc (by decide)
    have hsigma : c ≠ '\u03A3' := by
      rintro rfl
      exact absurd hc (by decide)
    rw [lowerAfter, if_neg hdotted, if_neg hsigma, hlow, Char.ofNat_toNat, ih hs]
    rfl

theorem Environment.readValue_digits (n : Numeral) :
    readValue (String.ofList n.digits) = .int n.value := by
  have hdigits : ∀ c ∈ n.digits, c.isDigit = true := List.all_eq_true.mp n.all_isDigit
  have hlower : Text.lower (String.ofList n.digits) = String.ofList n.digits := by
    rw [Text.lower, String.toList_ofList, Text.lowerAfter_of_isDigit hdigits]
  have hwords {a b c : String}
      (h : ∀ word ∈ [a, b, c], (word.toList ≠ [] && word.toList.all Char.isDigit) = false) :
      ¬ (String.ofList n.digits = a ∨ String.ofList n.digits = b ∨ String.ofList n.digits = c) := by
    intro hword
    have hdigit := h (String.ofList n.digits) (by simpa using hword)
    rw [String.toList_ofList, n.all_isDigit, Bool.and_true, decide_eq_false_iff_not] at hdigit
    exact hdigit n.digits_ne_nil
  have hpoint : '.' ∉ (String.ofList n.digits).toList := by
    rw [String.toList_ofList]
    intro hmem
    exact absurd (hdigits _ hmem) (by decide)
  rw [readValue]
  simp only [hlower]
  rw [if_neg (hwords (by decide)), if_neg (hwords (by decide)), if_neg (hwords (by decide)),
    if_neg hpoint, DecimalText.readInt?_digits]
  rfl

namespace Settings

theorem load_hours_numeral (r : Readers) (n : Numeral) (h : powerOfTwo 1024 - powerOfTwo 970 ≤ n.value) :
    load r [] none [("CRONLENS_FAST_FAIL_HOURS", String.ofList n.digits)] standardGroup =
      .error .hoursTooLarge := by
  have hread : ∀ x ∈ sources [] none
      [("CRONLENS_FAST_FAIL_HOURS", String.ofList n.digits)] standardGroup,
      ∃ ms, x.members r = .ok ms := by
    intro x hx
    rw [List.mem_singleton.mp hx]
    exact ⟨_, rfl⟩
  obtain ⟨ds, hds⟩ := Definitions.exists_ofSources_eq_ok_iff.mpr hread
  have hlookup : ds.lookup .fastFailHours = some (.int n.value) := by
    refine (Definitions.lookup_ofSources_eq_some hds).mpr ⟨[], _, [], rfl, ?_, nofun, nofun⟩
    refine Source.definition?_environment_eq_some.mpr ⟨[], _, _, [], rfl, ?_, ?_, nofun⟩
    · decide +kernel
    · exact Environment.readValue_digits n
  have hnone := Definitions.withFloatHours?_eq_none.mpr
    ⟨_, hlookup, Binary64.ofInt?_eq_none_iff.mpr h⟩
  rw [load, ofSources, hds]
  simp only [ofDefinitions, hnone]

variable {r : Readers} {statics : List (Int × Members)} {file : Option ConfigFile} {env : Environment}
  {group : String} {e : FileError}

theorem ofSources_fixed_eq_error :
    Definitions.ofSources r (sources (Source.fixedAll statics) file env group) = .error e ↔
      ∃ f, file = some f ∧ f.members r true = .error e := by
  have hfile {e : FileError} (h : Definitions.ofSources r
      (sources (Source.fixedAll statics) file env group) = .error e) :
      ∃ f, file = some f ∧ f.members r true = .error e := by
    obtain ⟨before, x, after, hordered, -, hx⟩ := Definitions.ofSources_eq_error.mp h
    have hmem : x ∈ sources (Source.fixedAll statics) file env group :=
      Source.mem_ordered.mp (hordered ▸ List.mem_append_right _ List.mem_cons_self)
    rcases List.mem_append.mp hmem with hmem | hmem
    · rcases List.mem_append.mp hmem with hmem | hmem
      · obtain ⟨p, -, rfl⟩ := List.mem_map.mp hmem
        cases hx
      · obtain ⟨f, hf, rfl⟩ := Option.map_eq_some_iff.mp (Option.mem_toList.mp hmem)
        exact ⟨f, hf, hx⟩
    · rw [List.mem_singleton.mp hmem] at hx
      cases hx
  refine ⟨hfile, ?_⟩
  rintro ⟨f, rfl, hf⟩
  cases hds : Definitions.ofSources r
      (sources (Source.fixedAll statics) (some f) env group) with
  | ok ds =>
    have hmem : .file f ∈ sources (Source.fixedAll statics) (some f) env group :=
      List.mem_append_left _ (List.mem_append_right _ List.mem_cons_self)
    obtain ⟨ms, hms⟩ := Definitions.exists_ofSources_eq_ok_iff.mp ⟨ds, hds⟩ _ hmem
    cases hf.symm.trans hms
  | error e' =>
    obtain ⟨f', hsome, hf'⟩ := hfile hds
    cases hsome
    cases hf.symm.trans hf'
    rfl

theorem ofDefinitions_undeclared_iff {ds : Definitions} :
    (∃ err, ofDefinitions ds = .error err ∧ err.isDeclared = false) ↔
      ∃ n, ds.lookup .fastFailHours = some (.int n) ∧ Binary64.ofInt? n = none := by
  rw [← Definitions.withFloatHours?_eq_none]
  constructor
  · rintro ⟨err, h, hdeclared⟩
    rw [ofDefinitions] at h
    split at h
    · assumption
    · split at h
      · cases h
      · cases h
        cases hdeclared
  · intro h
    exact ⟨.hoursTooLarge, by rw [ofDefinitions, h], rfl⟩

theorem load_undeclared_iff (r : Readers) (statics : List (Int × Members)) (file : Option ConfigFile)
    (env : Environment) (group : String) :
    (∃ err, load r (Source.fixedAll statics) file env group = .error err ∧
        err.isDeclared = false) ↔
      (∃ f, file = some f ∧ f.Breaks r) ∨
        (∀ f, file = some f → ∃ ms, f.members r true = .ok ms) ∧
          ∃ n, Source.Decided r (sources (Source.fixedAll statics) file env group)
              .fastFailHours (.int n) ∧
            powerOfTwo 1024 - powerOfTwo 970 ≤ n.natAbs := by
  rw [load, ofSources]
  cases hds : Definitions.ofSources r (sources (Source.fixedAll statics) file env group) with
  | error e =>
    obtain ⟨f, rfl, hf⟩ := ofSources_fixed_eq_error.mp hds
    constructor
    · rintro ⟨err, ⟨⟩, hdeclared⟩
      have hexception : e.exception?.isSome := SettingsError.isDeclared_eq_false_iff.mp hdeclared
      exact .inl ⟨f, rfl, (ConfigFile.breaks_iff true).mpr ⟨e, hf, hexception⟩⟩
    · rintro (⟨f', ⟨⟩, hbreaks⟩ | ⟨hread, -⟩)
      · obtain ⟨e', he', hexception⟩ := (ConfigFile.breaks_iff true).mp hbreaks
        cases hf.symm.trans he'
        exact ⟨_, rfl, SettingsError.isDeclared_eq_false_iff.mpr hexception⟩
      · obtain ⟨ms, hms⟩ := hread f rfl
        cases hf.symm.trans hms
  | ok ds =>
    have hread : ∀ f, file = some f → ∃ ms, f.members r true = .ok ms := by
      rintro f rfl
      cases hf : f.members r true with
      | ok ms => exact ⟨ms, rfl⟩
      | error e =>
        rw [ofSources_fixed_eq_error.mpr ⟨f, rfl, hf⟩] at hds
        cases hds
    refine ofDefinitions_undeclared_iff.trans ?_
    simp only [Definitions.lookup_ofSources_eq_some hds, Binary64.ofInt?_eq_none_iff]
    constructor
    · intro h
      exact .inr ⟨hread, h⟩
    · rintro (⟨f, hf, hbreaks⟩ | ⟨-, h⟩)
      · obtain ⟨e, he, -⟩ := (ConfigFile.breaks_iff true).mp hbreaks
        obtain ⟨ms, hms⟩ := hread f hf
        cases he.symm.trans hms
      · exact h

end Settings

namespace CommandLine

variable {w : Surroundings} {config : Option String} {path : String}

theorem code_stop_eq_general_iff {err : SettingsError} :
    (SettingsError.stop err).code = .general ↔ err.isDeclared = false := by
  rw [SettingsError.stop, SettingsError.isDeclared]
  cases err.exception? with
  | none => exact iff_of_false nofun nofun
  | some e => exact iff_of_true rfl rfl

theorem code_stop_eq_configInvalid_iff {err : SettingsError} :
    (SettingsError.stop err).code = .configInvalid ↔ err.isDeclared = true := by
  rw [SettingsError.stop, SettingsError.isDeclared]
  cases err.exception? with
  | none => exact iff_of_true rfl rfl
  | some e => exact iff_of_false nofun nofun

theorem loadSettings_of_nothing (h : (w.file path).target = .nothing) :
    loadSettings w (some path) =
      .error (.failed (.missingFile "Configuration file" (w.file path).path)) := by
  rw [loadSettings]
  exact if_pos h

theorem loadSettings_of_something (h : ∀ path, config = some path → (w.file path).target ≠ .nothing) :
    loadSettings w config = (Settings.load w.readers [] (config.map w.file) w.environment
      Settings.standardGroup).mapError SettingsError.stop := by
  cases config with
  | none => rfl
  | some path =>
    rw [loadSettings]
    exact if_neg (h path rfl)

theorem load_of_nothing (h : (w.file path).target = .nothing) :
    Settings.load w.readers [] (some (w.file path)) w.environment Settings.standardGroup =
      .error (.file (.missing (w.file path).path)) := by
  have hmembers : (w.file path).members w.readers true = .error (.missing (w.file path).path) := by
    rw [ConfigFile.members, h]
    rfl
  have hsources : Definitions.ofSources w.readers (Settings.sources (Source.fixedAll []) (some (w.file path))
      w.environment Settings.standardGroup) = _ :=
    Settings.ofSources_fixed_eq_error.mpr ⟨_, rfl, hmembers⟩
  change Settings.ofSources w.readers (Settings.sources (Source.fixedAll []) _ _ _) = _
  rw [Settings.ofSources, hsources]

theorem exists_mapError_stop {r : Except SettingsError Settings} {code : ExitCode} :
    (∃ stop, r.mapError SettingsError.stop = .error stop ∧ stop.code = code) ↔
      ∃ err, r = .error err ∧ (SettingsError.stop err).code = code := by
  simp only [mapError_eq_error]
  constructor
  · rintro ⟨stop, ⟨err, h, rfl⟩, hcode⟩
    exact ⟨err, h, hcode⟩
  · rintro ⟨err, h, hcode⟩
    exact ⟨_, ⟨err, h, rfl⟩, hcode⟩

/-- Loading fails undeclared exactly if the file breaks, or if all can be read and hours that cannot be
converted are decided on. The command line has a code of its own for errors that are declared, but for a
missing file, and the general one for those that are not; it is what every command then exits with, unless
the message cannot be written. -/
theorem load_undeclared (r : Readers) (statics : List (Int × Members)) (file : Option ConfigFile)
    (env : Environment) (group : String) (w : Surroundings) (config : Option String) :
    ((∃ err, Settings.load r (Source.fixedAll statics) file env group = .error err ∧
        err.isDeclared = false) ↔
      (∃ f, file = some f ∧ f.Breaks r) ∨
        (∀ f, file = some f → ∃ ms, f.members r true = .ok ms) ∧
          ∃ n, Source.Decided r (Settings.sources (Source.fixedAll statics) file env group)
              .fastFailHours (.int n) ∧
            powerOfTwo 1024 - powerOfTwo 970 ≤ n.natAbs) ∧
      ((∃ stop, loadSettings w config = .error stop ∧ stop.code = .general) ↔
        ∃ err, Settings.load w.readers [] (config.map w.file) w.environment Settings.standardGroup =
          .error err ∧ err.isDeclared = false) ∧
      ((∃ stop, loadSettings w config = .error stop ∧ stop.code = .configInvalid) ↔
        (∀ path, config = some path → (w.file path).target ≠ .nothing) ∧
          ∃ err, Settings.load w.readers [] (config.map w.file) w.environment Settings.standardGroup =
            .error err ∧ err.isDeclared = true) ∧
      ∀ verbose c stop, loadSettings w config = .error stop → (run w ⟨config, verbose, c⟩).refused = none →
        (run w ⟨config, verbose, c⟩).code = stop.code.value := by
  refine ⟨Settings.load_undeclared_iff r statics file env group, ?_⟩
  rw [← and_assoc]
  refine ⟨?_, fun verbose c stop h => code_run_of_loadSettings_error (i := ⟨config, verbose, c⟩) h⟩
  by_cases hthere : ∀ path, config = some path → (w.file path).target ≠ .nothing
  · rw [loadSettings_of_something hthere, exists_mapError_stop, exists_mapError_stop]
    simp only [code_stop_eq_general_iff, code_stop_eq_configInvalid_iff]
    exact ⟨trivial, (and_iff_right hthere).symm⟩
  · obtain ⟨path, hpath⟩ := not_forall.mp hthere
    obtain ⟨rfl, hnot⟩ := Classical.not_imp.mp hpath
    have hpath := not_not.mp hnot
    rw [loadSettings_of_nothing hpath, Option.map_some, load_of_nothing hpath]
    constructor
    · refine iff_of_false ?_ ?_
      · rintro ⟨stop, ⟨⟩, ⟨⟩⟩
      · rintro ⟨err, ⟨⟩, ⟨⟩⟩
    · refine iff_of_false ?_ ?_
      · rintro ⟨stop, ⟨⟩, ⟨⟩⟩
      · rintro ⟨h, -⟩
        exact h path rfl hpath

theorem load_hours_too_large :
    Settings.load Settings.tiedReaders [] none
        [("CRONLENS_FAST_FAIL_HOURS", String.ofList ('2' :: List.replicate 308 '0'))]
        Settings.standardGroup = .error .hoursTooLarge :=
  Settings.load_hours_numeral _ ⟨'2' :: List.replicate 308 '0', by decide, by decide +kernel, by decide +kernel⟩
    (by decide +kernel)

end CommandLine

end CronSchedule
