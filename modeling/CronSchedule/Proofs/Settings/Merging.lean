import CronSchedule.Proofs.Outcome
import CronSchedule.Proofs.Settings.Admission
import CronSchedule.Settings.Source

/-!
How sources are put together. Main statement: of the sources that define a setting the last of those with
the highest priority decides it, a setting that none defines keeps its default, and members that are no
settings make no difference (`Settings.load_decided`).
-/

namespace CronSchedule

theorem append_cons_eq_append_cons {α : Type} {xs ys zs ws : List α} {a b : α}
    (h : xs ++ a :: ys = zs ++ b :: ws) :
    (xs = zs ∧ a = b ∧ ys = ws) ∨ (∃ mid, zs = xs ++ a :: mid ∧ ys = mid ++ b :: ws) ∨
      ∃ mid, xs = zs ++ b :: mid ∧ ws = mid ++ a :: ys := by
  rcases List.append_eq_append_iff.mp h with ⟨mid, rfl, hmid⟩ | ⟨mid, rfl, hmid⟩
  · rcases List.cons_eq_append_iff.mp hmid with ⟨rfl, hys⟩ | ⟨mid, rfl, rfl⟩
    · cases hys
      exact .inl ⟨(List.append_nil xs).symm, rfl, rfl⟩
    · exact .inr (.inl ⟨mid, rfl, rfl⟩)
  · rcases List.cons_eq_append_iff.mp hmid with ⟨rfl, hws⟩ | ⟨mid, rfl, rfl⟩
    · cases hws
      exact .inl ⟨List.append_nil zs, rfl, rfl⟩
    · exact .inr (.inr ⟨mid, rfl, rfl⟩)

theorem Setting.ofName?_eq_some {name : String} {s : Setting} :
    Setting.ofName? name = some s ↔ s.name = name := by
  constructor
  · intro h
    rw [ofName?] at h
    exact of_decide_eq_true (List.find?_some h :)
  · rintro rfl
    exact ofName?_name s

theorem Setting.ofKey?_eq_some {key : Key} {s : Setting} :
    Setting.ofKey? key = some s ↔ key = s.name := by
  cases key with
  | text name =>
    rw [Key.text.injEq, eq_comm (a := name)]
    exact ofName?_eq_some
  | other display => exact iff_of_false nofun nofun

/-- The members that are settings. -/
def Definitions.ofMembers (ms : Members) : Definitions :=
  ms.filterMap fun (key, d) => (Setting.ofKey? key).map (·, d)

namespace Source

/-- The settings among the members of a source. -/
def definitions (r : Readers) (x : Source) : Except FileError Definitions :=
  Definitions.ofMembers <$> x.members r

/-- The datum that a source which can be read defines a setting by. -/
def definition? (r : Readers) (x : Source) (s : Setting) : Option Datum :=
  match x.definitions r with
  | .ok ds => Association.last? s ds
  | .error _ => none

/-- One of the sources decides a setting by a datum: it defines the setting, and of the others that do
none before it has a higher priority and all after it have lower ones. -/
def Decided (r : Readers) (sources : List Source) (s : Setting) (d : Datum) : Prop :=
  ∃ before x after, sources = before ++ x :: after ∧ x.definition? r s = some d ∧
    (∀ y ∈ before, y.definition? r s ≠ none → y.priority ≤ x.priority) ∧
    ∀ y ∈ after, y.definition? r s ≠ none → y.priority < x.priority

variable {r : Readers} {sources : List Source} {s : Setting} {d : Datum} {x : Source}

theorem definition?_of_members {ms : Members} (h : x.members r = .ok ms) (s : Setting) :
    x.definition? r s = Association.last? s (Definitions.ofMembers ms) := by
  rw [definition?, definitions, h]
  rfl

theorem mem_ordered : x ∈ ordered sources ↔ x ∈ sources :=
  List.mem_mergeSort

/-- The first source is put before those of its own priority and behind those of lower ones. -/
theorem ordered_cons (x : Source) (sources : List Source) :
    ∃ low high, ordered (x :: sources) = low ++ x :: high ∧ ordered sources = low ++ high ∧
      (∀ y ∈ low, y.priority < x.priority) ∧ ∀ y ∈ high, x.priority ≤ y.priority := by
  have htrans : ∀ a b c : Source, decide (a.priority ≤ b.priority) = true →
      decide (b.priority ≤ c.priority) = true → decide (a.priority ≤ c.priority) = true := by
    intro a b c hab hbc
    exact decide_eq_true (Int.le_trans (of_decide_eq_true hab) (of_decide_eq_true hbc))
  have htotal : ∀ a b : Source,
      (decide (a.priority ≤ b.priority) || decide (b.priority ≤ a.priority)) = true := by
    intro a b
    simpa using Int.le_total a.priority b.priority
  obtain ⟨low, high, hxs, hs, hlow⟩ := List.mergeSort_cons htrans htotal x sources
  refine ⟨low, high, hxs, hs, fun y hy => ?_, fun y hy => ?_⟩
  · simpa using hlow y hy
  · have hsorted := List.pairwise_mergeSort htrans htotal (x :: sources)
    rw [hxs] at hsorted
    have hhigh := (List.pairwise_cons.mp (List.pairwise_append.mp hsorted).2.1).1
    exact of_decide_eq_true (hhigh y hy)

/-- Where a source stands among all of them, if it is the last in order with some property. -/
theorem exists_split_of_ordered {p : Source → Prop} {below above : List Source}
    (h : ordered sources = below ++ x :: above) (habove : ∀ y ∈ above, ¬ p y) :
    ∃ before after, sources = before ++ x :: after ∧ (∀ y ∈ before, p y → y.priority ≤ x.priority) ∧
      ∀ y ∈ after, p y → y.priority < x.priority := by
  induction sources generalizing below above with
  | nil =>
    rw [ordered, List.mergeSort_nil] at h
    exact absurd h (List.append_ne_nil_of_right_ne_nil _ (List.cons_ne_nil _ _)).symm
  | cons z zs ih =>
    obtain ⟨low, high, hz, hzs, hlow, hhigh⟩ := ordered_cons z zs
    rw [hz] at h
    rcases append_cons_eq_append_cons h with ⟨rfl, rfl, rfl⟩ | ⟨mid, rfl, rfl⟩ | ⟨mid, rfl, rfl⟩
    · -- the first source itself: all others with the property are among the lower ones
      refine ⟨[], zs, rfl, nofun, fun y hy hp => ?_⟩
      have hmem := mem_ordered.mpr hy
      rw [hzs] at hmem
      rcases List.mem_append.mp hmem with hmem | hmem
      · exact hlow y hmem
      · exact absurd hp (habove y hmem)
    · rw [← List.append_assoc] at hzs
      obtain ⟨before, after, rfl, hbefore, hafter⟩ := ih hzs habove
      refine ⟨z :: before, after, rfl, List.forall_mem_cons.mpr ⟨fun _ => ?_, hbefore⟩, hafter⟩
      exact hhigh x (List.mem_append_right _ List.mem_cons_self)
    · rw [List.append_assoc, List.cons_append] at hzs
      obtain ⟨hmid, hnot⟩ := List.forall_mem_append.mp habove
      obtain ⟨hnot, hhigh⟩ := List.forall_mem_cons.mp hnot
      obtain ⟨before, after, rfl, hbefore, hafter⟩ :=
        ih hzs (List.forall_mem_append.mpr ⟨hmid, hhigh⟩)
      refine ⟨z :: before, after, rfl, List.forall_mem_cons.mpr ⟨fun hp => ?_, hbefore⟩, hafter⟩
      exact absurd hp hnot

theorem Decided.unique {e : Datum} (hd : Decided r sources s d) (he : Decided r sources s e) : d = e := by
  obtain ⟨before, x, after, rfl, hx, hbefore, hafter⟩ := hd
  obtain ⟨before', y, after', hsources, hy, hbefore', hafter'⟩ := he
  have hsome {z : Source} {f : Datum} (h : z.definition? r s = some f) : z.definition? r s ≠ none := by
    rw [h]
    exact Option.some_ne_none f
  rcases append_cons_eq_append_cons hsources with ⟨-, rfl, -⟩ | ⟨mid, rfl, rfl⟩ | ⟨mid, rfl, rfl⟩
  · exact Option.some.inj (hx.symm.trans hy)
  · have hle := hbefore' x (List.mem_append_right _ List.mem_cons_self) (hsome hx)
    have hlt := hafter y (List.mem_append_right _ List.mem_cons_self) (hsome hy)
    omega
  · have hle := hbefore y (List.mem_append_right _ List.mem_cons_self) (hsome hy)
    have hlt := hafter' x (List.mem_append_right _ List.mem_cons_self) (hsome hx)
    omega

end Source

namespace Definitions

variable {r : Readers} {sources xs : List Source} {ds : Definitions} {dss : List Definitions} {s : Setting} {d : Datum}

theorem add_eq (ds : Definitions) (ms : Members) :
    ds.add ms = (ofMembers ms).foldl (fun acc e => Association.set e.1 e.2 acc) ds := by
  rw [ofMembers, List.foldl_filterMap, add]
  congr 1
  funext acc m
  obtain ⟨key, d⟩ := m
  cases h : Setting.ofKey? key with
  | none => simp [h]
  | some s => simp [h]

theorem foldlM_add (r : Readers) (xs : List Source) (ds : Definitions) :
    xs.foldlM (fun ds x => ds.add <$> x.members r) ds =
      (fun dss => dss.flatten.foldl (fun acc e => Association.set e.1 e.2 acc) ds) <$>
        xs.mapM (Source.definitions r) := by
  induction xs generalizing ds with
  | nil => rfl
  | cons x xs ih =>
    rw [List.foldlM_cons, List.mapM_cons, Source.definitions]
    cases x.members r with
    | error e => rfl
    | ok ms =>
      refine (ih (ds.add ms)).trans ?_
      rw [add_eq]
      cases xs.mapM (Source.definitions r) with
      | error e => rfl
      | ok dss => exact congrArg Except.ok List.foldl_append.symm

/-- The definitions of all sources are those of one after the other, in order. -/
theorem ofSources_eq (r : Readers) (sources : List Source) :
    ofSources r sources = (fun dss => Association.ofList dss.flatten) <$>
      (Source.ordered sources).mapM (Source.definitions r) :=
  foldlM_add _ _ _

theorem nodup_keys_ofSources (h : ofSources r sources = .ok ds) : (ds.map (·.1)).Nodup := by
  rw [ofSources_eq] at h
  obtain ⟨dss, -, rfl⟩ := map_eq_ok.mp h
  exact Association.nodup_keys_ofList _

theorem last?_flatten (h : List.Forall₂ (fun x ds => x.definitions r = .ok ds) xs dss) :
    Association.last? s dss.flatten = (xs.filterMap (·.definition? r s)).getLast? := by
  induction h with
  | nil => rfl
  | @cons x ds xs dss hx _ ih =>
    have hdef : x.definition? r s = Association.last? s ds := by rw [Source.definition?, hx]
    rw [List.flatten_cons, Association.last?_append, ih, List.filterMap_cons, hdef]
    cases Association.last? s ds with
    | none => exact Option.or_none
    | some d => rw [List.getLast?_cons, Option.or_some]

theorem lookup_ofSources (h : ofSources r sources = .ok ds) (s : Setting) :
    ds.lookup s = ((Source.ordered sources).filterMap (·.definition? r s)).getLast? := by
  rw [ofSources_eq] at h
  obtain ⟨dss, hdss, rfl⟩ := map_eq_ok.mp h
  rw [Association.lookup_ofList, last?_flatten (mapM_eq_ok.mp hdss)]

theorem lookup_ofSources_eq_none (h : ofSources r sources = .ok ds) :
    ds.lookup s = none ↔ ∀ x ∈ sources, x.definition? r s = none := by
  rw [lookup_ofSources h, List.getLast?_eq_none_iff, List.filterMap_eq_nil_iff]
  simp only [Source.mem_ordered]

theorem lookup_ofSources_eq_some (h : ofSources r sources = .ok ds) :
    ds.lookup s = some d ↔ Source.Decided r sources s d := by
  have decided_of_lookup {d : Datum} (hd : ds.lookup s = some d) : Source.Decided r sources s d := by
    rw [lookup_ofSources h, List.getLast?_filterMap] at hd
    obtain ⟨above, x, below, hrev, hx, habove⟩ := List.findSome?_eq_some_iff.mp hd
    have hordered : Source.ordered sources = below.reverse ++ x :: above.reverse := by
      rw [← List.reverse_reverse (Source.ordered sources), hrev]
      simp
    obtain ⟨before, after, hsources, hbefore, hafter⟩ :=
      Source.exists_split_of_ordered (p := fun y => y.definition? r s ≠ none) hordered
        fun y hy hne => hne (habove y (List.mem_reverse.mp hy))
    exact ⟨before, x, after, hsources, hx, hbefore, hafter⟩
  constructor
  · exact decided_of_lookup
  · intro hd
    cases he : ds.lookup s with
    | none =>
      obtain ⟨before, x, after, rfl, hx, -⟩ := hd
      have hnone := (lookup_ofSources_eq_none h).mp he x (List.mem_append_right _ List.mem_cons_self)
      rw [hx] at hnone
      cases hnone
    | some e => rw [(decided_of_lookup he).unique hd]

end Definitions

/-! ## Variables -/

/-- The name that a variable of a group has as a member. -/
def Environment.key? (group name : String) : Option String :=
  (after? (group ++ "_") name).map Text.lower

/-- The member that a variable makes, if it is one of the group. -/
def Environment.member? (group : String) (v : String × String) : Option (Key × Datum) :=
  (key? group v.1).map fun key => (.text key, readValue v.2)

theorem Environment.members_eq (env : Environment) (group : String) :
    env.members group = Association.ofList (env.filterMap (member? group)) := by
  rw [members]
  congr 2
  funext v
  simp only [member?, key?, Option.map_map, Function.comp_def]

theorem Definitions.last?_ofMembers (ms : Members) (s : Setting) :
    Association.last? s (ofMembers ms) = Association.last? (s.name : Key) ms := by
  induction ms with
  | nil => rfl
  | cons m ms ih =>
    obtain ⟨key, d⟩ := m
    rw [Association.last?_cons, ← ih, ofMembers, List.filterMap_cons, ← ofMembers]
    cases hkey : Setting.ofKey? key with
    | none =>
      have hne : key ≠ s.name := by
        rintro rfl
        rw [Setting.ofKey?_eq_some.mpr rfl] at hkey
        cases hkey
      rw [if_neg hne, Option.or_none]
      simp only [hkey, Option.map_none]
    | some t =>
      obtain rfl := Setting.ofKey?_eq_some.mp hkey
      simp only [hkey, Option.map_some, Association.last?_cons]
      congr 1
      by_cases ht : t = s
      · rw [if_pos ht, if_pos (congrArg (fun t : Setting => (t.name : Key)) ht)]
      · rw [if_neg ht, if_neg fun h => ht ?_]
        rw [Setting.ofKey?_eq_some.mpr h] at hkey
        exact (Option.some.inj hkey).symm

theorem Source.definition?_environment_eq_some {r : Readers} {env : Environment} {group : String} {s : Setting}
    {d : Datum} :
    (environment env group).definition? r s = some d ↔
      ∃ before name value after, env = before ++ (name, value) :: after ∧
        Environment.key? group name = some s.name ∧ Environment.readValue value = d ∧
        ∀ v ∈ after, Environment.key? group v.1 ≠ some s.name := by
  rw [definition?_of_members rfl, Definitions.last?_ofMembers, Environment.members_eq,
    Association.last?_ofList, Association.last?_eq_some]
  constructor
  · rintro ⟨start, rest, henv, hrest⟩
    obtain ⟨before, tail, rfl, -, htail⟩ := List.filterMap_eq_append_iff.mp henv
    obtain ⟨skipped, v, after, rfl, -, hv, rfl⟩ := List.filterMap_eq_cons_iff.mp htail
    obtain ⟨key, hkey, heq⟩ := Option.map_eq_some_iff.mp hv
    cases heq
    refine ⟨before ++ skipped, v.1, v.2, after, (List.append_assoc ..).symm, hkey, rfl, ?_⟩
    intro w hw hname
    exact hrest _ (List.mem_filterMap.mpr ⟨w, hw, Option.map_eq_some_iff.mpr ⟨_, hname, rfl⟩⟩) rfl
  · rintro ⟨before, name, value, after, rfl, hname, rfl, hafter⟩
    refine ⟨before.filterMap (Environment.member? group), after.filterMap (Environment.member? group),
      ?_, fun e he hkey => ?_⟩
    · rw [List.filterMap_append, List.filterMap_cons, Environment.member?, hname]
      rfl
    · obtain ⟨w, hw, hwe⟩ := List.mem_filterMap.mp he
      obtain ⟨key, hk, rfl⟩ := Option.map_eq_some_iff.mp hwe
      exact hafter w hw (hk.trans (congrArg some (Key.text.inj hkey)))

/-! ## Loading -/

namespace Settings

variable {r : Readers} {xs ys : List Source} {c : Settings}

theorem ofDefinitions_eq_ok {ds : Definitions} : ofDefinitions ds = .ok c ↔
    ∃ es, ds.withFloatHours? = some es ∧ es.faults = [] ∧ es.settings = c := by
  rw [ofDefinitions]
  constructor
  · intro h
    split at h
    · cases h
    · next es hes =>
      split at h
      · next hf => exact ⟨es, hes, hf, Except.ok.inj h⟩
      · cases h
  · rintro ⟨es, hes, hf, rfl⟩
    simp only [hes]
    exact if_pos hf

theorem ofSources_eq_ok : ofSources r xs = .ok c ↔
    ∃ ds, Definitions.ofSources r xs = .ok ds ∧ ofDefinitions ds = .ok c := by
  rw [ofSources]
  cases Definitions.ofSources r xs with
  | error e => exact ⟨nofun, fun ⟨_, h, _⟩ => nomatch h⟩
  | ok ds => exact ⟨fun h => ⟨ds, rfl, h⟩, fun ⟨_, h, hc⟩ => by cases h; exact hc⟩

theorem ofSources_congr (h : xs.map (fun x => (x.priority, x.definitions r)) =
    ys.map fun x => (x.priority, x.definitions r)) : ofSources r xs = ofSources r ys := by
  have hordered (zs : List Source) :
      (Source.ordered zs).map (fun x => (x.priority, x.definitions r)) =
        (zs.map fun x => (x.priority, x.definitions r)).mergeSort fun a b => a.1 ≤ b.1 :=
    List.map_mergeSort fun a _ b _ => rfl
  have hdefs (zs : List Source) : (Source.ordered zs).mapM (Source.definitions r) =
      ((Source.ordered zs).map fun x => (x.priority, x.definitions r)).mapM (·.2) := by
    rw [List.mapM_map]
    rfl
  rw [ofSources, ofSources, Definitions.ofSources_eq, Definitions.ofSources_eq, hdefs, hdefs,
    hordered, hordered, h]

variable {extra : List Source} {file : Option ConfigFile} {env : Environment} {group : String}

theorem datum_of_load (h : load r extra file env group = .ok c) (s : Setting) :
    (∃ d, Source.Decided r (sources extra file env group) s d ∧ s.Shows d (c.datum s) ∧
        s.Admits (c.datum s)) ∨
      (∀ x ∈ sources extra file env group, x.definition? r s = none) ∧
        c.datum s = standard.datum s := by
  obtain ⟨ds, hds, hc⟩ := ofSources_eq_ok.mp h
  obtain ⟨es, hes, hfaults, rfl⟩ := ofDefinitions_eq_ok.mp hc
  have hkeys := Definitions.nodup_keys_withFloatHours? hes (Definitions.nodup_keys_ofSources hds)
  cases hd : ds.lookup s with
  | none =>
    right
    refine ⟨(Definitions.lookup_ofSources_eq_none hds).mp hd, ?_⟩
    exact Definitions.datum_settings_of_none (Definitions.lookup_withFloatHours?_of_none hes hd)
  | some d =>
    left
    obtain ⟨e, he, hshows⟩ := Definitions.lookup_withFloatHours?_of_some hes hd
    have hadmits := (Definitions.faults_eq_nil_iff hkeys).mp hfaults s e he
    have hints : s = .fastFailHours → ∀ n, e ≠ .int n := by
      rintro rfl
      exact hshows.ne_int
    rw [Definitions.datum_settings_of_some he hadmits hints]
    exact ⟨d, (Definitions.lookup_ofSources_eq_some hds).mp hd, hshows, hadmits⟩

/-- Of the sources that define a setting, the last of those with the highest priority decides it, `null`
being a datum like others, and a setting that none defines has its default. The environment defines a
setting by its last variable that is called so. What else the members of the sources hold makes no
difference, neither to the settings nor to the error. -/
theorem load_decided (r : Readers) (extra : List Source) (file : Option ConfigFile) (env : Environment)
    (group : String) :
    (∀ c, load r extra file env group = .ok c → ∀ s,
        (∃ d, Source.Decided r (sources extra file env group) s d ∧ s.Shows d (c.datum s)) ∨
          (∀ x ∈ sources extra file env group, x.definition? r s = none) ∧
            c.datum s = standard.datum s) ∧
      (∀ s d, (Source.environment env group).definition? r s = some d ↔
        ∃ before name value after, env = before ++ (name, value) :: after ∧
          Environment.key? group name = some s.name ∧ Environment.readValue value = d ∧
          ∀ v ∈ after, Environment.key? group v.1 ≠ some s.name) ∧
      ∀ extra' file' env' group',
        (sources extra file env group).map (fun x => (x.priority, x.definitions r)) =
            (sources extra' file' env' group').map (fun x => (x.priority, x.definitions r)) →
          load r extra file env group = load r extra' file' env' group' := by
  refine ⟨fun c hc s => ?_, fun s d => Source.definition?_environment_eq_some,
    fun extra' file' env' group' h => ofSources_congr h⟩
  rcases datum_of_load hc s with ⟨d, hd, hshows, -⟩ | hnone
  · exact .inl ⟨d, hd, hshows⟩
  · exact .inr hnone

def tiedSources : List Source :=
  [.fixed 100 [("locale", .text "zh"), ("default_count", .int 3), ("timezone", .null)],
    .fixed 50 [("locale", .text "fr"), ("max_iterations", .int 20), ("colour", .text "red")]]

def tiedText : String :=
  "cronlens: \x7bmax_iterations: 50, timezone: UTC\x7d\n"

def tiedFile : ConfigFile :=
  .ofPath "cron.yaml" (.file tiedText)

/-- Readers that know one text of YAML. -/
def readersKnowing (text : String) (d : Datum) : Readers where
  yaml s := if s = text then .ok d else .error .malformed
  jsonDepth := 100
  jsonHalf _ := '\uFFFD'

def tiedReaders : Readers :=
  readersKnowing tiedText
    (.record [("cronlens", .record [("max_iterations", .int 50), ("timezone", .text "UTC")])])

def tiedVariables : Environment :=
  [("CRONLENS_Fast_Fail_Hours", "12"), ("CRONLENS_FAST_FAIL_HOURS", "36"),
    ("CRONLENS_DEFAULT_COUNT", "7")]

theorem ordered_tied :
    Source.ordered (sources tiedSources (some tiedFile) tiedVariables standardGroup) =
      [.fixed 50 [("locale", .text "fr"), ("max_iterations", .int 20), ("colour", .text "red")],
        .file tiedFile,
        .fixed 100 [("locale", .text "zh"), ("default_count", .int 3), ("timezone", .null)],
        .environment tiedVariables standardGroup] := by
  -- the sort does not reduce by itself
  simp [sources, tiedSources, Source.ordered, List.mergeSort, List.MergeSort.Internal.splitInTwo,
    List.splitAt, List.splitAt.go, Source.priority]

/-- The file stands behind the further source of its priority, and the environment behind that of its own. -/
theorem load_tied : load tiedReaders tiedSources (some tiedFile) tiedVariables standardGroup = .ok
    { standard with
      maxIterations := 50
      fastFailHours := some (Binary64.ofRatio false 36 1)
      defaultCount := 7
      locale := "zh" } := by
  change ofSources _ (sources _ _ _ _) = _
  rw [ofSources, Definitions.ofSources, ordered_tied]
  decide +kernel

theorem load_decided_tied :
    (∃ c, load tiedReaders tiedSources (some tiedFile) tiedVariables standardGroup = .ok c ∧ ∀ s,
      (∃ d, Source.Decided tiedReaders (sources tiedSources (some tiedFile) tiedVariables standardGroup) s d ∧
          s.Shows d (c.datum s)) ∨
        (∀ x ∈ sources tiedSources (some tiedFile) tiedVariables standardGroup,
            x.definition? tiedReaders s = none) ∧ c.datum s = standard.datum s) ∧
      load tiedReaders tiedSources (some tiedFile) tiedVariables standardGroup =
        load tiedReaders [.fixed 100 [("locale", .text "zh"), ("default_count", .int 3), ("timezone", .null)],
            .fixed 50 [("locale", .text "fr"), ("max_iterations", .int 20)]]
          (some tiedFile) tiedVariables standardGroup :=
  ⟨⟨_, load_tied, (load_decided _ _ _ _ _).1 _ load_tied⟩, (load_decided _ _ _ _ _).2.2 _ _ _ _ rfl⟩

end Settings

end CronSchedule
