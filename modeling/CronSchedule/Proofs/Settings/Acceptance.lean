import CronSchedule.Proofs.Number.Rounding
import CronSchedule.Proofs.Settings.Merging

/-!
Which settings are loaded. Main statement: settings are loaded exactly if all sources can be read, an
integer of hours has a floating-point number near it, and each setting that a source decides is decided
by a datum that it admits (`Settings.load_iff_admits`).
-/

namespace CronSchedule

variable {s : Setting} {d e : Datum}

theorem Setting.Shows.admits_iff (h : s.Shows d e) : s.Admits e ↔ s.Admits d := by
  by_cases hint : s = .fastFailHours ∧ ∃ n, d = .int n
  · obtain ⟨rfl, n, rfl⟩ := hint
    obtain ⟨x, hx, rfl⟩ := h
    have hsign := Binary64.isBelowZero_of_ofInt? hx
    constructor
    · intro h
      obtain ⟨⟨⟩⟩ | ⟨m, ⟨⟩, -⟩ | ⟨y, ⟨⟩, hy⟩ := h
      rw [hsign] at hy
      exact .inr (.inl ⟨n, rfl, Int.not_lt.mp (of_decide_eq_false hy)⟩)
    · intro h
      obtain ⟨⟨⟩⟩ | ⟨m, ⟨⟩, hm⟩ | ⟨y, ⟨⟩, -⟩ := h
      exact .inr (.inr ⟨x, rfl, hsign.trans (decide_eq_false (Int.not_lt.mpr hm))⟩)
  · rw [(shows_iff_of_ne fun hs n hn => hint ⟨hs, n, hn⟩).mp h]

namespace Definitions

variable {r : Readers} {sources : List Source} {ds es : Definitions} {err : FileError}

theorem ofSources_eq_error : ofSources r sources = .error err ↔
    ∃ before x after, Source.ordered sources = before ++ x :: after ∧
      (∀ y ∈ before, ∃ ms, y.members r = .ok ms) ∧ x.members r = .error err := by
  have hread (y : Source) : (∃ ds, y.definitions r = .ok ds) ↔ ∃ ms, y.members r = .ok ms := by
    constructor
    · rintro ⟨ds, h⟩
      obtain ⟨ms, hms, -⟩ := map_eq_ok.mp h
      exact ⟨ms, hms⟩
    · rintro ⟨ms, h⟩
      exact ⟨_, map_eq_ok.mpr ⟨ms, h, rfl⟩⟩
  rw [ofSources_eq, map_eq_error, mapM_eq_error_iff]
  simp only [hread]
  simp only [Source.definitions, map_eq_error]

theorem exists_ofSources_eq_ok_iff :
    (∃ ds, ofSources r sources = .ok ds) ↔ ∀ x ∈ sources, ∃ ms, x.members r = .ok ms := by
  constructor
  · rintro ⟨ds, h⟩ x hx
    rw [ofSources_eq] at h
    obtain ⟨dss, hdss, -⟩ := map_eq_ok.mp h
    obtain ⟨xs, -, hxs⟩ := exists_of_forall₂ (mapM_eq_ok.mp hdss) (Source.mem_ordered.mpr hx)
    obtain ⟨ms, hms, -⟩ := map_eq_ok.mp hxs
    exact ⟨ms, hms⟩
  · intro h
    cases hds : ofSources r sources with
    | ok ds => exact ⟨ds, rfl⟩
    | error err =>
      obtain ⟨before, x, after, hordered, -, hx⟩ := ofSources_eq_error.mp hds
      have hmem : x ∈ Source.ordered sources :=
        hordered ▸ List.mem_append_right _ List.mem_cons_self
      obtain ⟨ms, hms⟩ := h x (Source.mem_ordered.mp hmem)
      rw [hms] at hx
      cases hx

theorem withFloatHours?_eq_none : ds.withFloatHours? = none ↔
    ∃ n, ds.lookup .fastFailHours = some (.int n) ∧ Binary64.ofInt? n = none := by
  rw [withFloatHours?]
  split
  · next n hn =>
    rw [Option.map_eq_none_iff]
    constructor
    · intro h
      exact ⟨n, hn, h⟩
    · rintro ⟨m, hm, h⟩
      cases hn.symm.trans hm
      exact h
  · next hn =>
    refine iff_of_false (Option.some_ne_none ds) ?_
    rintro ⟨n, h, -⟩
    exact hn n h

theorem admits_withFloatHours?_iff (h : ds.withFloatHours? = some es) :
    (∀ s e, es.lookup s = some e → s.Admits e) ↔ ∀ s d, ds.lookup s = some d → s.Admits d := by
  constructor
  · intro hes s d hd
    obtain ⟨e, he, hshows⟩ := lookup_withFloatHours?_of_some h hd
    exact hshows.admits_iff.mp (hes s e he)
  · intro hds s e he
    cases hd : ds.lookup s with
    | none =>
      rw [lookup_withFloatHours?_of_none h hd] at he
      cases he
    | some d =>
      obtain ⟨e', he', hshows⟩ := lookup_withFloatHours?_of_some h hd
      cases he.symm.trans he'
      exact hshows.admits_iff.mpr (hds s d hd)

end Definitions

namespace Settings

variable {r : Readers} {ds : Definitions} {c : Settings} {extra : List Source} {file : Option ConfigFile}
  {env : Environment} {group : String}

theorem exists_ofDefinitions_eq_ok_iff (hkeys : (ds.map (·.1)).Nodup) :
    (∃ c, ofDefinitions ds = .ok c) ↔
      (∀ n, ds.lookup .fastFailHours = some (.int n) → ∃ x, Binary64.ofInt? n = some x) ∧
        ∀ s d, ds.lookup s = some d → s.Admits d := by
  cases hes : ds.withFloatHours? with
  | none =>
    obtain ⟨n, hn, hnone⟩ := Definitions.withFloatHours?_eq_none.mp hes
    refine iff_of_false ?_ ?_
    · rintro ⟨c, h⟩
      obtain ⟨es, hsome, -⟩ := ofDefinitions_eq_ok.mp h
      rw [hes] at hsome
      cases hsome
    · rintro ⟨h, -⟩
      obtain ⟨x, hx⟩ := h n hn
      rw [hnone] at hx
      cases hx
  | some es =>
    have hnear (n : Int) (hn : ds.lookup .fastFailHours = some (.int n)) :
        ∃ x, Binary64.ofInt? n = some x := by
      rw [← Option.ne_none_iff_exists']
      intro hnone
      rw [Definitions.withFloatHours?_eq_none.mpr ⟨n, hn, hnone⟩] at hes
      cases hes
    rw [← Definitions.admits_withFloatHours?_iff hes,
      ← Definitions.faults_eq_nil_iff (Definitions.nodup_keys_withFloatHours? hes hkeys)]
    constructor
    · rintro ⟨c, h⟩
      obtain ⟨es', hes', hfaults, -⟩ := ofDefinitions_eq_ok.mp h
      cases hes.symm.trans hes'
      exact ⟨hnear, hfaults⟩
    · rintro ⟨-, hfaults⟩
      exact ⟨_, ofDefinitions_eq_ok.mpr ⟨es, hes, hfaults, rfl⟩⟩

theorem admits_datum_of_load (h : load r extra file env group = .ok c) (s : Setting) :
    s.Admits (c.datum s) := by
  rcases datum_of_load h s with ⟨d, -, -, hadmits⟩ | ⟨-, hstandard⟩
  · exact hadmits
  · rw [hstandard]
    exact Setting.admits_standard s

/-- Settings are loaded exactly if the sources can be read, an integer of hours can be converted, and the
data that decide settings are admitted; and what is loaded is admitted. -/
theorem load_iff_admits (r : Readers) (extra : List Source) (file : Option ConfigFile) (env : Environment)
    (group : String) :
    ((∃ c, load r extra file env group = .ok c) ↔
        (∀ x ∈ sources extra file env group, ∃ ms, x.members r = .ok ms) ∧
          (∀ n, Source.Decided r (sources extra file env group) .fastFailHours (.int n) →
            ∃ x, Binary64.ofInt? n = some x) ∧
          ∀ s d, Source.Decided r (sources extra file env group) s d → s.Admits d) ∧
      ∀ c, load r extra file env group = .ok c → ∀ s : Setting, s.Admits (c.datum s) := by
  refine ⟨?_, fun c h => admits_datum_of_load h⟩
  rw [← Definitions.exists_ofSources_eq_ok_iff]
  constructor
  · rintro ⟨c, h⟩
    obtain ⟨ds, hds, hc⟩ := ofSources_eq_ok.mp h
    obtain ⟨hnear, hadmits⟩ :=
      (exists_ofDefinitions_eq_ok_iff (Definitions.nodup_keys_ofSources hds)).mp ⟨c, hc⟩
    refine ⟨⟨ds, hds⟩, fun n hn => ?_, fun s d hd => ?_⟩
    · exact hnear n ((Definitions.lookup_ofSources_eq_some hds).mpr hn)
    · exact hadmits s d ((Definitions.lookup_ofSources_eq_some hds).mpr hd)
  · rintro ⟨⟨ds, hds⟩, hnear, hadmits⟩
    obtain ⟨c, hc⟩ := (exists_ofDefinitions_eq_ok_iff (Definitions.nodup_keys_ofSources hds)).mpr
      ⟨fun n hn => hnear n ((Definitions.lookup_ofSources_eq_some hds).mp hn),
        fun s d hd => hadmits s d ((Definitions.lookup_ofSources_eq_some hds).mp hd)⟩
    exact ⟨c, ofSources_eq_ok.mpr ⟨ds, hds, hc⟩⟩

theorem load_iff_admits_tied :
    (∀ s d, Source.Decided tiedReaders (sources tiedSources (some tiedFile) tiedVariables standardGroup) s d →
        s.Admits d) ∧
      ∃ c, load tiedReaders tiedSources (some tiedFile) tiedVariables standardGroup = .ok c ∧
        ∀ s : Setting, s.Admits (c.datum s) :=
  ⟨((load_iff_admits _ _ _ _ _).1.mp ⟨_, load_tied⟩).2.2, _, load_tied,
    (load_iff_admits _ _ _ _ _).2 _ load_tied⟩

end Settings

end CronSchedule
