import CronSchedule.Proofs.Association
import CronSchedule.Settings.Definition

/-!
What the settings have to be. Main statement: nothing is wrong with some definitions exactly if each
defined setting has a datum that it admits (`Definitions.faults_eq_nil_iff`).
-/

namespace CronSchedule

namespace Locale

variable {tag : String} {l : Locale}

theorem ofTag?_eq_some : ofTag? tag = some l ↔ l.name = language tag := by
  constructor
  · intro h
    rw [ofTag?] at h
    exact of_decide_eq_true (List.find?_some h :)
  · intro h
    rw [ofTag?, ← h]
    cases l <;> rfl

/-- A tag asks for a locale that there is exactly if that locale is the language of the tag itself. -/
theorem isSome_ofTag?_iff : (ofTag? tag).isSome = true ↔ (ofTag (some tag)).name = language tag := by
  constructor
  · intro h
    obtain ⟨l, hl⟩ := Option.isSome_iff_exists.mp h
    rw [ofTag, hl, Option.getD_some]
    exact ofTag?_eq_some.mp hl
  · intro h
    exact Option.isSome_iff_exists.mpr ⟨_, ofTag?_eq_some.mpr h⟩

end Locale

/-- The data that a setting can have. Hours that are no number at all are not below zero. -/
def Setting.Admits : Setting → Datum → Prop
  | includeSeconds, d => ∃ b, d = .bool b
  | maxIterations, d | defaultCount, d => ∃ n, d = .int n ∧ 1 ≤ n
  | fastFailHours, d =>
    d = .null ∨ (∃ n, d = .int n ∧ 0 ≤ n) ∨ ∃ x, d = .float x ∧ x.isBelowZero = false
  | locale, d => ∃ tag, d = .text tag ∧ (Locale.ofTag (some tag)).name = Locale.language tag
  | timezone, d => d = .null ∨ ∃ key, d = .text key
  | hourFormat, d => d = .int 12 ∨ d = .int 24

/-- What becomes of a datum that a setting is defined by: hours that are an integer are shown as the
floating-point number of it. -/
def Setting.Shows : Setting → Datum → Datum → Prop
  | fastFailHours, .int n, shown => ∃ x, Binary64.ofInt? n = some x ∧ shown = .float x
  | _, d, shown => shown = d

/-- The settings as data. -/
def Settings.datum (c : Settings) : Setting → Datum
  | .includeSeconds => .bool c.includeSeconds
  | .maxIterations => .int c.maxIterations
  | .fastFailHours => (c.fastFailHours.map Datum.float).getD .null
  | .defaultCount => .int c.defaultCount
  | .locale => .text c.locale
  | .timezone => (c.timezone.map Datum.text).getD .null
  | .hourFormat => .int c.hourFormat

theorem Setting.Admits.accepts {s : Setting} {d : Datum} (h : s.Admits d) : s.accepts d = true := by
  cases s with
  | includeSeconds =>
    obtain ⟨b, rfl⟩ := h
    rfl
  | maxIterations | defaultCount =>
    obtain ⟨n, rfl, -⟩ := h
    rfl
  | fastFailHours => rcases h with rfl | ⟨n, rfl, -⟩ | ⟨x, rfl, -⟩ <;> rfl
  | locale =>
    obtain ⟨tag, rfl, -⟩ := h
    rfl
  | timezone => rcases h with rfl | ⟨key, rfl⟩ <;> rfl
  | hourFormat => rcases h with rfl | rfl <;> rfl

theorem Setting.shows_iff_of_ne {s : Setting} {d e : Datum}
    (h : s = .fastFailHours → ∀ n, d ≠ .int n) : s.Shows d e ↔ e = d := by
  cases s with
  | fastFailHours =>
    cases d with
    | int n => exact absurd rfl (h rfl n)
    | _ => exact Iff.rfl
  | _ => exact Iff.rfl

theorem Setting.Shows.ne_int {d e : Datum} (h : Setting.fastFailHours.Shows d e) (n : Int) :
    e ≠ .int n := by
  cases d with
  | int m =>
    obtain ⟨x, -, rfl⟩ := h
    exact nofun
  | _ =>
    cases h
    exact nofun

theorem Setting.admits_standard (s : Setting) : s.Admits (Settings.standard.datum s) := by
  cases s with
  | includeSeconds => exact ⟨_, rfl⟩
  | maxIterations | defaultCount => exact ⟨_, rfl, by decide⟩
  | fastFailHours => exact .inr (.inr ⟨_, rfl, by decide +kernel⟩)
  | locale => exact ⟨_, rfl, by decide +kernel⟩
  | timezone => exact .inl rfl
  | hourFormat => exact .inr rfl

namespace Definitions

variable {ds es : Definitions} {s : Setting} {d : Datum} {n k : Int}

theorem int_of_lookup_none (h : ds.lookup s = none) : ds.int s k = k := by
  rw [int, h]

theorem int_of_lookup_int (h : ds.lookup s = some (.int n)) : ds.int s k = n := by
  rw [int, h]

theorem kindFaults_eq_nil_iff (hkeys : (ds.map (·.1)).Nodup) :
    ds.kindFaults = [] ↔ ∀ s d, ds.lookup s = some d → s.accepts d = true := by
  rw [kindFaults, List.filterMap_eq_nil_iff]
  constructor
  · intro h s d hd
    simpa using h _ (Association.mem_of_lookup hd)
  · intro h m hm
    exact if_pos (h m.1 m.2 (Association.lookup_of_mem hkeys hm))

theorem rangeFaults_eq_nil : ds.rangeFaults = [] ↔
    1 ≤ ds.int .maxIterations 1 ∧ 1 ≤ ds.int .defaultCount 1 ∧ ds.hasNegativeHours = false ∧
      (ds.int .hourFormat 24 = 12 ∨ ds.int .hourFormat 24 = 24) ∧
      (Locale.ofTag? (ds.text .locale "en")).isSome = true := by
  simp [rangeFaults]
  omega

theorem hasNegativeHours_of_int (h : ds.lookup .fastFailHours = some (.int n)) :
    ds.hasNegativeHours = decide (n < 0) := by
  rw [hasNegativeHours, h]

theorem hasNegativeHours_of_float {x : Binary64} (h : ds.lookup .fastFailHours = some (.float x)) :
    ds.hasNegativeHours = x.isBelowZero := by
  rw [hasNegativeHours, h]

theorem text_of_lookup_text {tag standard : String} (h : ds.lookup s = some (.text tag)) :
    ds.text s standard = tag := by
  rw [text, h]

theorem admits_of_accepts (hr : ds.rangeFaults = []) (hd : ds.lookup s = some d)
    (ha : s.accepts d = true) : s.Admits d := by
  obtain ⟨hmax, hcount, hhours, hformat, hlocale⟩ := rangeFaults_eq_nil.mp hr
  cases s with
  | includeSeconds =>
    cases d with
    | bool b => exact ⟨b, rfl⟩
    | _ => cases ha
  | maxIterations =>
    cases d with
    | int n => exact ⟨n, rfl, int_of_lookup_int hd ▸ hmax⟩
    | _ => cases ha
  | defaultCount =>
    cases d with
    | int n => exact ⟨n, rfl, int_of_lookup_int hd ▸ hcount⟩
    | _ => cases ha
  | fastFailHours =>
    cases d with
    | null => exact .inl rfl
    | int n =>
      rw [hasNegativeHours_of_int hd] at hhours
      exact .inr (.inl ⟨n, rfl, Int.not_lt.mp (of_decide_eq_false hhours)⟩)
    | float x =>
      rw [hasNegativeHours_of_float hd] at hhours
      exact .inr (.inr ⟨x, rfl, hhours⟩)
    | _ => cases ha
  | locale =>
    cases d with
    | text tag =>
      rw [text_of_lookup_text hd] at hlocale
      exact ⟨tag, rfl, Locale.isSome_ofTag?_iff.mp hlocale⟩
    | _ => cases ha
  | timezone =>
    cases d with
    | null => exact .inl rfl
    | text key => exact .inr ⟨key, rfl⟩
    | _ => cases ha
  | hourFormat =>
    cases d with
    | int n =>
      rw [int_of_lookup_int hd] at hformat
      exact hformat.imp (congrArg Datum.int) (congrArg Datum.int)
    | _ => cases ha

theorem rangeFaults_eq_nil_of_admits (h : ∀ s d, ds.lookup s = some d → s.Admits d) :
    ds.rangeFaults = [] := by
  have hone {s : Setting} (hs : ∀ d, s.Admits d → ∃ n, d = .int n ∧ 1 ≤ n) : 1 ≤ ds.int s 1 := by
    cases hd : ds.lookup s with
    | none => exact (int_of_lookup_none hd).symm ▸ Int.le_refl 1
    | some d =>
      obtain ⟨n, rfl, hn⟩ := hs d (h s d hd)
      exact (int_of_lookup_int hd).symm ▸ hn
  refine rangeFaults_eq_nil.mpr ⟨hone fun d hd => hd, hone fun d hd => hd, ?_, ?_, ?_⟩
  · cases hd : ds.lookup .fastFailHours with
    | none => rw [hasNegativeHours, hd]
    | some d =>
      rcases h _ d hd with rfl | ⟨n, rfl, hn⟩ | ⟨x, rfl, hx⟩
      · rw [hasNegativeHours, hd]
      · rw [hasNegativeHours_of_int hd]
        exact decide_eq_false (Int.not_lt.mpr hn)
      · rw [hasNegativeHours_of_float hd, hx]
  · cases hd : ds.lookup .hourFormat with
    | none => exact .inr (int_of_lookup_none hd)
    | some d =>
      rcases h _ d hd with rfl | rfl
      · exact .inl (int_of_lookup_int hd)
      · exact .inr (int_of_lookup_int hd)
  · cases hd : ds.lookup .locale with
    | none =>
      rw [text, hd]
      exact Option.isSome_iff_exists.mpr ⟨_, Locale.ofTag?_name .en⟩
    | some d =>
      obtain ⟨tag, rfl, htag⟩ := h _ d hd
      rw [text_of_lookup_text hd]
      exact Locale.isSome_ofTag?_iff.mpr htag

/-- Nothing is wrong with definitions exactly if every defined setting has a datum that it admits. -/
theorem faults_eq_nil_iff (hkeys : (ds.map (·.1)).Nodup) :
    ds.faults = [] ↔ ∀ s d, ds.lookup s = some d → s.Admits d := by
  rw [faults]
  constructor
  · intro h s d hd
    split at h
    · next hk => exact admits_of_accepts h hd ((kindFaults_eq_nil_iff hkeys).mp hk s d hd)
    · next hk => exact absurd h hk
  · intro h
    rw [if_pos ((kindFaults_eq_nil_iff hkeys).mpr fun s d hd => (h s d hd).accepts)]
    exact rangeFaults_eq_nil_of_admits h

theorem datum_settings_of_some (hd : ds.lookup s = some d) (h : s.Admits d)
    (hours : s = .fastFailHours → ∀ n, d ≠ .int n) : ds.settings.datum s = d := by
  cases s with
  | includeSeconds =>
    obtain ⟨b, rfl⟩ := h
    simp [Settings.datum, settings, hd]
  | maxIterations | defaultCount =>
    obtain ⟨n, rfl, -⟩ := h
    exact congrArg Datum.int (int_of_lookup_int hd)
  | fastFailHours =>
    rcases h with rfl | ⟨n, rfl, -⟩ | ⟨x, rfl, -⟩
    · simp [Settings.datum, settings, hd]
    · exact absurd rfl (hours rfl n)
    · simp [Settings.datum, settings, hd]
  | locale =>
    obtain ⟨tag, rfl, -⟩ := h
    exact congrArg Datum.text (text_of_lookup_text hd)
  | timezone => rcases h with rfl | ⟨key, rfl⟩ <;> simp [Settings.datum, settings, hd]
  | hourFormat => rcases h with rfl | rfl <;> exact congrArg Datum.int (int_of_lookup_int hd)

theorem datum_settings_of_none (hd : ds.lookup s = none) :
    ds.settings.datum s = Settings.standard.datum s := by
  cases s with
  | maxIterations | defaultCount | hourFormat => exact congrArg Datum.int (int_of_lookup_none hd)
  | locale => simp only [Settings.datum, settings, text, hd]
  | includeSeconds | fastFailHours => simp only [Settings.datum, settings, hd]
  | timezone =>
    simp only [Settings.datum, settings, hd]
    rfl

theorem withFloatHours?_cases (h : ds.withFloatHours? = some es) :
    (es = ds ∧ ∀ n, ds.lookup .fastFailHours ≠ some (.int n)) ∨
      ∃ n x, ds.lookup .fastFailHours = some (.int n) ∧ Binary64.ofInt? n = some x ∧
        es = Association.set .fastFailHours (.float x) ds := by
  rw [withFloatHours?] at h
  split at h
  · next n hn =>
    obtain ⟨x, hx, rfl⟩ := Option.map_eq_some_iff.mp h
    exact .inr ⟨n, x, hn, hx, rfl⟩
  · next hn =>
    cases h
    exact .inl ⟨rfl, hn⟩

theorem nodup_keys_withFloatHours? (h : ds.withFloatHours? = some es) (hkeys : (ds.map (·.1)).Nodup) :
    (es.map (·.1)).Nodup := by
  rcases withFloatHours?_cases h with ⟨rfl, -⟩ | ⟨n, x, -, -, rfl⟩
  · exact hkeys
  · exact Association.nodup_keys_set hkeys

theorem lookup_withFloatHours?_of_none (h : ds.withFloatHours? = some es) (hd : ds.lookup s = none) :
    es.lookup s = none := by
  rcases withFloatHours?_cases h with ⟨rfl, -⟩ | ⟨n, x, hn, -, rfl⟩
  · exact hd
  · have hne : s ≠ .fastFailHours := by
      rintro rfl
      rw [hd] at hn
      cases hn
    rw [Association.lookup_set_of_ne hne, hd]

theorem lookup_withFloatHours?_of_some (h : ds.withFloatHours? = some es) (hd : ds.lookup s = some d) :
    ∃ e, es.lookup s = some e ∧ s.Shows d e := by
  rcases withFloatHours?_cases h with ⟨rfl, hints⟩ | ⟨n, x, hn, hx, rfl⟩
  · refine ⟨d, hd, ?_⟩
    rw [Setting.shows_iff_of_ne]
    rintro rfl n rfl
    exact hints n hd
  · by_cases hs : s = .fastFailHours
    · subst hs
      obtain rfl := Option.some.inj (hd.symm.trans hn)
      exact ⟨.float x, Association.lookup_set_self _ _ _, x, hx, rfl⟩
    · refine ⟨d, by rw [Association.lookup_set_of_ne hs, hd], ?_⟩
      rw [Setting.shows_iff_of_ne]
      exact fun hs' => absurd hs' hs

end Definitions

end CronSchedule
