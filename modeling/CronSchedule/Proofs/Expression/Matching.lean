import CronSchedule.Expression.Matching
import CronSchedule.Proofs.Expression.Tokens

/-!
When an expression fires, told from the tokens of its text. Main statement: a valid expression fires
at a reading of a clock exactly if the tokens select it (`matches?_iff_tokensSelect`).
-/

namespace CronSchedule

open Expression

/-- A day of the week is selected by its number from Sunday, 0, and Sunday by 7 too. -/
def WeekdayTokenSelects (token : String) (d : Date) : Prop :=
  Token.Selects ⟨0, 7⟩ token.toList d.weekday ∨
    d.weekday = 0 ∧ Token.Selects ⟨0, 7⟩ token.toList 7

def DayTokenSelects (token : String) (d : Date) : Prop :=
  Token.Selects ⟨1, 31⟩ token.toList d.day

/-- The token leaves its day slot open. -/
def IsDayWildcard (token : String) : Prop :=
  token = "*" ∨ token = "?"

instance (token : String) : Decidable (IsDayWildcard token) :=
  inferInstanceAs (Decidable (_ ∨ _))

/-- A day slot that is left open leaves the choice to the other; of two restricted ones either is
enough. -/
def DayTokensSelect (dom dow : String) (d : Date) : Prop :=
  if IsDayWildcard dom ∧ IsDayWildcard dow then True
  else if IsDayWildcard dom then WeekdayTokenSelects dow d
  else if IsDayWildcard dow then DayTokenSelects dom d
  else DayTokenSelects dom d ∨ WeekdayTokenSelects dow d

/-- The tokens of a text, each read by itself, select a reading of a clock. -/
structure TokensSelect (source : String) (mode : Mode) (c : Civil) : Prop where
  second : ∀ t, (.second, t) ∈ assigned source mode → Token.Selects ⟨0, 59⟩ t.toList c.second
  minute : ∀ t, (.minute, t) ∈ assigned source mode → Token.Selects ⟨0, 59⟩ t.toList c.minute
  hour : ∀ t, (.hour, t) ∈ assigned source mode → Token.Selects ⟨0, 23⟩ t.toList c.hour
  month : ∀ t, (.month, t) ∈ assigned source mode → Token.Selects ⟨1, 12⟩ t.toList c.date.month
  year : ∀ t, (.year, t) ∈ assigned source mode →
    t = "*" ∨ Token.Selects ⟨1970, 2099⟩ t.toList c.date.year
  day : ∀ dom dow, (.dayOfMonth, dom) ∈ assigned source mode →
    (.dayOfWeek, dow) ∈ assigned source mode → DayTokensSelect dom dow c.date

theorem Token.selects_star {b : Bounds} {v : Int} :
    Selects b ['*'] v ↔ b.low ≤ v ∧ v ≤ b.high := by
  have hl : IsList ['*'] [.plain .every] := isList_iff.mpr rfl
  constructor
  · intro h
    obtain ⟨es, hes, e, he, hv⟩ := h
    rw [hes.unique hl, List.mem_singleton] at he
    subst he
    exact hv
  · exact fun hv => ⟨_, hl, _, List.mem_singleton_self _, hv⟩

theorem Slot.canonical_of_ne {s : Slot} (h : s ≠ dayOfWeek) (n : Int) : s.canonical n = n := by
  simp [canonical, h]

theorem Slot.accepted_of_ne {s : Slot} (h : s ≠ dayOfWeek) : s.accepted = s.bounds := by
  simp [accepted, h]

theorem Date.weekday_lt (d : Date) : d.weekday < 7 :=
  Nat.mod_lt _ (by decide)

namespace Field

variable {slot : Slot} {token : String} {f : Field}

/-- Outside the days of the week a field selects what its token selects. -/
theorem selects_iff_of_ne (h : read slot token = .ok f) (hs : slot ≠ .dayOfWeek)
    (ho : ¬ slot.LeavesOpen token) (ha : slot.Accepts token) {v : Int} :
    f.selects v = true ↔ Token.Selects slot.bounds token.toList v := by
  simp only [selects_iff, mem_values_iff h ho ha, Slot.canonical_of_ne hs, Slot.accepted_of_ne hs]
  exact exists_eq_right

theorem selects_iff_of_not_day (h : read slot token = .ok f) (hs : slot.allowsQuestion = false)
    (ha : slot.Accepts token) {v : Int} :
    f.selects v = true ↔ Token.Selects slot.bounds token.toList v := by
  have hw : slot ≠ .dayOfWeek := by rintro rfl; cases hs
  by_cases ho : slot.LeavesOpen token
  · rw [selects_iff, mem_values_of_leavesOpen h ho]
    obtain rfl | ⟨-, hq⟩ := ho
    · exact Token.selects_star.symm
    · exact absurd hq (hs ▸ Bool.false_ne_true)
  · exact selects_iff_of_ne h hw ho ha

theorem selects_weekday_iff (h : read .dayOfWeek token = .ok f)
    (ho : ¬ Slot.dayOfWeek.LeavesOpen token) (ha : Slot.dayOfWeek.Accepts token) (d : Date) :
    f.selects d.weekday = true ↔ WeekdayTokenSelects token d := by
  have hd := d.weekday_lt
  rw [selects_iff, mem_values_iff h ho ha, WeekdayTokenSelects]
  constructor
  · intro hx
    obtain ⟨n, hn, hc⟩ := hx
    simp only [Slot.canonical, true_and] at hc
    split at hc
    · next h7 =>
      subst h7
      exact .inr ⟨by omega, hn⟩
    · exact .inl (hc ▸ hn)
  · intro hx
    rcases hx with hn | ⟨h0, hn⟩
    · exact ⟨d.weekday, hn, by simp only [Slot.canonical, true_and]; omega⟩
    · exact ⟨7, hn, by rw [h0]; rfl⟩

end Field

variable {source : String} {mode : Mode} {e : Expression}

theorem selects_field_iff (h : parse source mode = .ok (.expression e)) (hv : e.isValid = true)
    {slot : Slot} {f : Field} (hf : e.field? slot = some f) (hs : slot.allowsQuestion = false)
    {v : Int} :
    f.selects v = true ↔
      ∀ t, (slot, t) ∈ filled source mode → Token.Selects slot.bounds t.toList v := by
  obtain ⟨hr, ha⟩ := read_of_isValid h hv hf
  rw [forall_mem_filled_iff h hf, Field.selects_iff_of_not_day hr hs ha]

theorem selects_second_iff (h : parse source mode = .ok (.expression e)) (hv : e.isValid = true)
    {v : Int} :
    (e.mode = .minutes || e.second.selects v) = true ↔
      ∀ t, (.second, t) ∈ assigned source mode → Token.Selects ⟨0, 59⟩ t.toList v := by
  rw [Bool.or_eq_true, decide_eq_true_iff, (forall₂_fields_of_parse h).2.1.2]
  cases mode with
  | minutes =>
    refine iff_of_true (.inl rfl) fun t ht => ?_
    exact absurd (List.of_mem_zip ht).1 (by decide)
  | seconds =>
    rw [or_iff_right (by decide), ← filled_seconds]
    exact selects_field_iff h hv rfl rfl

theorem selectsYear_iff (h : parse source mode = .ok (.expression e)) (hv : e.isValid = true)
    {year : Nat} :
    e.selectsYear year = true ↔ ∀ t, (.year, t) ∈ filled source mode →
      t = "*" ∨ Token.Selects ⟨1970, 2099⟩ t.toList year := by
  cases hy : e.year with
  | none =>
    refine iff_of_true (by rw [selectsYear, hy]) fun t ht => ?_
    obtain ⟨f, hf, -⟩ := exists_field?_of_mem_filled h ht
    cases hy.symm.trans hf
  | some f =>
    have hf : e.field? .year = some f := hy
    obtain ⟨hr, ha⟩ := read_of_isValid h hv hf
    have ho : Slot.year.LeavesOpen f.token ↔ f.token = "*" :=
      or_iff_left fun hq => absurd hq.2 (by decide)
    rw [forall_mem_filled_iff h hf, ← ho, ← Field.isUnrestricted_iff hr]
    simp only [selectsYear, hy, Bool.or_eq_true]
    exact or_congr_right (Field.selects_iff_of_not_day hr rfl ha)

/-- The day fields of a valid expression select the days that their tokens select together. -/
theorem selectsDay_iff_dayTokensSelect (h : parse source mode = .ok (.expression e))
    (hv : e.isValid = true) (d : Date) :
    e.selectsDay d = true ↔ DayTokensSelect e.dayOfMonth.token e.dayOfWeek.token d := by
  have hdom : e.field? .dayOfMonth = some e.dayOfMonth := rfl
  have hdow : e.field? .dayOfWeek = some e.dayOfWeek := rfl
  obtain ⟨hdomr, hdoma⟩ := read_of_isValid h hv hdom
  obtain ⟨hdowr, hdowa⟩ := read_of_isValid h hv hdow
  have hopen {slot : Slot} {token : String} (hs : slot ∈ Slot.days) :
      slot.LeavesOpen token ↔ IsDayWildcard token := Slot.leavesOpen_of_mem_days hs
  have hdomw := (Field.isUnrestricted_iff hdomr).trans (hopen (by decide))
  have hdoww := (Field.isUnrestricted_iff hdowr).trans (hopen (by decide))
  have hdoms (hn : ¬ IsDayWildcard e.dayOfMonth.token) :
      e.dayOfMonth.selects d.day = true ↔ DayTokenSelects e.dayOfMonth.token d :=
    Field.selects_iff_of_ne hdomr (by decide) (mt (hopen (by decide)).mp hn) hdoma
  have hdows (hn : ¬ IsDayWildcard e.dayOfWeek.token) :
      e.dayOfWeek.selects d.weekday = true ↔ WeekdayTokenSelects e.dayOfWeek.token d :=
    Field.selects_weekday_iff hdowr (mt (hopen (by decide)).mp hn) hdowa d
  simp only [selectsDay, DayTokensSelect, Bool.and_eq_true, hdomw, hdoww]
  split
  · exact iff_of_true rfl trivial
  · next hboth =>
    split
    · next hwild => exact hdows fun hn => hboth ⟨hwild, hn⟩
    · next hdomn =>
      split
      · exact hdoms hdomn
      · next hdown => rw [Bool.or_eq_true, hdoms hdomn, hdows hdown]

theorem selectsDay_iff (h : parse source mode = .ok (.expression e)) (hv : e.isValid = true)
    {d : Date} :
    e.selectsDay d = true ↔ ∀ dom dow, (.dayOfMonth, dom) ∈ filled source mode →
      (.dayOfWeek, dow) ∈ filled source mode → DayTokensSelect dom dow d := by
  have hdom : e.field? .dayOfMonth = some e.dayOfMonth := rfl
  have hdow : e.field? .dayOfWeek = some e.dayOfWeek := rfl
  rw [selectsDay_iff_dayTokensSelect h hv]
  constructor
  · intro hd dom dow ht ht'
    rwa [eq_token_of_mem_filled h hdom ht, eq_token_of_mem_filled h hdow ht']
  · intro hd
    exact hd _ _ (read_of_field? h hdom).1 (read_of_field? h hdow).1

theorem selects_iff_tokensSelect (h : parse source mode = .ok (.expression e))
    (hv : e.isValid = true) {c : Civil} : e.selects c = true ↔ TokensSelect source mode c := by
  have hmin : e.field? .minute = some e.minute := rfl
  have hhour : e.field? .hour = some e.hour := rfl
  have hmon : e.field? .month = some e.month := rfl
  simp only [selects, Bool.and_eq_true, selects_second_iff h hv, selects_field_iff h hv hmin rfl,
    selects_field_iff h hv hhour rfl, selects_field_iff h hv hmon rfl, selectsYear_iff h hv,
    selectsDay_iff h hv, ne_eq, reduceCtorEq, not_false_eq_true, mem_filled_iff]
  constructor
  · intro hx
    obtain ⟨⟨⟨⟨⟨hs, hm⟩, hh⟩, hmo⟩, hy⟩, hd⟩ := hx
    exact ⟨hs, hm, hh, hmo, hy, hd⟩
  · intro hx
    obtain ⟨hs, hm, hh, hmo, hy, hd⟩ := hx
    exact ⟨⟨⟨⟨⟨hs, hm⟩, hh⟩, hmo⟩, hy⟩, hd⟩

theorem Expression.matches?_of_isValid (hv : e.isValid = true) (c : Civil) :
    e.matches? c = .ok (e.selects c) := by
  rw [matches?, requireValid, if_pos hv]
  rfl

/-- A valid expression fires at a reading of a clock exactly if the tokens of its text select it. -/
theorem matches?_iff_tokensSelect {p : Parsed} (h : parse source mode = .ok p)
    (hv : p.report.isValid = true) :
    ∃ e, p.expression? = some e ∧
      ∀ c, ∃ b, e.matches? c = .ok b ∧ (b = true ↔ TokensSelect source mode c) := by
  cases p with
  | wrongCount expected actual text => cases hv
  | expression e =>
    exact ⟨e, rfl, fun c => ⟨e.selects c, matches?_of_isValid hv c, selects_iff_tokensSelect h hv⟩⟩

theorem matches?_iff_tokensSelect_weekends :
    ∃ p, parse "*/15 9-17/2 1,15 * 6-7 *" .minutes = .ok p ∧ p.report.isValid = true ∧
      ∃ e, p.expression? = some e ∧ ∀ c, ∃ b, e.matches? c = .ok b ∧
        (b = true ↔ TokensSelect "*/15 9-17/2 1,15 * 6-7 *" .minutes c) :=
  ⟨_, rfl, by decide, matches?_iff_tokensSelect rfl (by decide)⟩

end CronSchedule
