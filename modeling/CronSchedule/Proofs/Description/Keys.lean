import CronSchedule.Proofs.Description.Idioms
import CronSchedule.Proofs.Expression.Modes

/-!
Keys of schedules. Main statement: the key of a valid expression is a valid expression itself, and on whole
minutes both fire alike, so that one key never stands for two schedules (`matches?_of_idiomKey?`).
-/

namespace CronSchedule

/-- The field that the token in a key is read as. -/
def Field.keyed (f : Field) : Field :=
  { f with token := f.keyToken }

namespace Expression

/-- The expression that a key is read as: one of minutes, for every year. -/
def keyed (e : Expression) (key : String) : Expression where
  source := key
  mode := .minutes
  second := e.second
  minute := e.minute.keyed
  hour := e.hour.keyed
  dayOfMonth := e.dayOfMonth.keyed
  month := e.month.keyed
  dayOfWeek := e.dayOfWeek.keyed
  year := none

end Expression

open Expression

variable {source key : String} {mode : Mode} {e : Expression} {slot : Slot} {f : Field}

/-- An asterisk is read as the question mark was that it stands for. -/
theorem Field.read_keyToken (hr : read slot f.token = .ok f) (ha : slot.Accepts f.token) :
    read slot f.keyToken = .ok f.keyed := by
  rw [keyed, keyToken]
  split
  · next hq =>
    have hopen : f.reading = .unrestricted :=
      of_decide_eq_true ((isUnrestricted_iff_of_accepts hr ha).mpr (.inr hq))
    rw [read, if_pos (.inl rfl), ← hopen, ← slot_of_read hr]
  · exact hr

theorem read_keyToken_of_isValid (h : parse source mode = .ok (.expression e)) (hv : e.isValid = true)
    (hf : e.field? slot = some f) : Field.read slot f.keyToken = .ok f.keyed := by
  obtain ⟨hr, ha⟩ := read_of_isValid h hv hf
  exact Field.read_keyToken hr ha

theorem ofTokens_keyToken (h : parse source mode = .ok (.expression e)) (hv : e.isValid = true)
    (hs : e.second.token = "0") (key : String) :
    ofTokens key .minutes "0" e.minute.keyToken e.hour.keyToken e.dayOfMonth.keyToken e.month.keyToken
      e.dayOfWeek.keyToken none = .ok (e.keyed key) := by
  have hsecond : Field.read .second "0" = .ok e.second :=
    hs ▸ (read_of_field? h (rfl : e.field? .second = some e.second)).2
  have hminute : Field.read .minute e.minute.keyToken = .ok e.minute.keyed :=
    read_keyToken_of_isValid h hv rfl
  have hhour : Field.read .hour e.hour.keyToken = .ok e.hour.keyed :=
    read_keyToken_of_isValid h hv rfl
  have hdom : Field.read .dayOfMonth e.dayOfMonth.keyToken = .ok e.dayOfMonth.keyed :=
    read_keyToken_of_isValid h hv rfl
  have hmonth : Field.read .month e.month.keyToken = .ok e.month.keyed :=
    read_keyToken_of_isValid h hv rfl
  have hdow : Field.read .dayOfWeek e.dayOfWeek.keyToken = .ok e.dayOfWeek.keyed :=
    read_keyToken_of_isValid h hv rfl
  rw [ofTokens, hsecond, hminute, hhour, hdom, hmonth, hdow]
  rfl

theorem parse_idiomKey? (h : parse source mode = .ok (.expression e)) (hv : e.isValid = true)
    (hk : e.idiomKey? = some key) : parse key .minutes = .ok (.expression (e.keyed key)) := by
  obtain ⟨-, hminute, rfl⟩ := idiomKey?_eq_some.mp hk
  have hslots : slotTokens .minutes (tokens (" ".intercalate e.keyTokens)) =
      ["0", e.minute.keyToken, e.hour.keyToken, e.dayOfMonth.keyToken, e.month.keyToken,
        e.dayOfWeek.keyToken] := by
    rw [tokens_joined (isWord_keyTokens h)]
    rfl
  simp only [parse, hslots, ofTokens_keyToken h hv (token_second_of_isOnMinute h hminute)]
  rfl

theorem isValid_keyed (hv : e.isValid = true) (key : String) : (e.keyed key).isValid = true := by
  have hbase : ∀ f ∈ e.baseFields, f.fault? = none := fun f hf =>
    fault?_eq_none hv (List.mem_append_left _ hf)
  simp only [baseFields, List.forall_mem_cons] at hbase
  obtain ⟨hsecond, hminute, hhour, hdom, hmonth, hdow, -⟩ := hbase
  rw [isValid, report, Report.isValid_iff, issues, List.filterMap_eq_nil_iff]
  intro f hf
  rw [Option.map_eq_none_iff]
  simp only [fields, baseFields, keyed, Option.toList_none, List.append_nil, List.mem_cons,
    List.not_mem_nil, or_false] at hf
  -- a fault is found in what was read from a token, which the key leaves as it is
  rcases hf with rfl | rfl | rfl | rfl | rfl | rfl
  · exact hsecond
  · exact hminute
  · exact hhour
  · exact hdom
  · exact hmonth
  · exact hdow

/-- On whole minutes an expression with a key fires as the key does. -/
theorem selects_keyed (h : parse source mode = .ok (.expression e)) (hk : e.idiomKey? = some key)
    {c : Civil} (hc : c.second = 0) : (e.keyed key).selects c = e.selects c := by
  obtain ⟨hyear, hminute, -⟩ := idiomKey?_eq_some.mp hk
  have hseconds : (e.mode = .minutes || e.second.selects c.second) = true := by
    have hzero := second_selects_iff_of_token h (token_second_of_isOnMinute h hminute) (v := c.second)
    rw [hzero.mpr (by rw [hc]; rfl), Bool.or_true]
  have hyears : e.selectsYear c.date.year = true :=
    selectsYear_of_not_restricts (not_restricts_year hyear) _
  rw [selects, selects, hseconds, hyears]
  rfl

/-- The key of a valid expression is a valid expression of minutes. On whole minutes it fires as that
one does, and as any other valid expression with this key. -/
theorem matches?_of_idiomKey? (h : parse source mode = .ok (.expression e)) (hv : e.isValid = true)
    (hk : e.idiomKey? = some key) :
    (∃ x, parse key .minutes = .ok (.expression x) ∧ x.isValid = true ∧
      ∀ c : Civil, c.second = 0 → ∃ b, e.matches? c = .ok b ∧ x.matches? c = .ok b) ∧
    ∀ text mode' x, parse text mode' = .ok (.expression x) → x.isValid = true →
      x.idiomKey? = some key →
      ∀ c : Civil, c.second = 0 → ∃ b, e.matches? c = .ok b ∧ x.matches? c = .ok b := by
  have hvalid := isValid_keyed hv key
  constructor
  · refine ⟨_, parse_idiomKey? h hv hk, hvalid, fun c hc => ⟨e.selects c, matches?_of_isValid hv c, ?_⟩⟩
    rw [matches?_of_isValid hvalid, selects_keyed h hk hc]
  · intro text mode' x hx hvx hkx c hc
    refine ⟨e.selects c, matches?_of_isValid hv c, ?_⟩
    -- both keys are read as one expression
    have hsame : e.keyed key = x.keyed key := by
      have hparse := (parse_idiomKey? h hv hk).symm.trans (parse_idiomKey? hx hvx hkx)
      exact Parsed.expression.inj (Except.ok.inj hparse)
    rw [matches?_of_isValid hvx, ← selects_keyed hx hkx hc, ← hsame, selects_keyed h hk hc]

/-- Mornings of working days, in both modes. -/
theorem matches?_of_idiomKey?_mornings :
    ∃ e x : Expression, parse "0 0 9 ? * 1-5 *" .seconds = .ok (.expression e) ∧ e.isValid = true ∧
      e.idiomKey? = some "0 9 * * 1-5" ∧ parse "0 9 * * 1-5" .minutes = .ok (.expression x) ∧
      x.isValid = true ∧ ∀ c : Civil, c.second = 0 → ∃ b, e.matches? c = .ok b ∧ x.matches? c = .ok b := by
  have he : parse "0 0 9 ? * 1-5 *" .seconds = .ok (.expression _) := rfl
  have hx : parse "0 9 * * 1-5" .minutes = .ok (.expression _) := rfl
  refine ⟨_, _, he, by decide, by decide, hx, by decide, ?_⟩
  have hsame := (matches?_of_idiomKey? he (by decide) (show _ = some "0 9 * * 1-5" by decide)).2
  exact hsame _ _ _ hx (by decide) (by decide)

end CronSchedule
