import CronSchedule.Description.Idiom
import CronSchedule.Proofs.Expression.Restriction

/-!
Idioms and the tokens that they stand for. Main statement: expressions with one idiom restrict the same
slots, to the same numbers (`Expression.agreeAt_of_idiom?`).
-/

namespace CronSchedule

variable {e a b : Expression} {slot : Slot} {f g : Field} {mode : Mode} {source text : String}
  {i : Idiom}

namespace Expression

/-- The tokens of the key: those of the minutes and all after them but the years. -/
def keyTokens (e : Expression) : List String :=
  (e.baseFields.drop 1).map (·.keyToken)

theorem isWord_keyToken (h : parse source mode = .ok (.expression e)) (hf : e.field? slot = some f) :
    Text.IsWord f.keyToken.toList := by
  rw [Field.keyToken]
  split
  · decide
  · exact isWord_of_field? h hf

theorem isWord_keyTokens (h : parse source mode = .ok (.expression e)) :
    ∀ t ∈ e.keyTokens, Text.IsWord t.toList := by
  have hslot (slot : Slot) {f : Field} (hf : e.field? slot = some f) := isWord_keyToken h hf
  simp only [keyTokens, baseFields, List.drop_succ_cons, List.drop_zero, List.forall_mem_map,
    List.forall_mem_cons]
  exact ⟨hslot .minute rfl, hslot .hour rfl, hslot .dayOfMonth rfl, hslot .month rfl,
    hslot .dayOfWeek rfl, List.forall_mem_nil _⟩

theorem space_notMem_keyTokens (h : parse source mode = .ok (.expression e)) :
    ∀ t ∈ e.keyTokens, ' ' ∉ t.toList :=
  fun t ht => (isWord_keyTokens h t ht).space_notMem

/-- A key has the tokens of an expression that only fires on whole minutes, in any year. -/
theorem idiomKey?_eq_some {key : String} :
    e.idiomKey? = some key ↔
      e.isYearly = true ∧ e.isOnMinute = true ∧ " ".intercalate e.keyTokens = key := by
  rw [idiomKey?, Option.ite_none_right_eq_some, Bool.and_eq_true, Option.some.injEq, and_assoc]
  rfl

theorem idiom?_eq_some (h : e.idiom? = some i) :
    i ∈ Idiom.all ∧ e.isYearly = true ∧ e.isOnMinute = true ∧ " ".intercalate e.keyTokens = i.key := by
  obtain ⟨key, hkey, hi⟩ := Option.bind_eq_some_iff.mp h
  obtain ⟨hyear, hminute, rfl⟩ := idiomKey?_eq_some.mp hkey
  have hkeys := List.find?_some hi
  exact ⟨List.mem_of_find?_eq_some hi, hyear, hminute, (of_decide_eq_true hkeys).symm⟩

/-- The tokens of an expression are found again in the key of its idiom. -/
theorem keyTokens_eq (h : parse source mode = .ok (.expression e)) (hi : e.idiom? = some i)
    {ts : List String} (hne : ts ≠ []) (hts : ∀ t ∈ ts, ' ' ∉ t.toList)
    (hk : i.key = " ".intercalate ts) : e.keyTokens = ts := by
  obtain ⟨-, -, -, hkey⟩ := idiom?_eq_some hi
  have hspace : " ".toList = [' '] := rfl
  exact Text.intercalate_inj hspace (List.cons_ne_nil _ _) hne (space_notMem_keyTokens h) hts
    (hkey.trans hk)

theorem not_restricts_year (h : e.isYearly = true) : ¬ e.Restricts .year := by
  intro hr
  obtain ⟨f, hf, hu⟩ := hr
  have hyear : e.year = some f := hf
  rw [isYearly, hyear] at h
  exact Bool.false_ne_true (hu.symm.trans h)

/-- A slot of a valid expression is open exactly if its token in the key is an asterisk. -/
theorem not_restricts_iff_keyToken (h : parse source mode = .ok (.expression e))
    (hv : e.isValid = true) (hf : e.field? slot = some f) :
    ¬ e.Restricts slot ↔ f.keyToken = "*" := by
  obtain ⟨hr, ha⟩ := read_of_isValid h hv hf
  rw [restricts_iff hf, Bool.not_eq_false, Field.isUnrestricted_iff_of_accepts hr ha, Field.keyToken]
  split
  · next hq => exact iff_of_true (.inr hq) rfl
  · next hq => exact or_iff_left hq

theorem agreeAt_of_keyToken_eq (ha : parse source mode = .ok (.expression a))
    (hb : parse text mode = .ok (.expression b)) (hva : a.isValid = true) (hvb : b.isValid = true)
    (hf : a.field? slot = some f) (hg : b.field? slot = some g) (h : f.keyToken = g.keyToken) :
    AgreeAt a b slot := by
  by_cases hopen : f.keyToken = "*"
  · have hna := (not_restricts_iff_keyToken ha hva hf).mpr hopen
    have hnb := (not_restricts_iff_keyToken hb hvb hg).mpr (h.symm.trans hopen)
    exact agreeAt_of_not_restricts ha hb hna hnb
  · have hkey {f : Field} (hne : f.keyToken ≠ "*") : f.keyToken = f.token := by
      rw [Field.keyToken] at hne ⊢
      split
      · next hq => exact absurd (if_pos hq) hne
      · rfl
    have htoken : f.token = g.token := by
      rw [← hkey hopen, h, hkey (h ▸ hopen)]
    exact agreeAt_of_token_eq ha hb hf hg htoken

/-- In minutes mode the zero for the seconds is filled in, in seconds mode it is written. -/
theorem token_second_of_isOnMinute (h : parse source mode = .ok (.expression e))
    (hm : e.isOnMinute = true) : e.second.token = "0" := by
  have hsecond : e.field? .second = some e.second := rfl
  have hmode : e.mode = mode := mode_of_parse h
  cases mode with
  | minutes =>
    have hmem : (Slot.second, "0") ∈ filled source .minutes :=
      filled_minutes source ▸ List.mem_cons_self
    exact (eq_token_of_mem_filled h hsecond hmem).symm
  | seconds =>
    rw [isOnMinute, hmode, Bool.or_eq_true] at hm
    exact of_decide_eq_true (hm.resolve_left (by decide))

theorem agreeAt_of_idiom? (ha : parse source mode = .ok (.expression a))
    (hb : parse text mode = .ok (.expression b)) (hva : a.isValid = true) (hvb : b.isValid = true)
    (hia : a.idiom? = some i) (hib : b.idiom? = some i) :
    ∀ slot ∈ mode.slots, AgreeAt a b slot := by
  obtain ⟨-, hya, hsa, -⟩ := idiom?_eq_some hia
  obtain ⟨-, hyb, hsb, hkey⟩ := idiom?_eq_some hib
  have htokens := keyTokens_eq ha hia (List.cons_ne_nil _ _) (space_notMem_keyTokens hb) hkey.symm
  simp only [keyTokens, baseFields, List.drop_succ_cons, List.drop_zero, List.map_cons,
    List.map_nil, List.cons.injEq, and_true] at htokens
  obtain ⟨hminute, hhour, hdom, hmonth, hdow⟩ := htokens
  have hslot {slot : Slot} {f g : Field} (hf : a.field? slot = some f) (hg : b.field? slot = some g) :=
    agreeAt_of_keyToken_eq ha hb hva hvb hf hg
  intro slot _
  cases slot with
  | minute => exact hslot rfl rfl hminute
  | hour => exact hslot rfl rfl hhour
  | dayOfMonth => exact hslot rfl rfl hdom
  | month => exact hslot rfl rfl hmonth
  | dayOfWeek => exact hslot rfl rfl hdow
  | year => exact agreeAt_of_not_restricts ha hb (not_restricts_year hya) (not_restricts_year hyb)
  | second =>
    have htoken := (token_second_of_isOnMinute ha hsa).trans (token_second_of_isOnMinute hb hsb).symm
    exact agreeAt_of_token_eq ha hb rfl rfl htoken

theorem restricts_iff_keyToken {f : Field} (h : parse source mode = .ok (.expression e))
    (hv : e.isValid = true) (hf : e.field? slot = some f) : e.Restricts slot ↔ f.keyToken ≠ "*" := by
  rw [← not_iff_not, not_restricts_iff_keyToken h hv hf, not_not]

/-- The slots that an idiom restricts are those without an asterisk in its key. -/
theorem restricts_iff_of_keyTokens (h : parse source mode = .ok (.expression e)) (hv : e.isValid = true)
    (hi : e.idiom? = some i) {minute hour dom month dow : String}
    (hk : e.keyTokens = [minute, hour, dom, month, dow]) :
    (e.Restricts .minute ↔ minute ≠ "*") ∧ (e.Restricts .hour ↔ hour ≠ "*") ∧
      (e.Restricts .dayOfMonth ↔ dom ≠ "*") ∧ (e.Restricts .month ↔ month ≠ "*") ∧
        (e.Restricts .dayOfWeek ↔ dow ≠ "*") ∧ ¬ e.Restricts .year := by
  simp only [keyTokens, baseFields, List.drop_succ_cons, List.drop_zero, List.map_cons,
    List.map_nil, List.cons.injEq, and_true] at hk
  obtain ⟨rfl, rfl, rfl, rfl, rfl⟩ := hk
  exact ⟨restricts_iff_keyToken h hv rfl, restricts_iff_keyToken h hv rfl,
    restricts_iff_keyToken h hv rfl, restricts_iff_keyToken h hv rfl,
    restricts_iff_keyToken h hv rfl, not_restricts_year (idiom?_eq_some hi).2.1⟩

theorem restricts_second (h : parse source mode = .ok (.expression e)) (hv : e.isValid = true)
    (hm : e.isOnMinute = true) : e.Restricts .second := by
  have hsecond : e.field? .second = some e.second := rfl
  obtain ⟨hr, ha⟩ := read_of_isValid h hv hsecond
  rw [restricts_iff hsecond, Bool.eq_false_iff, ne_eq, Field.isUnrestricted_iff_of_accepts hr ha,
    token_second_of_isOnMinute h hm]
  decide

/-- In minutes mode the seconds are never open, so only the written slots can make a difference. -/
theorem restricts_iff_of_slots (ha : parse source mode = .ok (.expression a))
    (hb : parse text mode = .ok (.expression b)) (hva : a.isValid = true) (hvb : b.isValid = true)
    (h : ∀ slot ∈ mode.slots, a.Restricts slot ↔ b.Restricts slot) (slot : Slot) :
    a.Restricts slot ↔ b.Restricts slot := by
  by_cases hs : slot ∈ mode.slots
  · exact h slot hs
  · have honMinute {e : Expression} (hm : e.mode = .minutes) : e.isOnMinute = true := by
      rw [isOnMinute, hm]
      rfl
    obtain ⟨rfl, rfl⟩ : mode = .minutes ∧ slot = .second := by
      cases mode <;> cases slot <;> simp_all [Mode.slots]
    have hma := honMinute (mode_of_parse ha)
    have hmb := honMinute (mode_of_parse hb)
    exact iff_of_true (restricts_second ha hva hma) (restricts_second hb hvb hmb)

end Expression

end CronSchedule
