import CronSchedule.Proofs.Description.Idioms
import CronSchedule.Proofs.Description.Parts

/-!
Chinese descriptions tell which slots are restricted, with two exceptions: steps through all days are said
alike of both day slots, and two idioms are said as the step in them is said by itself. Main statement:
valid expressions of one mode with one Chinese description restrict the same slots exactly if they are no
such exception (`restricts_iff_of_describe_zh`).
-/

namespace CronSchedule

theorem Idiom.chinese_inj : ∀ i ∈ all, ∀ j ∈ all, i.chinese = j.chinese → i = j := by
  decide +kernel

/-- The idioms that are said as a step of one slot is said. -/
theorem Idiom.key_of_isOpening : ∀ i ∈ all, isOpening i.chinese.toList = true →
    i.key = "*/5 * * * *" ∧ i.chinese = "每5分钟" ++ "执行" ∨
      i.key = "0 */2 * * *" ∧ i.chinese = "每2小时" ++ "执行" := by
  decide +kernel

theorem Idiom.key_of_everyMinute : ∀ i ∈ all, i.chinese = "每分钟" ++ "执行" → i.key = "* * * * *" := by
  decide +kernel

theorem Idiom.ne_everySecond : ∀ i ∈ all, i.chinese ≠ "每秒" ++ "执行" := by
  decide +kernel

namespace Expression

variable {a b e : Expression} {slot : Slot} {mode : Mode} {source text : String} {x : String}

/-- One of the two idioms that are said as the step in them is said by itself, and an expression that
restricts nothing but the slot of that step. -/
def Abbreviates (a b : Expression) : Prop :=
  ∃ i, a.idiom? = some i ∧
    (i.key = "*/5 * * * *" ∧ a.mode = .seconds ∧
        (∀ slot ∈ a.mode.slots, b.Restricts slot ↔ slot = .minute) ∨
      i.key = "0 */2 * * *" ∧ ∀ slot ∈ a.mode.slots, b.Restricts slot ↔ slot = .hour)

theorem not_restricts_of_fragments_nil (h : parse source mode = .ok (.expression e))
    (hv : e.isValid = true) (hnil : e.fragments .zh = []) : ∀ slot ∈ mode.slots, ¬ e.Restricts slot := by
  have hmode : e.mode = mode := mode_of_parse h
  intro slot hs hr
  obtain ⟨x, hx⟩ := fragmentAt?_zh h hv hr
  have hmem := mem_fragments_zh.mpr ⟨slot, hmode ▸ hs, hx⟩
  rw [hnil] at hmem
  cases hmem

/-- A sentence of one part, whose ending tells the slot, is about that slot alone. -/
theorem restricts_iff_of_fragments_singleton (slot : Slot) (h : parse source mode = .ok (.expression e))
    (hv : e.isValid = true) (hx : e.fragments .zh = [x]) (hd : slot ∉ Slot.days)
    (hends : EndsIn slot.endings x) : ∀ s ∈ mode.slots, e.Restricts s ↔ s = slot := by
  have hmode : e.mode = mode := mode_of_parse h
  have hslot {s : Slot} (hs : EndsIn s.endings x) : s = slot := by
    obtain ⟨c, hc, hlast⟩ := hends
    obtain ⟨c', hc', hlast'⟩ := hs
    cases hlast.symm.trans hlast'
    exact (Slot.eq_of_mem_endings hc' hc).resolve_right fun hdays => hd hdays.2.2
  intro s hs
  constructor
  · intro hr
    obtain ⟨y, hy⟩ := fragmentAt?_zh h hv hr
    have hmem := mem_fragments_zh.mpr ⟨s, hmode ▸ hs, hy⟩
    rw [hx, List.mem_singleton] at hmem
    exact hslot (hmem ▸ endsIn_of_fragmentAt? h hv hy)
  · rintro rfl
    obtain ⟨t, -, hy⟩ := mem_fragments_zh.mp (hx ▸ List.mem_singleton_self x)
    exact hslot (endsIn_of_fragmentAt? h hv hy) ▸ restricts_of_fragmentAt? hy

/-- Only three idioms may be said as a sentence that is put together. -/
theorem fragments_of_chinese_eq {i : Idiom} (hi : i ∈ Idiom.all)
    (h : parse source mode = .ok (.expression e)) (hv : e.isValid = true)
    (heq : i.chinese = e.composed .zh) :
    (e.fragments .zh = [] ∧ mode = .minutes ∧ i.key = "* * * * *") ∨
      (e.fragments .zh = ["每5分钟"] ∧ i.key = "*/5 * * * *") ∨
        e.fragments .zh = ["每2小时"] ∧ i.key = "0 */2 * * *" := by
  have hmode : e.mode = mode := mode_of_parse h
  have hparts := comma_notMem_parts h hv
  have hne := e.parts_ne_nil
  rw [composed_zh] at heq
  cases hfs : e.fragments .zh with
  | nil =>
    have hunit : e.parts = [e.everyUnit.say .zh []] := by rw [parts, hfs]
    rw [hunit, String.intercalate_singleton, everyUnit, hmode] at heq
    cases mode with
    | minutes => exact .inl ⟨rfl, rfl, Idiom.key_of_everyMinute i hi heq⟩
    | seconds => exact absurd heq (Idiom.ne_everySecond i hi)
  | cons x xs =>
    have hfragments : e.parts = x :: xs := by rw [parts, hfs]
    have hopening : isOpening i.chinese.toList = true := by
      have hx := isOpening_of_mem_fragments h hv (hfs ▸ List.mem_cons_self)
      rw [heq, hfragments, String.toList_append]
      refine isOpening_append ?_ _
      by_cases hxs : xs = []
      · rwa [hxs, String.intercalate_singleton]
      · rw [String.intercalate_cons_of_ne_nil hxs, String.toList_append, String.toList_append]
        exact isOpening_append (isOpening_append hx _) _
    rw [hfragments] at hparts heq
    have hcomma : "，".toList = ['，'] := rfl
    -- what is said of the step has no comma, so it is all the parts there are
    have hsingle {s : String} (hs : '，' ∉ s.toList) (heq' : i.chinese = s ++ "执行") : x :: xs = [s] := by
      rw [heq', String.append_left_inj] at heq
      apply Text.intercalate_inj hcomma (List.cons_ne_nil _ _) (List.cons_ne_nil _ _) hparts
        (List.forall_mem_singleton.mpr hs)
      rw [String.intercalate_singleton, heq]
    rcases Idiom.key_of_isOpening i hi hopening with ⟨hkey, hsay⟩ | ⟨hkey, hsay⟩
    · exact .inr (.inl ⟨hsingle (by decide) hsay, hkey⟩)
    · exact .inr (.inr ⟨hsingle (by decide) hsay, hkey⟩)

theorem restricts_iff_of_chinese_eq {i : Idiom} (ha : parse source mode = .ok (.expression a))
    (hb : parse text mode = .ok (.expression b)) (hva : a.isValid = true) (hvb : b.isValid = true)
    (hi : a.idiom? = some i) (h : i.chinese = b.composed .zh) :
    (∀ slot ∈ mode.slots, a.Restricts slot ↔ b.Restricts slot) ∨ Abbreviates a b := by
  have hmode : a.mode = mode := mode_of_parse ha
  rcases fragments_of_chinese_eq (idiom?_eq_some hi).1 hb hvb h with ⟨hnil, rfl, hkey⟩ | ⟨hone, hkey⟩ |
    ⟨hone, hkey⟩
  · have hkeys : a.keyTokens = ["*", "*", "*", "*", "*"] :=
      keyTokens_eq ha hi (List.cons_ne_nil _ _) (by decide) hkey
    obtain ⟨hminute, hhour, hdom, hmonth, hdow, hyear⟩ := restricts_iff_of_keyTokens ha hva hi hkeys
    have hnone := not_restricts_of_fragments_nil hb hvb hnil
    refine .inl fun slot hs => iff_of_false ?_ (hnone slot hs)
    cases slot <;> simp_all [Mode.slots]
  · have hminutes :=
      restricts_iff_of_fragments_singleton .minute hb hvb hone (by decide) (by decide)
    cases mode with
    | minutes =>
      have hkeys : a.keyTokens = ["*/5", "*", "*", "*", "*"] :=
        keyTokens_eq ha hi (List.cons_ne_nil _ _) (by decide) hkey
      obtain ⟨hminute, hhour, hdom, hmonth, hdow, hyear⟩ := restricts_iff_of_keyTokens ha hva hi hkeys
      refine .inl fun slot hs => ?_
      rw [hminutes slot hs]
      cases slot <;> simp_all [Mode.slots]
    | seconds => exact .inr ⟨i, hi, .inl ⟨hkey, hmode, hmode ▸ hminutes⟩⟩
  · have hhour := restricts_iff_of_fragments_singleton .hour hb hvb hone (by decide) (by decide)
    exact .inr ⟨i, hi, .inr ⟨hkey, hmode ▸ hhour⟩⟩

/-- What an abbreviation passes over is a zero: of the seconds, or of the minutes. -/
theorem Abbreviates.not_forall_restricts_iff (h : Abbreviates a b)
    (ha : parse source mode = .ok (.expression a)) (hva : a.isValid = true) :
    ¬ ∀ slot, a.Restricts slot ↔ b.Restricts slot := by
  have hmode : a.mode = mode := mode_of_parse ha
  intro hall
  obtain ⟨i, hi, ⟨hkey, hseconds, hb⟩ | ⟨hkey, hb⟩⟩ := h
  · have hsecond : Slot.second ∈ a.mode.slots := by
      rw [hseconds]
      decide
    have hzero := restricts_second ha hva (idiom?_eq_some hi).2.2.1
    cases (hb .second hsecond).mp ((hall .second).mp hzero)
  · have hminute : Slot.minute ∈ a.mode.slots := by cases a.mode <;> decide
    have hkeys : a.keyTokens = ["0", "*/2", "*", "*", "*"] :=
      keyTokens_eq ha hi (List.cons_ne_nil _ _) (by decide) hkey
    have hzero := (restricts_iff_of_keyTokens ha hva hi hkeys).1.mpr (by decide)
    cases (hb .minute hminute).mp ((hall .minute).mp hzero)

theorem ConfusesDays.not_forall_restricts_iff (h : ConfusesDays a b) :
    ¬ ∀ slot, a.Restricts slot ↔ b.Restricts slot :=
  fun hall => h.not_restricts_right.1 ((hall .dayOfMonth).mp h.restricts.1)

theorem sentence_zh_cases (h : a.sentence .zh = b.sentence .zh) :
    a.composed .zh = b.composed .zh ∨ (∃ i, a.idiom? = some i ∧ b.idiom? = some i) ∨
      (∃ i, a.idiom? = some i ∧ i.chinese = b.composed .zh) ∨
        ∃ i, b.idiom? = some i ∧ i.chinese = a.composed .zh := by
  rw [sentence, sentence, canned?, canned?] at h
  cases hia : a.idiom? with
  | none =>
    cases hib : b.idiom? with
    | none =>
      rw [hia, hib] at h
      exact .inl h
    | some j =>
      rw [hia, hib] at h
      exact .inr (.inr (.inr ⟨j, rfl, h.symm⟩))
  | some i =>
    cases hib : b.idiom? with
    | none =>
      rw [hia, hib] at h
      exact .inr (.inr (.inl ⟨i, rfl, h⟩))
    | some j =>
      rw [hia, hib] at h
      cases Idiom.chinese_inj i (idiom?_eq_some hia).1 j (idiom?_eq_some hib).1 h
      exact .inr (.inl ⟨i, rfl, rfl⟩)

theorem restricts_iff_of_sentence_zh (ha : parse source mode = .ok (.expression a))
    (hb : parse text mode = .ok (.expression b)) (hva : a.isValid = true) (hvb : b.isValid = true)
    (h : a.sentence .zh = b.sentence .zh) :
    (∀ slot ∈ mode.slots, a.Restricts slot ↔ b.Restricts slot) ∨
      (ConfusesDays a b ∨ ConfusesDays b a) ∨ Abbreviates a b ∨ Abbreviates b a := by
  rcases sentence_zh_cases h with h | ⟨i, hia, hib⟩ | ⟨i, hia, h⟩ | ⟨i, hib, h⟩
  · have hfragments := fragments_inj ha hb hva hvb h
    exact (restricts_iff_of_fragments ha hb hva hvb hfragments).imp_right .inl
  · exact .inl fun slot hs => (agreeAt_of_idiom? ha hb hva hvb hia hib slot hs).restricts
  · exact (restricts_iff_of_chinese_eq ha hb hva hvb hia h).imp_right fun h => .inr (.inl h)
  · rcases restricts_iff_of_chinese_eq hb ha hvb hva hib h with hiff | habbreviates
    · exact .inl fun slot hs => (hiff slot hs).symm
    · exact .inr (.inr (.inr habbreviates))

end Expression

open Expression

variable {a b : Expression} {mode : Mode} {source text : String}

/-- Schedules with one Chinese description restrict the same slots, unless the description is one that is
said of steps through all days in either day slot, or of an idiom and of the step in it. -/
theorem restricts_iff_of_describe_zh (ha : parse source mode = .ok (.expression a))
    (hb : parse text mode = .ok (.expression b)) (hva : a.isValid = true) (hvb : b.isValid = true)
    (h : a.describe .zh = b.describe .zh) :
    (∀ slot, a.Restricts slot ↔ b.Restricts slot) ↔
      ¬ ((ConfusesDays a b ∨ ConfusesDays b a) ∨ Abbreviates a b ∨ Abbreviates b a) := by
  rw [describe_of_isValid hva, describe_of_isValid hvb] at h
  constructor
  · intro hall hexception
    have hall' : ∀ slot, b.Restricts slot ↔ a.Restricts slot := fun slot => (hall slot).symm
    rcases hexception with (hdays | hdays) | hidiom | hidiom
    · exact hdays.not_forall_restricts_iff hall
    · exact hdays.not_forall_restricts_iff hall'
    · exact hidiom.not_forall_restricts_iff ha hva hall
    · exact hidiom.not_forall_restricts_iff hb hvb hall'
  · intro hexception
    have hslots := restricts_iff_of_sentence_zh ha hb hva hvb (Except.ok.inj h)
    exact restricts_iff_of_slots ha hb hva hvb (hslots.resolve_right hexception)

/-- Every two hours on the hour, and every second of every other hour. -/
theorem restricts_iff_of_describe_zh_two_hours :
    ∃ a b, parse "0 0 */2 * * *" .seconds = .ok (.expression a) ∧
      parse "* * */2 ? * * *" .seconds = .ok (.expression b) ∧ a.describe .zh = b.describe .zh ∧
      ((∀ slot, a.Restricts slot ↔ b.Restricts slot) ↔
        ¬ ((ConfusesDays a b ∨ ConfusesDays b a) ∨ Abbreviates a b ∨ Abbreviates b a)) := by
  have hparse : parse "0 0 */2 * * *" .seconds = .ok (.expression _) := rfl
  have hparse' : parse "* * */2 ? * * *" .seconds = .ok (.expression _) := rfl
  exact ⟨_, _, hparse, hparse', by decide +kernel,
    restricts_iff_of_describe_zh hparse hparse' (by decide) (by decide) (by decide +kernel)⟩

/-- Every other day of the month is said as every other day of the week is. -/
theorem describe_zh_other_days :
    ∃ a b, parse "0 0 */2 * *" .minutes = .ok (.expression a) ∧
      parse "0 0 * * */2" .minutes = .ok (.expression b) ∧ a.isValid = true ∧ b.isValid = true ∧
      a.describe .zh = b.describe .zh ∧ ¬ ∀ slot, a.Restricts slot ↔ b.Restricts slot := by
  have hparse : parse "0 0 */2 * *" .minutes = .ok (.expression _) := rfl
  have hparse' : parse "0 0 * * */2" .minutes = .ok (.expression _) := rfl
  refine ⟨_, _, hparse, hparse', by decide, by decide, by decide +kernel, fun hall => ?_⟩
  have hdom := (hall .dayOfMonth).mp ⟨_, rfl, by decide⟩
  exact absurd ((restricts_iff rfl).mp hdom) (by decide)

end CronSchedule
