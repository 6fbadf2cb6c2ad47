import CronSchedule.Proofs.Description.Characters
import Mathlib.Data.Set.List

/-!
Steps through all days. Main statement: the same is said in Chinese of the day of the month and of the day
of the week only where both fields hold one list of such steps (`Field.isOpenSteps_of_phrase_eq`).
-/

namespace CronSchedule

/-- The token is a list of steps through the whole slot. -/
def Token.IsOpenSteps (token : List Char) : Prop :=
  ∃ steps : List Numeral, IsList token (steps.map (.stepped .every))

/-- What is said in Chinese of a step through all days. -/
def dayStep (step : Numeral) : String :=
  "每" ++ (String.ofList step.digits ++ "天")

theorem dayStep_injective : Function.Injective dayStep := by
  intro m n h
  rw [dayStep, dayStep, String.append_right_inj, String.append_left_inj] at h
  exact Numeral.digits_injective (String.ofList_injective h)

def daySteps : List Numeral → String
  | [step] => dayStep step
  | steps => "在" ++ "、".intercalate (steps.map dayStep)

theorem spelledWith_dayStep (step : Numeral) : SpelledWith ['每', '天'] (dayStep step) := by
  have hdigits : SpelledWith ['每', '天'] (String.ofList step.digits) := by
    intro c hc
    rw [String.toList_ofList] at hc
    exact .inl (List.all_eq_true.mp step.all_isDigit c hc)
  exact .append (by decide) (.append hdigits (by decide))

theorem daySteps_inj {ms ns : List Numeral} (hm : ms ≠ []) (hn : ns ≠ [])
    (h : daySteps ms = daySteps ns) : ms = ns := by
  have hcomma : "、".toList = ['、'] := rfl
  have hitems (steps : List Numeral) : ∀ x ∈ steps.map dayStep, '、' ∉ x.toList :=
    List.forall_mem_map.mpr fun step _ => (spelledWith_dayStep step).notMem (by decide) (by decide)
  have hmixed (m : Numeral) (s : String) : dayStep m ≠ "在" ++ s := by
    intro h
    have hhead := congrArg (fun s => s.toList.head?) h
    simp [dayStep] at hhead
  match ms, ns, hm, hn with
  | [m], [n], _, _ => rw [dayStep_injective h]
  | [m], n :: n' :: ns, _, _ => exact absurd h (hmixed m _)
  | m :: m' :: ms, [n], _, _ => exact absurd h.symm (hmixed n _)
  | m :: m' :: ms, n :: n' :: ns, _, _ =>
    have hlist := Text.intercalate_inj hcomma (List.cons_ne_nil _ _) (List.cons_ne_nil _ _)
      (hitems (m :: m' :: ms)) (hitems (n :: n' :: ns)) (String.append_right_inj _ |>.mp h)
    exact dayStep_injective.list_map hlist

namespace Slot

/-- A character that every value of a day slot is written with. -/
def dayMark : Slot → Char
  | dayOfMonth => '号'
  | _ => '周'

theorem dayMark_mem_weekdays : ∀ i : Fin 7, '周' ∈ (Locale.zh.weekdays.get i).toList := by
  decide

theorem dayMark_mem_value {slot : Slot} (hs : slot ∈ days) {n : Int} (hn : 0 ≤ n) :
    slot.dayMark ∈ (Locale.zh.value slot n).toList := by
  rcases List.mem_pair.mp hs with rfl | rfl
  · rw [value_zh_number (by decide) (by decide) hn]
    exact List.mem_append_right _ (List.mem_singleton_self _)
  · exact dayMark_mem_weekdays ⟨(n % 7).toNat, by omega⟩

end Slot

theorem Element.exists_eq_openStep {slot : Slot} (hs : slot ∈ Slot.days) {e : Element}
    (h : slot.dayMark ∉ (e.phrase .zh slot).toList) : ∃ step, .stepped .every step = e := by
  have hvalue {n : Int} (hn : 0 ≤ n) := Slot.dayMark_mem_value hs hn
  have hnat (n : Numeral) := hvalue (Int.natCast_nonneg n.value)
  match e with
  | plain .every =>
    have hlow : 0 ≤ slot.bounds.low := by cases slot <;> decide
    rw [phrase, Base.phrase, Locale.through_zh, String.toList_append] at h
    exact absurd (List.mem_append_left _ (hvalue hlow)) h
  | plain (.single n) => exact absurd (hnat n) h
  | plain (.span first last) =>
    rw [phrase, Base.phrase, Locale.through_zh, String.toList_append] at h
    exact absurd (List.mem_append_left _ (hnat first)) h
  | stepped .every step => exact ⟨step, rfl⟩
  | stepped (.single n) step =>
    rw [phrase, Base.stepPhrase_single_zh, String.toList_append, String.toList_append] at h
    exact absurd (List.mem_append_right _ (List.mem_append_left _ (hnat n))) h
  | stepped (.span first last) step =>
    rw [phrase, Base.stepPhrase_span_zh, String.toList_append, String.toList_append] at h
    exact absurd (List.mem_append_right _ (List.mem_append_left _ (hnat first))) h

namespace Field

variable {f g : Field} {slot : Slot} {es es' : List Element}

theorem phrase_openSteps {steps : List Numeral} (hs : f.slot ∈ Slot.days)
    (hd : f.phrase .zh (steps.map (.stepped .every)) ≠ Message.onWeekdays.say .zh []) :
    f.phrase .zh (steps.map (.stepped .every)) = daySteps steps := by
  obtain ⟨hunit, hbefore, hafter⟩ : Locale.zh.stepUnit f.slot = "天" ∧ f.slot.before = "在" ∧
      f.slot.after = "" := by
    rcases List.mem_pair.mp hs with h | h <;> rw [h] <;> decide
  have hstep (step : Numeral) : Base.every.stepPhrase .zh f.slot step = dayStep step := by
    rw [Base.stepPhrase_every_zh, hunit, dayStep]
  rcases f.phrase_cases .zh (steps.map (.stepped .every)) with ⟨base, step, hone, hphrase⟩ |
    ⟨-, hdays⟩ | ⟨hmany, hphrase⟩
  · obtain ⟨step', rfl, hstep'⟩ := List.map_eq_singleton_iff.mp hone
    cases hstep'
    exact hphrase.trans (hstep step)
  · exact absurd hdays hd
  · have hne : ∀ step, steps = [step] → False := by
      rintro step rfl
      exact hmany .every step rfl
    have hitems : (steps.map (Element.stepped .every)).map (·.phrase .zh f.slot) =
        steps.map dayStep := by
      rw [List.map_map]
      exact List.map_congr_left fun step _ => hstep step
    rw [hphrase, f.slot.say_values_zh, Locale.listing_zh, hitems, hbefore, hafter, String.append_empty,
      daySteps.eq_2 steps hne]

/-- A field whose words name no day holds steps through all days. -/
theorem exists_eq_openSteps (hs : f.slot ∈ Slot.days)
    (hd : f.phrase .zh es ≠ Message.onWeekdays.say .zh [])
    (h : f.slot.dayMark ∉ (f.phrase .zh es).toList) :
    ∃ steps : List Numeral, steps.map (.stepped .every) = es := by
  have hopen : ∀ e ∈ es, f.slot.dayMark ∉ (e.phrase .zh f.slot).toList := by
    rcases f.phrase_cases .zh es with ⟨base, step, rfl, hphrase⟩ | ⟨-, hdays⟩ | ⟨-, hphrase⟩
    · rw [hphrase] at h
      exact List.forall_mem_singleton.mpr h
    · exact absurd hdays hd
    · intro e he hmem
      apply h
      rw [hphrase, f.slot.say_values_zh, Locale.listing_zh, String.toList_append, String.toList_append]
      refine List.mem_append_right _ (List.mem_append_left _ ?_)
      have hcomma : "、".toList = ['、'] := rfl
      exact Text.mem_intercalate hcomma (List.mem_map_of_mem he) hmem
  have hrange : es ∈ Set.range (List.map (Element.stepped .every)) := by
    rw [Set.range_list_map]
    exact fun e he => Element.exists_eq_openStep hs (hopen e he)
  exact hrange

/-- A field of the day of the month is said as one of the day of the week is only if both hold one list
of steps through all days. -/
theorem isOpenSteps_of_phrase_eq (hf : f.Lists .dayOfMonth es) (hg : g.Lists .dayOfWeek es')
    (h : f.phrase .zh es = g.phrase .zh es') :
    Token.IsOpenSteps f.token.toList ∧ f.token = g.token := by
  have hfs : f.slot ∈ Slot.days := hf.slot_eq ▸ by decide
  have hgs : g.slot ∈ Slot.days := hg.slot_eq ▸ by decide
  have hfd : f.phrase .zh es ≠ Message.onWeekdays.say .zh [] := by
    intro hdays
    have hends := f.endsIn_phrase hf.ne_nil
    rw [hdays, hf.slot_eq] at hends
    exact absurd hends (by decide)
  have hgd : g.phrase .zh es' ≠ Message.onWeekdays.say .zh [] := h ▸ hfd
  -- the mark of the days of one slot is no character of the other, so neither field names a day
  have hfm : f.slot.dayMark ∉ (f.phrase .zh es).toList := by
    rw [h, hf.slot_eq]
    refine (g.spelledWith_phrase es').notMem (by decide) ?_
    rw [hg.slot_eq]
    decide
  have hgm : g.slot.dayMark ∉ (g.phrase .zh es').toList := by
    rw [← h, hg.slot_eq]
    refine (f.spelledWith_phrase es).notMem (by decide) ?_
    rw [hf.slot_eq]
    decide
  obtain ⟨steps, rfl⟩ := exists_eq_openSteps hfs hfd hfm
  obtain ⟨steps', rfl⟩ := exists_eq_openSteps hgs hgd hgm
  rw [phrase_openSteps hfs hfd, phrase_openSteps hgs hgd] at h
  have hne := mt List.map_eq_nil_iff.mpr hf.ne_nil
  have hne' := mt List.map_eq_nil_iff.mpr hg.ne_nil
  cases daySteps_inj hne hne' h
  refine ⟨⟨steps, hf.isList⟩, String.toList_inj.mp ?_⟩
  rw [hf.isList.2, hg.isList.2]

end Field

end CronSchedule
