import CronSchedule.Proofs.Description.Chinese
import CronSchedule.Proofs.Description.English
import CronSchedule.Proofs.Expression.Values
import Mathlib.Data.List.Forall2
import Mathlib.Data.List.Sort
import Mathlib.Data.List.Zip

/-!
What descriptions tell of the days of the week, of which Sunday has two numbers. Main statement: valid
expressions that differ in no other token and are described alike select the same days, but for elements
that go from one Sunday round to the next where the others stay on the Sunday (`weekdays_of_describe`).
-/

namespace CronSchedule

/-- Where a base starts and stops, with one number for Sunday. -/
def Base.days (base : Base) : Int × Option Int :=
  let ends := base.ends Slot.dayOfWeek.bounds
  (ends.1 % 7, ends.2.map (· % 7))

namespace Element

/-- The elements have the same steps and start and stop on the same days. The whole week may be written
as a range, but not where it has steps. -/
def Alike : Element → Element → Prop
  | plain base, plain base' => base.days = base'.days
  | stepped base step, stepped base' step' =>
    base.days = base'.days ∧ (base = .every ↔ base' = .every) ∧ step = step'
  | _, _ => False

/-- The element goes from the Sunday that starts the week to the one that ends it, or has steps that
may. -/
def Rounds : Element → Prop
  | plain (.span first last) | stepped (.span first last) _ => first.value = 0 ∧ last.value = 7
  | stepped (.single n) _ => n.value = 0
  | _ => False

/-- The element stops where it starts: it is a range of one day, or has steps from the day that ends the
week. -/
def Stays : Element → Prop
  | plain (.span first last) | stepped (.span first last) _ => first.value = last.value
  | stepped (.single n) _ => n.value = 7
  | _ => False

/-- The first element goes round the week where the second stays, and so selects a day that is none of
the given values. -/
def Outruns (vs : List Int) (e e' : Element) : Prop :=
  (e.Rounds ∧ e'.Stays) ∧
    ∃ n, e.Selects Slot.dayOfWeek.accepted n ∧ Slot.dayOfWeek.canonical n ∉ vs

end Element

theorem Locale.weekday_inj (l : Locale) {m n : Int} (h : l.weekday m = l.weekday n) : m % 7 = n % 7 := by
  have hall : ∀ i j : Fin 7, l.weekdays.get i = l.weekdays.get j → i = j := by
    cases l <;> decide +kernel
  have hij := hall ⟨(m % 7).toNat, by omega⟩ ⟨(n % 7).toNat, by omega⟩ h
  have hval : (m % 7).toNat = (n % 7).toNat := congrArg Fin.val hij
  omega

section

variable {base base' : Base} {e e' : Element} {n : Int}

theorem Base.days_eq_of_words (h : base.words .dayOfWeek = base'.words .dayOfWeek) :
    base.days = base'.days := by
  rw [words_eq, words_eq] at h
  obtain ⟨hstart, hstop⟩ := List.cons.inj h
  refine Prod.ext (Locale.en.weekday_inj hstart) ?_
  simp only [days]
  cases hs : (base.ends Slot.dayOfWeek.bounds).2 with
  | none =>
    cases hs' : (base'.ends Slot.dayOfWeek.bounds).2 with
    | none => rfl
    | some stop' => simp [hs, hs'] at hstop
  | some stop =>
    cases hs' : (base'.ends Slot.dayOfWeek.bounds).2 with
    | none => simp [hs, hs'] at hstop
    | some stop' =>
      simp only [hs, hs', Option.elim_some, List.cons.injEq, and_true, true_and] at hstop
      exact congrArg some (Locale.en.weekday_inj hstop)

theorem Base.days_eq_of_stepTail (h : base.stepTail .dayOfWeek = base'.stepTail .dayOfWeek) :
    base.days = base'.days ∧ (base = every ↔ base' = every) := by
  match base, base' with
  | every, every => exact ⟨rfl, Iff.rfl⟩
  | single n, single n' =>
    simp only [stepTail, List.cons.injEq, and_true, true_and] at h
    exact ⟨Prod.ext (Locale.en.weekday_inj h) rfl, by simp⟩
  | span first last, span first' last' => exact ⟨days_eq_of_words (List.cons.inj h).2, by simp⟩
  | every, single _ => simp [stepTail] at h
  | every, span _ _ => simp [stepTail] at h
  | single _, every => simp [stepTail] at h
  | single _, span _ _ => simp [stepTail, words] at h
  | span _ _, every => simp [stepTail] at h
  | span _ _, single _ => simp [stepTail, words] at h

theorem Element.alike_of_words (h : e.words .dayOfWeek = e'.words .dayOfWeek) : e.Alike e' := by
  match e, e' with
  | plain base, plain base' => exact Base.days_eq_of_words h
  | plain base, stepped base' step' => exact absurd h words_plain_ne_stepped
  | stepped base step, plain base' => exact absurd h.symm words_plain_ne_stepped
  | stepped base step, stepped base' step' =>
    simp only [words, List.cons.injEq, true_and] at h
    obtain ⟨hdays, hevery⟩ := Base.days_eq_of_stepTail (List.append_cancel_left h.2)
    exact ⟨hdays, hevery, Numeral.digits_injective (String.ofList_injective h.1)⟩

/-- Of two ranges between the same days the second holds the days of the first, or it is a Sunday and the
first is not more, unless the first goes round the week. -/
theorem Base.mem_or_sunday {first last first' last' : Numeral} {v : Int}
    (hf : (span first last).Fits ⟨0, 7⟩) (hf' : (span first' last').Fits ⟨0, 7⟩)
    (h : (span first last).days = (span first' last').days)
    (hn : ¬ ((first.value = 0 ∧ last.value = 7) ∧ first'.value = last'.value))
    (hv : first.value ≤ v ∧ v ≤ last.value) :
    (first'.value ≤ v ∧ v ≤ last'.value) ∨ first'.value = last'.value ∧ v % 7 = first'.value % 7 := by
  obtain ⟨hlow, hle, hhigh⟩ := hf
  obtain ⟨hlow', hle', hhigh'⟩ := hf'
  obtain ⟨hstart, hstop⟩ := Prod.mk.inj h
  have hstop' : (last.value : Int) % 7 = last'.value % 7 := Option.some.inj hstop
  simp only [ends] at hstart
  dsimp only at hlow hhigh hlow' hhigh'
  omega

namespace Element

theorem exists_selects_plain (h : base.days = base'.days) (hf : base.Fits ⟨0, 7⟩)
    (hf' : base'.Fits ⟨0, 7⟩) (hn : ¬ ((plain base).Rounds ∧ (plain base').Stays)) {v : Int}
    (hv : (plain base).Selects ⟨0, 7⟩ v) :
    ∃ w, (plain base').Selects ⟨0, 7⟩ w ∧ v % 7 = w % 7 := by
  match base, base' with
  | .every, .every => exact ⟨v, hv, rfl⟩
  | .single m, .single n =>
    obtain rfl : v = m.value := hv
    exact ⟨n.value, rfl, (Prod.mk.inj h).1⟩
  | .span first last, .span first' last' =>
    rcases Base.mem_or_sunday hf hf' h hn hv with hmem | ⟨heq, hday⟩
    · exact ⟨v, hmem, rfl⟩
    · exact ⟨first'.value, ⟨Int.le_refl _, Int.ofNat_le.mpr (Nat.le_of_eq heq)⟩, hday⟩
  | .every, .span first last =>
    obtain ⟨hlow, hle, hhigh⟩ := hf'
    obtain ⟨hstart, hstop⟩ := Prod.mk.inj h
    have hstop' : (6 : Int) % 7 = last.value % 7 := Option.some.inj hstop
    have hv' : 0 ≤ v ∧ v ≤ 7 := hv
    simp only [Base.ends, Slot.bounds] at hstart
    dsimp only at hlow hhigh
    refine ⟨v % 7, ⟨?_, ?_⟩, ?_⟩ <;> omega
  | .span first last, .every =>
    obtain ⟨hlow, -, hhigh⟩ := hf
    exact ⟨v, ⟨Int.le_trans hlow hv.1, Int.le_trans hv.2 hhigh⟩, rfl⟩
  | .every, .single _ => cases (Prod.mk.inj h).2
  | .single _, .every => cases (Prod.mk.inj h).2
  | .single _, .span _ _ => cases (Prod.mk.inj h).2
  | .span _ _, .single _ => cases (Prod.mk.inj h).2

theorem exists_selects_stepped {step : Numeral} (h : base.days = base'.days)
    (hevery : base = .every ↔ base' = .every) (hf : (stepped base step).Fits ⟨0, 7⟩)
    (hf' : (stepped base' step).Fits ⟨0, 7⟩)
    (hn : ¬ ((stepped base step).Rounds ∧ (stepped base' step).Stays)) {v : Int}
    (hv : (stepped base step).Selects ⟨0, 7⟩ v) :
    ∃ w, (stepped base' step).Selects ⟨0, 7⟩ w ∧ v % 7 = w % 7 := by
  match base, base' with
  | .every, .every => exact ⟨v, hv, rfl⟩
  | .single m, .single n =>
    have hm : (m.value : Int) % 7 = n.value % 7 := (Prod.mk.inj h).1
    have hm7 : (0 : Int) ≤ m.value ∧ (m.value : Int) ≤ 7 := hf.1
    have hn7 : (0 : Int) ≤ n.value ∧ (n.value : Int) ≤ 7 := hf'.1
    have hv7 : (m.value : Int) ≤ v ∧ v ≤ 7 := hv.1
    by_cases heq : m.value = n.value
    · refine ⟨v, ?_, rfl⟩
      rw [Selects, ← heq]
      exact hv
    · have hsunday : m.value = 7 ∧ n.value = 0 := by
        change ¬ (m.value = 0 ∧ n.value = 7) at hn
        omega
      refine ⟨n.value, ⟨⟨Int.le_refl _, hn7.2⟩, ?_⟩, by omega⟩
      rw [Int.sub_self]
      exact Int.dvd_zero _
  | .span first last, .span first' last' =>
    rcases Base.mem_or_sunday hf.1 hf'.1 h hn hv.1 with hmem | ⟨heq, hday⟩
    · exact ⟨v, ⟨hmem, hv.2⟩, rfl⟩
    · -- a step that fits meets a number of the range, and here there is only one
      obtain ⟨-, -, w, hw, hdvd⟩ := hf'
      exact ⟨w, ⟨hw, hdvd⟩, by omega⟩
  | .every, .single _ => cases hevery.mp rfl
  | .every, .span _ _ => cases hevery.mp rfl
  | .single _, .every => cases hevery.mpr rfl
  | .span _ _, .every => cases hevery.mpr rfl
  | .single _, .span _ _ => cases (Prod.mk.inj h).2
  | .span _ _, .single _ => cases (Prod.mk.inj h).2

theorem Alike.symm (h : e.Alike e') : e'.Alike e := by
  match e, e' with
  | plain base, plain base' => exact Eq.symm h
  | stepped base step, stepped base' step' => exact ⟨h.1.symm, h.2.1.symm, h.2.2.symm⟩

/-- Elements that are said alike select the same days, unless one goes round the week where the other
stays. -/
theorem Alike.exists_selects (h : e.Alike e') (hf : e.Fits ⟨0, 7⟩) (hf' : e'.Fits ⟨0, 7⟩)
    (hn : ¬ (e.Rounds ∧ e'.Stays)) {v : Int} (hv : e.Selects ⟨0, 7⟩ v) :
    ∃ w, e'.Selects ⟨0, 7⟩ w ∧ v % 7 = w % 7 := by
  match e, e' with
  | plain base, plain base' => exact exists_selects_plain h hf hf' hn hv
  | stepped base step, stepped base' step' =>
    obtain ⟨hdays, hevery, rfl⟩ := h
    exact exists_selects_stepped hdays hevery hf hf' hn hv

end Element

theorem Slot.canonical_eq_of_emod {v w : Int} (hv : 0 ≤ v ∧ v ≤ 7) (hw : 0 ≤ w ∧ w ≤ 7)
    (h : v % 7 = w % 7) : dayOfWeek.canonical v = dayOfWeek.canonical w := by
  simp only [canonical, true_and]
  split <;> split <;> omega

end

theorem Locale.weekday_zh (n : Int) : ∃ c, (zh.weekday n).toList = ['周', c] := by
  have hall : ∀ i : Fin 7, (zh.weekdays.get i).toList.head? = some '周' ∧
      (zh.weekdays.get i).toList.length = 2 := by decide
  obtain ⟨hhead, hlength⟩ := hall ⟨(n % 7).toNat, by omega⟩
  obtain ⟨c, d, hc⟩ := List.length_eq_two.mp hlength
  rw [hc] at hhead
  cases hhead
  exact ⟨d, hc⟩

namespace Base

/-- What is said in Chinese before the steps through a base. -/
def lead (slot : Slot) : Base → String
  | every => ""
  | single n => "从" ++ (Locale.zh.value slot n.value ++ "开始")
  | span first last => "从" ++ (Locale.zh.value slot first.value ++ ("到" ++ Locale.zh.value slot last.value))

variable {base base' : Base}

theorem stepPhrase_zh (slot : Slot) (step : Numeral) (base : Base) :
    base.stepPhrase .zh slot step =
      base.lead slot ++ ("每" ++ (String.ofList step.digits ++ Locale.zh.stepUnit slot)) := by
  cases base with
  | every => rw [stepPhrase_every_zh, lead, String.empty_append]
  | single n =>
    rw [stepPhrase_single_zh, lead, ← String.toList_inj]
    simp
  | span first last =>
    rw [stepPhrase_span_zh, lead, ← String.toList_inj]
    simp

theorem phrase_zh (slot : Slot) (base : Base) :
    base.phrase .zh slot = Locale.zh.value slot (base.ends slot.bounds).1 ++
      (base.ends slot.bounds).2.elim "" fun stop => "到" ++ Locale.zh.value slot stop := by
  cases base with
  | every => exact Locale.through_zh _ _
  | single n => exact String.append_empty.symm
  | span first last => exact Locale.through_zh _ _

theorem days_eq_of_phrase_zh (h : base.phrase .zh .dayOfWeek = base'.phrase .zh .dayOfWeek) :
    base.days = base'.days := by
  obtain ⟨c, hc⟩ := Locale.weekday_zh (base.ends Slot.dayOfWeek.bounds).1
  obtain ⟨c', hc'⟩ := Locale.weekday_zh (base'.ends Slot.dayOfWeek.bounds).1
  rw [phrase_zh, phrase_zh, ← String.toList_inj, String.toList_append, String.toList_append] at h
  have hlength : (Locale.zh.value .dayOfWeek (base.ends Slot.dayOfWeek.bounds).1).toList.length =
      (Locale.zh.value .dayOfWeek (base'.ends Slot.dayOfWeek.bounds).1).toList.length := by
    simp only [Locale.value, hc, hc']
    rfl
  obtain ⟨hstart, hstop⟩ := List.append_inj h hlength
  refine Prod.ext (Locale.zh.weekday_inj (String.toList_inj.mp hstart)) ?_
  simp only [days]
  cases hs : (base.ends Slot.dayOfWeek.bounds).2 with
  | none =>
    cases hs' : (base'.ends Slot.dayOfWeek.bounds).2 with
    | none => rfl
    | some stop' => simp [hs, hs'] at hstop
  | some stop =>
    cases hs' : (base'.ends Slot.dayOfWeek.bounds).2 with
    | none => simp [hs, hs'] at hstop
    | some stop' =>
      rw [hs, hs', Option.elim_some, Option.elim_some, String.toList_inj, String.append_right_inj] at hstop
      exact congrArg some (Locale.zh.weekday_inj hstop)

theorem length_lead_single (n : Numeral) : ((single n).lead .dayOfWeek).toList.length = 5 := by
  obtain ⟨c, hc⟩ := Locale.weekday_zh n.value
  simp [lead, Locale.value, hc]

theorem lead_span (first last : Numeral) :
    (span first last).lead .dayOfWeek = "从" ++ (span first last).phrase .zh .dayOfWeek := by
  rw [lead, phrase, Locale.through_zh]

theorem length_lead_span (first last : Numeral) :
    ((span first last).lead .dayOfWeek).toList.length = 6 := by
  obtain ⟨c, hc⟩ := Locale.weekday_zh first.value
  obtain ⟨d, hd⟩ := Locale.weekday_zh last.value
  simp [lead, Locale.value, hc, hd]

theorem days_eq_of_lead (h : base.lead .dayOfWeek = base'.lead .dayOfWeek) :
    base.days = base'.days ∧ (base = every ↔ base' = every) := by
  have hevery : (every.lead .dayOfWeek).toList.length = 0 := rfl
  have hlength : (base.lead .dayOfWeek).toList.length = (base'.lead .dayOfWeek).toList.length := by rw [h]
  match base, base', h, hlength with
  | every, every, _, _ => exact ⟨rfl, Iff.rfl⟩
  | single n, single n', h, _ =>
    rw [lead, lead, String.append_right_inj, String.append_left_inj] at h
    exact ⟨Prod.ext (Locale.zh.weekday_inj h) rfl, by simp⟩
  | span first last, span first' last', h, _ =>
    rw [lead_span, lead_span, String.append_right_inj] at h
    exact ⟨days_eq_of_phrase_zh h, by simp⟩
  | every, single _, _, hlength => simp [hevery, length_lead_single] at hlength
  | every, span _ _, _, hlength => simp [hevery, length_lead_span] at hlength
  | single _, every, _, hlength => simp [hevery, length_lead_single] at hlength
  | single _, span _ _, _, hlength => simp [length_lead_single, length_lead_span] at hlength
  | span _ _, every, _, hlength => simp [hevery, length_lead_span] at hlength
  | span _ _, single _, _, hlength => simp [length_lead_single, length_lead_span] at hlength

/-- The word that the steps start with is not in what is said before them. -/
theorem every_notMem_lead (base : Base) : '每' ∉ (base.lead .dayOfWeek).toList := by
  have hvalue (n : Numeral) : '每' ∉ (Locale.zh.value .dayOfWeek n.value).toList :=
    (Slot.spelledWith_value .dayOfWeek (Int.natCast_nonneg n.value)).notMem (by decide) (by decide)
  cases base with
  | every => decide
  | single n => simp [lead, hvalue n]
  | span first last => simp [lead, hvalue first, hvalue last]

end Base

theorem Base.stepPhrase_zh_ne (slot : Slot) (step : Numeral) (base : Base) (s : String) :
    base.stepPhrase .zh slot step ≠ "在" ++ s := by
  intro h
  have hhead := congrArg (fun s => s.toList.head?) h
  cases base <;> simp [stepPhrase_zh, lead] at hhead

namespace Element

variable {e e' : Element}

theorem phrase_plain_ne_stepped_zh {base base' : Base} {step : Numeral} :
    (plain base).phrase .zh .dayOfWeek ≠ (stepped base' step).phrase .zh .dayOfWeek := by
  intro h
  obtain ⟨c, hc⟩ := Locale.weekday_zh (base.ends Slot.dayOfWeek.bounds).1
  have hopening : isOpening (base.phrase .zh .dayOfWeek).toList = true := by
    rw [phrase] at h
    rw [h]
    exact base'.isOpening_stepPhrase .dayOfWeek step
  rw [Base.phrase_zh, Locale.value, String.toList_append, hc] at hopening
  exact absurd hopening (by simp [isOpening])

theorem alike_of_phrase_zh (h : e.phrase .zh .dayOfWeek = e'.phrase .zh .dayOfWeek) : e.Alike e' := by
  match e, e' with
  | plain base, plain base' => exact Base.days_eq_of_phrase_zh h
  | plain base, stepped base' step' => exact absurd h phrase_plain_ne_stepped_zh
  | stepped base step, plain base' => exact absurd h.symm phrase_plain_ne_stepped_zh
  | stepped base step, stepped base' step' =>
    have hdigits (n : Numeral) : '每' ∉ n.digits ++ (Locale.zh.stepUnit .dayOfWeek).toList := by
      simp [n.not_mem_digits (show '每'.isDigit = false by decide), Locale.stepUnit]
    have hsplit (base : Base) (n : Numeral) : (base.stepPhrase .zh .dayOfWeek n).toList =
        (base.lead .dayOfWeek).toList ++ '每' :: (n.digits ++ (Locale.zh.stepUnit .dayOfWeek).toList) := by
      rw [Base.stepPhrase_zh]
      simp
    rw [phrase, phrase, ← String.toList_inj, hsplit, hsplit,
      List.append_cons_inj_of_notMem base.every_notMem_lead (hdigits step)] at h
    obtain ⟨hlead, -, hsteps⟩ := h
    obtain ⟨hdays, hevery⟩ := Base.days_eq_of_lead (String.toList_inj.mp hlead)
    exact ⟨hdays, hevery, Numeral.digits_injective (List.append_cancel_right hsteps)⟩

end Element

namespace Field

variable {f g : Field} {es es' : List Element}

theorem forall₂_alike_of_words (h : es.map (·.words .dayOfWeek) = es'.map (·.words .dayOfWeek)) :
    List.Forall₂ Element.Alike es es' := by
  rw [← List.forall₂_eq_eq_eq, List.forall₂_map_left_iff, List.forall₂_map_right_iff] at h
  exact h.imp fun e e' => Element.alike_of_words

theorem forall₂_alike_of_phrase_zh
    (h : es.map (·.phrase .zh .dayOfWeek) = es'.map (·.phrase .zh .dayOfWeek)) :
    List.Forall₂ Element.Alike es es' := by
  rw [← List.forall₂_eq_eq_eq, List.forall₂_map_left_iff, List.forall₂_map_right_iff] at h
  exact h.imp fun e e' => Element.alike_of_phrase_zh

theorem token_of_isWorkingDays (h : f.isWorkingDays = true) : f.token = "1-5" :=
  of_decide_eq_true (Bool.and_eq_true_iff.mp h).2

/-- The working days are no step, so they are said as such. -/
theorem Lists.ne_step (hf : f.Lists .dayOfWeek es) (hd : f.isWorkingDays = true) (base : Base)
    (step : Numeral) : es ≠ [.stepped base step] := by
  rintro rfl
  have htoken : "1-5".toList = (Element.stepped base step).text := by
    rw [← token_of_isWorkingDays hd, hf.isList.2]
    simp [Text.joined]
  have hslash : '/' ∈ (Element.stepped base step).text := by simp [Element.text]
  rw [← htoken] at hslash
  exact absurd hslash (by decide)

theorem Lists.alike_of_isWorkingDays (hf : f.Lists .dayOfWeek es) (hg : g.Lists .dayOfWeek es')
    (hfd : f.isWorkingDays = true) (hgd : g.isWorkingDays = true) : List.Forall₂ Element.Alike es es' := by
  have htoken : f.token = g.token := by rw [token_of_isWorkingDays hfd, token_of_isWorkingDays hgd]
  cases hf.isList.unique (htoken ▸ hg.isList)
  exact forall₂_alike_of_words rfl

/-- No list of days reads as the working days do. -/
theorem Lists.clausesOf_ne (hf : f.Lists .dayOfWeek es) (hfd : ¬ f.isWorkingDays = true)
    (hg : g.Lists .dayOfWeek es') (hgd : g.isWorkingDays = true) : f.clausesOf es ≠ g.clausesOf es' := by
  have hworking : g.clausesOf es' = [["", "on", "weekdays"]] := by
    rw [clausesOf.eq_2 g es' fun base step => hg.ne_step hgd base step, if_pos hgd]
  rw [hworking]
  rcases f.clausesOf_cases es with ⟨base, step, -, hclauses⟩ | ⟨hdays, -⟩ | ⟨hclauses, -⟩
  · rw [hclauses]
    simp [Element.words]
  · exact absurd hdays hfd
  · obtain ⟨e, es, rfl⟩ := List.exists_cons_of_ne_nil hf.ne_nil
    obtain ⟨r, cs, hcs⟩ := Clause.listing_cons f.slot.tailWords (e.words f.slot) (es.map (·.words f.slot))
    rw [hclauses, List.map_cons, hcs, List.modifyHead_cons, hf.slot_eq]
    intro h
    have hlead : ["", "on"] ++ (e.words .dayOfWeek ++ r) = ["", "on"] ++ ["weekdays"] :=
      (List.cons.inj h).1
    have hwords := List.append_cancel_left hlead
    obtain ⟨w, ws, hw⟩ := List.exists_cons_of_ne_nil (e.words_ne_nil .dayOfWeek)
    have hmem : "weekdays" ∈ e.words .dayOfWeek := by
      rw [hw] at hwords ⊢
      exact (List.cons.inj hwords).1 ▸ List.mem_cons_self
    rcases Element.mem_words hmem with hname | hparticle
    · exact absurd hname (by decide)
    · exact absurd hparticle (by decide)

theorem Lists.alike_of_clausesOf (hf : f.Lists .dayOfWeek es) (hg : g.Lists .dayOfWeek es')
    (h : f.clausesOf es = g.clausesOf es') : List.Forall₂ Element.Alike es es' := by
  by_cases hfd : f.isWorkingDays = true
  · by_cases hgd : g.isWorkingDays = true
    · exact hf.alike_of_isWorkingDays hg hfd hgd
    · exact absurd h.symm (hg.clausesOf_ne hgd hf hfd)
  · by_cases hgd : g.isWorkingDays = true
    · exact absurd h (hf.clausesOf_ne hfd hg hgd)
    · exact forall₂_alike_of_words
        (map_words_inj hf.slot_eq hg.slot_eq hfd hgd hf.ne_nil hg.ne_nil h)

theorem phrase_zh_cases (hs : f.slot = .dayOfWeek) (hd : ¬ f.isWorkingDays = true)
    (es : List Element) :
    (∃ base step, es = [.stepped base step] ∧ f.phrase .zh es = base.stepPhrase .zh .dayOfWeek step) ∨
      f.phrase .zh es = "在" ++ "、".intercalate (es.map (·.phrase .zh .dayOfWeek)) := by
  rcases f.phrase_cases .zh es with ⟨base, step, hone, hphrase⟩ | ⟨hdays, -⟩ | ⟨-, hphrase⟩
  · exact .inl ⟨base, step, hone, hs ▸ hphrase⟩
  · exact absurd hdays hd
  · rw [f.slot.say_values_zh, Locale.listing_zh, hs] at hphrase
    exact .inr (hphrase.trans (congrArg _ String.append_empty))

/-- No list of days is said as the working days are. -/
theorem Lists.phrase_zh_ne (hf : f.Lists .dayOfWeek es) (hfd : ¬ f.isWorkingDays = true)
    (hg : g.Lists .dayOfWeek es') (hgd : g.isWorkingDays = true) :
    f.phrase .zh es ≠ g.phrase .zh es' := by
  have hworking : g.phrase .zh es' = "在" ++ "工作日" := by
    rw [phrase.eq_2 .zh g es' fun base step => hg.ne_step hgd base step, if_pos hgd]
    decide
  rw [hworking]
  rcases phrase_zh_cases hf.slot_eq hfd es with ⟨base, step, -, hphrase⟩ | hphrase
  · rw [hphrase]
    exact base.stepPhrase_zh_ne .dayOfWeek step _
  · intro h
    rw [hphrase, String.append_right_inj] at h
    have hitems : SpelledWith ('、' :: Slot.dayOfWeek.glyphs)
        ("、".intercalate (es.map (·.phrase .zh .dayOfWeek))) :=
      .intercalate (by decide) (List.forall_mem_map.mpr fun e _ =>
        (e.spelledWith_phrase .dayOfWeek).mono (List.subset_cons_self _ _))
    have hwork : '工' ∉ "工作日".toList := h ▸ hitems.notMem (by decide) (by decide)
    exact hwork (by decide)

theorem Lists.alike_of_phrase_zh (hf : f.Lists .dayOfWeek es) (hg : g.Lists .dayOfWeek es')
    (h : f.phrase .zh es = g.phrase .zh es') : List.Forall₂ Element.Alike es es' := by
  have hcomma : "、".toList = ['、'] := rfl
  have hitems (es : List Element) : ∀ x ∈ es.map (·.phrase .zh .dayOfWeek), '、' ∉ x.toList :=
    List.forall_mem_map.mpr fun e _ => (e.spelledWith_phrase .dayOfWeek).notMem (by decide) (by decide)
  by_cases hfd : f.isWorkingDays = true
  · by_cases hgd : g.isWorkingDays = true
    · exact hf.alike_of_isWorkingDays hg hfd hgd
    · exact absurd h.symm (hg.phrase_zh_ne hgd hf hfd)
  · by_cases hgd : g.isWorkingDays = true
    · exact absurd h (hf.phrase_zh_ne hfd hg hgd)
    · refine forall₂_alike_of_phrase_zh ?_
      rcases phrase_zh_cases hf.slot_eq hfd es with ⟨base, step, rfl, hphrase⟩ | hphrase
      · rcases phrase_zh_cases hg.slot_eq hgd es' with ⟨base', step', rfl, hphrase'⟩ | hphrase'
        · exact congrArg (fun x => [x]) (hphrase.symm.trans (h.trans hphrase'))
        · exact absurd (hphrase.symm.trans (h.trans hphrase')) (base.stepPhrase_zh_ne _ step _)
      · rcases phrase_zh_cases hg.slot_eq hgd es' with ⟨base', step', rfl, hphrase'⟩ | hphrase'
        · exact absurd (hphrase'.symm.trans (h.symm.trans hphrase)) (base'.stepPhrase_zh_ne _ step' _)
        · rw [hphrase, hphrase', String.append_right_inj] at h
          exact Text.intercalate_inj hcomma (mt List.map_eq_nil_iff.mp hf.ne_nil)
            (mt List.map_eq_nil_iff.mp hg.ne_nil) (hitems es) (hitems es') h

/-- A field selects the days of another that is said alike, unless an element of the other goes round the
week where its own stays. -/
theorem Lists.mem_values_of_alike (hf : f.Lists .dayOfWeek es) (hg : g.Lists .dayOfWeek es')
    (hfr : read .dayOfWeek f.token = .ok f) (hgr : read .dayOfWeek g.token = .ok g)
    (hfa : Slot.dayOfWeek.Accepts f.token) (hga : Slot.dayOfWeek.Accepts g.token)
    (halike : List.Forall₂ Element.Alike es es')
    (hn : ∀ p ∈ es.zip es', ¬ Element.Outruns g.values p.1 p.2) {v : Int} (hv : v ∈ f.values) :
    v ∈ g.values := by
  obtain ⟨hlength, hpairs⟩ := List.forall₂_iff_zip.mp halike
  obtain ⟨n, ⟨e, he, hs⟩, rfl⟩ := (hf.mem_values_iff hfr hfa).mp hv
  rw [← List.map_fst_zip (Nat.le_of_eq hlength)] at he
  obtain ⟨⟨e, e'⟩, hp, rfl⟩ := List.mem_map.mp he
  obtain ⟨hmem, hmem'⟩ := List.of_mem_zip hp
  by_cases hround : e.Rounds ∧ e'.Stays
  · by_contra hout
    exact hn (e, e') hp ⟨hround, n, hs, hout⟩
  · obtain ⟨w, hw, hday⟩ :=
      (hpairs hp).exists_selects (hf.fits e hmem) (hg.fits e' hmem') hround hs
    have hwithin := Element.Selects.within hs (hf.fits e hmem)
    have hwithin' := Element.Selects.within hw (hg.fits e' hmem')
    have hcanonical := Slot.canonical_eq_of_emod hwithin hwithin' hday
    exact (hg.mem_values_iff hgr hga).mpr ⟨w, ⟨e', hmem', hw⟩, hcanonical.symm⟩

end Field

namespace Expression

variable {a b : Expression} {mode : Mode} {source text : String}

theorem field?_dayOfWeek (e : Expression) : e.field? .dayOfWeek = some e.dayOfWeek := rfl

theorem values_eq_of_agreeAt (ha : parse source mode = .ok (.expression a))
    (hb : parse text mode = .ok (.expression b)) (h : AgreeAt a b .dayOfWeek) :
    a.dayOfWeek.values = b.dayOfWeek.values := by
  have hra := (read_of_field? ha a.field?_dayOfWeek).2
  have hrb := (read_of_field? hb b.field?_dayOfWeek).2
  refine (Field.pairwise_values hra).eq_of_mem_iff (Field.pairwise_values hrb) fun v => ?_
  rw [← Field.selects_iff, h.selects _ _ rfl rfl, Field.selects_iff]

/-- The fields of the days of the week list elements that are said alike. -/
def ListAlike (a b : Expression) : Prop :=
  ∃ es es', a.dayOfWeek.Lists .dayOfWeek es ∧ b.dayOfWeek.Lists .dayOfWeek es' ∧
    List.Forall₂ Element.Alike es es'

theorem Restricts.exists_lists_dayOfWeek {e : Expression} (hr : e.Restricts .dayOfWeek)
    (h : parse source mode = .ok (.expression e)) (hv : e.isValid = true) :
    ∃ es, e.dayOfWeek.Lists .dayOfWeek es := by
  obtain ⟨f, es, hf, hes⟩ := hr.exists_lists h hv
  cases hf
  exact ⟨es, hes⟩

theorem listAlike_of_composed_en (ha : parse source mode = .ok (.expression a))
    (hb : parse text mode = .ok (.expression b)) (hva : a.isValid = true) (hvb : b.isValid = true)
    (h : a.composed .en = b.composed .en) : AgreeAt a b .dayOfWeek ∨ a.ListAlike b := by
  have hclauses := clausesAt_eq_of_composed ha hb hva hvb h .dayOfWeek (by cases mode <;> decide)
  by_cases hra : a.Restricts .dayOfWeek
  · have hrb : b.Restricts .dayOfWeek := by
      by_contra hn
      exact clausesAt_ne_nil ha hva hra (hclauses.trans (clausesAt_of_not_restricts hn))
    obtain ⟨es, hes⟩ := hra.exists_lists_dayOfWeek ha hva
    obtain ⟨es', hes'⟩ := hrb.exists_lists_dayOfWeek hb hvb
    have heq : a.dayOfWeek.clausesOf es = b.dayOfWeek.clausesOf es' :=
      hes.clauses_eq.symm.trans (hclauses.trans hes'.clauses_eq)
    exact .inr ⟨es, es', hes, hes', hes.alike_of_clausesOf hes' heq⟩
  · have hrb : ¬ b.Restricts .dayOfWeek := fun hrb =>
      clausesAt_ne_nil hb hvb hrb (hclauses.symm.trans (clausesAt_of_not_restricts hra))
    exact .inl (agreeAt_of_not_restricts ha hb hra hrb)

/-- The expressions have the same tokens but for the days of the week. -/
def DifferInWeekdays (a b : Expression) : Prop :=
  ∀ slot, slot ≠ .dayOfWeek → (a.field? slot).map (·.token) = (b.field? slot).map (·.token)

theorem DifferInWeekdays.field?_eq (h : DifferInWeekdays a b)
    (ha : parse source mode = .ok (.expression a)) (hb : parse text mode = .ok (.expression b))
    {slot : Slot} (hs : slot ≠ .dayOfWeek) : a.field? slot = b.field? slot := by
  have htoken := h slot hs
  cases hf : a.field? slot with
  | none =>
    rw [hf, Option.map_none, eq_comm, Option.map_eq_none_iff] at htoken
    exact htoken.symm
  | some f =>
    rw [hf, Option.map_some, eq_comm, Option.map_eq_some_iff] at htoken
    obtain ⟨g, hg, hgf⟩ := htoken
    have hfr := (read_of_field? ha hf).2
    have hgr := (read_of_field? hb hg).2
    rw [hgf, hfr] at hgr
    rw [hg, Except.ok.inj hgr]

theorem DifferInWeekdays.fragmentAt?_eq (h : DifferInWeekdays a b)
    (ha : parse source mode = .ok (.expression a)) (hb : parse text mode = .ok (.expression b))
    (hfragments : a.fragments .zh = b.fragments .zh) :
    a.fragmentAt? .zh .dayOfWeek = b.fragmentAt? .zh .dayOfWeek := by
  have hmodea : a.mode = mode := mode_of_parse ha
  have hmodeb : b.mode = mode := mode_of_parse hb
  obtain ⟨front, back, hslots, hfront, hback⟩ : ∃ front back : List Slot,
      mode.slots = front ++ .dayOfWeek :: back ∧ .dayOfWeek ∉ front ∧ .dayOfWeek ∉ back := by
    cases mode
    · exact ⟨[.minute, .hour, .dayOfMonth, .month], [.year], rfl, by decide, by decide⟩
    · exact ⟨[.second, .minute, .hour, .dayOfMonth, .month], [.year], rfl, by decide, by decide⟩
  have hother {slots : List Slot} (hs : .dayOfWeek ∉ slots) :
      slots.flatMap (fun slot => (a.fragmentAt? .zh slot).toList) =
        slots.flatMap fun slot => (b.fragmentAt? .zh slot).toList := by
    refine List.flatMap_congr fun slot hslot => ?_
    rw [fragmentAt?, fragmentAt?, h.field?_eq ha hb fun hx => hs (hx ▸ hslot)]
  rw [fragments_eq_filterMap, fragments_eq_filterMap, hmodea, hmodeb, hslots,
    List.filterMap_eq_flatMap_toList, List.filterMap_eq_flatMap_toList, List.flatMap_append,
    List.flatMap_append, List.flatMap_cons, List.flatMap_cons, hother hfront, hother hback] at hfragments
  have hlists := List.append_cancel_right (List.append_cancel_left hfragments)
  simpa using congrArg List.head? hlists

theorem listAlike_of_composed_zh (ha : parse source mode = .ok (.expression a))
    (hb : parse text mode = .ok (.expression b)) (hva : a.isValid = true) (hvb : b.isValid = true)
    (hw : DifferInWeekdays a b) (h : a.composed .zh = b.composed .zh) :
    AgreeAt a b .dayOfWeek ∨ a.ListAlike b := by
  have hfragment := hw.fragmentAt?_eq ha hb (fragments_inj ha hb hva hvb h)
  have hiff : a.Restricts .dayOfWeek ↔ b.Restricts .dayOfWeek := by
    rw [← isSome_fragmentAt?_iff ha hva, hfragment, isSome_fragmentAt?_iff hb hvb]
  by_cases hra : a.Restricts .dayOfWeek
  · obtain ⟨es, hes⟩ := hra.exists_lists_dayOfWeek ha hva
    obtain ⟨es', hes'⟩ := (hiff.mp hra).exists_lists_dayOfWeek hb hvb
    have hphrase : a.dayOfWeek.phrase .zh es = b.dayOfWeek.phrase .zh es' :=
      Option.some.inj ((hes.fragment? .zh).symm.trans (hfragment.trans (hes'.fragment? .zh)))
    exact .inr ⟨es, es', hes, hes', hes.alike_of_phrase_zh hes' hphrase⟩
  · exact .inl (agreeAt_of_not_restricts ha hb hra (mt hiff.mpr hra))

/-- The idioms that are said as a sentence that is put together leave the days of the week open. -/
theorem agreeAt_of_chinese_eq {i : Idiom} (ha : parse source mode = .ok (.expression a))
    (hb : parse text mode = .ok (.expression b)) (hva : a.isValid = true) (hvb : b.isValid = true)
    (hi : a.idiom? = some i) (h : i.chinese = b.composed .zh) : AgreeAt a b .dayOfWeek := by
  have hslot : .dayOfWeek ∈ mode.slots := by cases mode <;> decide
  have hopen (minute hour : String) (hne : ∀ t ∈ [minute, hour, "*", "*", "*"], ' ' ∉ t.toList)
      (hkey : i.key = " ".intercalate [minute, hour, "*", "*", "*"]) : ¬ a.Restricts .dayOfWeek := by
    have hkeys := keyTokens_eq ha hi (List.cons_ne_nil _ _) hne hkey
    obtain ⟨-, -, -, -, hdow, -⟩ := restricts_iff_of_keyTokens ha hva hi hkeys
    exact fun hr => hdow.mp hr rfl
  rcases fragments_of_chinese_eq (idiom?_eq_some hi).1 hb hvb h with ⟨hnil, -, hkey⟩ | ⟨hone, hkey⟩ |
    ⟨hone, hkey⟩
  · have hna := hopen "*" "*" (by decide) hkey
    exact agreeAt_of_not_restricts ha hb hna (not_restricts_of_fragments_nil hb hvb hnil _ hslot)
  · have hna := hopen "*/5" "*" (by decide) hkey
    have hiff := restricts_iff_of_fragments_singleton .minute hb hvb hone (by decide) (by decide)
    exact agreeAt_of_not_restricts ha hb hna fun hr => nomatch (hiff _ hslot).mp hr
  · have hna := hopen "0" "*/2" (by decide) hkey
    have hiff := restricts_iff_of_fragments_singleton .hour hb hvb hone (by decide) (by decide)
    exact agreeAt_of_not_restricts ha hb hna fun hr => nomatch (hiff _ hslot).mp hr

/-- One sentence is only said of expressions whose days of the week are alike. -/
theorem listAlike_of_sentence (l : Locale) (ha : parse source mode = .ok (.expression a))
    (hb : parse text mode = .ok (.expression b)) (hva : a.isValid = true) (hvb : b.isValid = true)
    (hw : DifferInWeekdays a b) (h : a.sentence l = b.sentence l) :
    AgreeAt a b .dayOfWeek ∨ a.ListAlike b := by
  have hslot : .dayOfWeek ∈ mode.slots := by cases mode <;> decide
  cases l with
  | en =>
    rcases sentence_en_cases ha hb hva hvb h with h | ⟨i, hia, hib⟩
    · exact listAlike_of_composed_en ha hb hva hvb h
    · exact .inl (agreeAt_of_idiom? ha hb hva hvb hia hib _ hslot)
  | zh =>
    rcases sentence_zh_cases h with h | ⟨i, hia, hib⟩ | ⟨i, hia, h⟩ | ⟨i, hib, h⟩
    · exact listAlike_of_composed_zh ha hb hva hvb hw h
    · exact .inl (agreeAt_of_idiom? ha hb hva hvb hia hib _ hslot)
    · exact .inl (agreeAt_of_chinese_eq ha hb hva hvb hia h)
    · have hagree := agreeAt_of_chinese_eq hb ha hvb hva hib h
      exact .inl ⟨hagree.restricts.symm, fun f g hf hg v => (hagree.selects g f hg hf v).symm⟩

end Expression

open Expression

variable {a b : Expression} {mode : Mode} {source text : String}

/-- Valid expressions that differ in the days of the week only and have one description select the same
days, unless an element of one goes round the week from Sunday to Sunday where the other stays on the
Sunday. Element by element they are the same then, but for the number of Sunday. -/
theorem weekdays_of_describe (l : Locale) (ha : parse source mode = .ok (.expression a))
    (hb : parse text mode = .ok (.expression b)) (hva : a.isValid = true) (hvb : b.isValid = true)
    (hw : DifferInWeekdays a b) (h : a.describe l = b.describe l) :
    a.dayOfWeek.values = b.dayOfWeek.values ∨
      ∃ es es', Token.IsList a.dayOfWeek.token.toList es ∧ Token.IsList b.dayOfWeek.token.toList es' ∧
        List.Forall₂ Element.Alike es es' ∧
        ∃ p ∈ es.zip es', Element.Outruns b.dayOfWeek.values p.1 p.2 ∨
          Element.Outruns a.dayOfWeek.values p.2 p.1 := by
  rw [describe_of_isValid hva, describe_of_isValid hvb] at h
  rcases listAlike_of_sentence l ha hb hva hvb hw (Except.ok.inj h) with hagree | hlists
  · exact .inl (values_eq_of_agreeAt ha hb hagree)
  · obtain ⟨es, es', hes, hes', halike⟩ := hlists
    obtain ⟨hra, hacc⟩ := read_of_isValid ha hva a.field?_dayOfWeek
    obtain ⟨hrb, hacc'⟩ := read_of_isValid hb hvb b.field?_dayOfWeek
    refine or_iff_not_imp_right.mpr fun hnone => ?_
    have hsymm : List.Forall₂ Element.Alike es' es := (halike.imp fun _ _ => Element.Alike.symm).flip
    refine (Field.pairwise_values hra).eq_of_mem_iff (Field.pairwise_values hrb) fun v => ⟨?_, ?_⟩
    · refine hes.mem_values_of_alike hes' hra hrb hacc hacc' halike fun p hp hout => ?_
      exact hnone ⟨es, es', hes.isList, hes'.isList, halike, p, hp, .inl hout⟩
    · refine hes'.mem_values_of_alike hes hrb hra hacc' hacc hsymm fun p hp hout => ?_
      rw [← List.zip_swap] at hp
      obtain ⟨q, hq, rfl⟩ := List.mem_map.mp hp
      exact hnone ⟨es, es', hes.isList, hes'.isList, halike, q, hq, .inr hout⟩

/-- The two numbers of Sunday in a list and as the start of steps too long for the week. -/
theorem weekdays_of_describe_seven :
    ∃ a b, parse "0 9 * * 0,2-4,0/7" .minutes = .ok (.expression a) ∧
      parse "0 9 * * 7,2-4,7/7" .minutes = .ok (.expression b) ∧
      (a.dayOfWeek.values = b.dayOfWeek.values ∨
        ∃ es es', Token.IsList a.dayOfWeek.token.toList es ∧ Token.IsList b.dayOfWeek.token.toList es' ∧
          List.Forall₂ Element.Alike es es' ∧
          ∃ p ∈ es.zip es', Element.Outruns b.dayOfWeek.values p.1 p.2 ∨
            Element.Outruns a.dayOfWeek.values p.2 p.1) := by
  have hparse : parse "0 9 * * 0,2-4,0/7" .minutes = .ok (.expression _) := rfl
  have hparse' : parse "0 9 * * 7,2-4,7/7" .minutes = .ok (.expression _) := rfl
  refine ⟨_, _, hparse, hparse',
    weekdays_of_describe .zh hparse hparse' (by decide) (by decide) (fun slot hs => ?_) (by decide +kernel)⟩
  cases slot <;> first | rfl | exact absurd rfl hs

/-- Every other day from Sunday on is said of the Sunday alone as well, if it is day 7. -/
theorem describe_other_days_from_seven :
    ∃ a b, parse "0 9 * * 0/2" .minutes = .ok (.expression a) ∧
      parse "0 9 * * 7/2" .minutes = .ok (.expression b) ∧ a.isValid = true ∧ b.isValid = true ∧
      DifferInWeekdays a b ∧ (∀ l, a.describe l = b.describe l) ∧
      a.dayOfWeek.values = [0, 2, 4, 6] ∧ b.dayOfWeek.values = [0] := by
  have hparse : parse "0 9 * * 0/2" .minutes = .ok (.expression _) := rfl
  have hparse' : parse "0 9 * * 7/2" .minutes = .ok (.expression _) := rfl
  refine ⟨_, _, hparse, hparse', by decide, by decide, fun slot hs => ?_, fun l => ?_, by decide, by decide⟩
  · cases slot <;> first | rfl | exact absurd rfl hs
  · cases l <;> decide +kernel

end CronSchedule
