import CronSchedule.Proofs.Description.Vocabulary

/-!
Which slot a clause of an English description is about. The first clause of a field tells its slot and no
other clause of the field tells a different one, so the clauses of a sentence fall apart into those of its
fields (`Clause.flatMap_inj`).
-/

namespace CronSchedule

namespace Clause

/-- The slot that a step counts, told from the words after its number. -/
def counted : Clause → Option Slot
  | [] => none
  | w :: rest =>
    if w = "seconds" then some .second
    else if w = "minutes" then some .minute
    else if w = "hours" then some .hour
    else if w = "days" then some (if rest.head? = some "of" then .dayOfWeek else .dayOfMonth)
    else if w = "months" then some .month
    else if w = "years" then some .year
    else none

/-- The slot of a clause that starts with a preposition, told from what comes after it. -/
def placed (preposition w : String) (rest : Clause) : Option Slot :=
  if preposition = "at" then
    if w = "second" ∨ w = "seconds" then some .second
    else if w = "minute" ∨ w = "minutes" then some .minute
    else some .hour
  else if preposition = "on" then some (if w = "day" ∨ w = "days" then .dayOfMonth else .dayOfWeek)
  else if preposition = "in" then
    if w = "every" then counted (rest.drop 1)
    else some (if w.toList.head?.any Char.isDigit then .year else .month)
  else none

/-- The slot that a clause tells. -/
def topic : Clause → Option Slot
  | _ :: first :: w :: rest => if first = "every" then counted rest else placed first w rest
  | _ => none

/-- Clauses about one slot: the first tells it, and no other tells a different one. -/
structure AreAbout (slot : Slot) (cs : List Clause) : Prop where
  head : ∀ c ∈ cs.head?, topic c = some slot
  mem : ∀ c ∈ cs, topic c = none ∨ topic c = some slot

variable {slot : Slot} {cs cs' ds ds' : List Clause}

theorem areAbout_nil (slot : Slot) : AreAbout slot [] :=
  ⟨nofun, nofun⟩

theorem areAbout_cons {c : Clause} (h : topic c = some slot)
    (hcs : ∀ d ∈ cs, topic d = none ∨ topic d = some slot) : AreAbout slot (c :: cs) where
  head d hd := by
    cases hd
    exact h
  mem := List.forall_mem_cons.mpr ⟨.inr h, hcs⟩

theorem areAbout_singleton {c : Clause} (h : topic c = some slot) : AreAbout slot [c] :=
  areAbout_cons h nofun

theorem append_inj_of_areAbout (hc : AreAbout slot cs) (hc' : AreAbout slot cs')
    (hd : ∀ c ∈ ds.head?, ∃ s, s ≠ slot ∧ topic c = some s)
    (hd' : ∀ c ∈ ds'.head?, ∃ s, s ≠ slot ∧ topic c = some s) (h : cs ++ ds = cs' ++ ds') :
    cs = cs' ∧ ds = ds' := by
  -- what one side has more would start the rest of the other, with a clause about another slot
  have hnil {xs ys zs : List Clause} (hx : AreAbout slot (ys ++ xs))
      (hz : ∀ c ∈ (xs ++ zs).head?, ∃ s, s ≠ slot ∧ topic c = some s) : xs = [] := by
    cases xs with
    | nil => rfl
    | cons x xs =>
      obtain ⟨s, hs, ht⟩ := hz x rfl
      rcases hx.mem x (by simp) with hnone | hsome
      · cases hnone.symm.trans ht
      · exact absurd (Option.some.inj (ht.symm.trans hsome)) hs
  rcases List.append_eq_append_iff.mp h with ⟨xs, rfl, rfl⟩ | ⟨xs, rfl, rfl⟩
  · cases hnil hc' hd
    exact ⟨(List.append_nil cs).symm, rfl⟩
  · cases hnil hc hd'
    exact ⟨List.append_nil cs', rfl⟩

theorem exists_topic_of_mem_head? {slots : List Slot} {g : Slot → List Clause}
    (hg : ∀ s ∈ slots, AreAbout s (g s)) {c : Clause} (h : c ∈ (slots.flatMap g).head?) :
    ∃ s ∈ slots, topic c = some s := by
  induction slots with
  | nil => cases h
  | cons slot slots ih =>
    obtain ⟨hslot, hslots⟩ := List.forall_mem_cons.mp hg
    rw [List.flatMap_cons, List.head?_append] at h
    cases hhead : (g slot).head? with
    | none =>
      rw [hhead, Option.none_or] at h
      obtain ⟨s, hs, ht⟩ := ih hslots h
      exact ⟨s, List.mem_cons_of_mem slot hs, ht⟩
    | some d =>
      rw [hhead, Option.some_or] at h
      cases h
      exact ⟨slot, List.mem_cons_self, hslot.head c hhead⟩

/-- Clauses about different slots, one after the other, are told apart. -/
theorem flatMap_inj {slots : List Slot} (hn : slots.Nodup) {g g' : Slot → List Clause}
    (hg : ∀ s ∈ slots, AreAbout s (g s)) (hg' : ∀ s ∈ slots, AreAbout s (g' s))
    (h : slots.flatMap g = slots.flatMap g') : ∀ s ∈ slots, g s = g' s := by
  induction slots with
  | nil => nofun
  | cons slot slots ih =>
    obtain ⟨hnotMem, hn⟩ := List.nodup_cons.mp hn
    obtain ⟨hslot, hslots⟩ := List.forall_mem_cons.mp hg
    obtain ⟨hslot', hslots'⟩ := List.forall_mem_cons.mp hg'
    have hother {g : Slot → List Clause} (hg : ∀ s ∈ slots, AreAbout s (g s)) :
        ∀ c ∈ (slots.flatMap g).head?, ∃ s, s ≠ slot ∧ topic c = some s := by
      intro c hc
      obtain ⟨s, hs, ht⟩ := exists_topic_of_mem_head? hg hc
      exact ⟨s, fun heq => hnotMem (heq ▸ hs), ht⟩
    obtain ⟨hone, hrest⟩ := append_inj_of_areAbout hslot hslot' (hother hslots) (hother hslots') h
    exact List.forall_mem_cons.mpr ⟨hone, ih hn hslots hslots' hrest⟩

/-- Each clause of a list after the first starts with an item, which ends it or is followed by `and`. -/
theorem listing_tail (rest x : Clause) (xs : List Clause) :
    ∀ c ∈ (listing rest (x :: xs)).tail, ∃ y ∈ xs, ∃ r : Clause,
      c = "" :: (y ++ r) ∧ r.head? ≠ some "of" := by
  match xs with
  | [] => nofun
  | [y] => nofun
  | y :: z :: zs =>
    have ih := listing_tail rest y (z :: zs)
    obtain ⟨r, cs, hcs, hr⟩ : ∃ r cs, listing rest (y :: z :: zs) = (y ++ r) :: cs ∧
        r.head? ≠ some "of" := by
      cases zs with
      | nil => exact ⟨_, [], rfl, by simp⟩
      | cons w ws => exact ⟨[], _, by rw [List.append_nil]; rfl, nofun⟩
    intro c hc
    rw [listing_cons_cons_cons, List.tail_cons, hcs, List.modifyHead_cons] at hc
    rcases List.mem_cons.mp hc with rfl | hc
    · exact ⟨y, List.mem_cons_self, r, rfl, hr⟩
    · rw [hcs, List.tail_cons] at ih
      obtain ⟨y', hy', hform⟩ := ih c hc
      exact ⟨y', List.mem_cons_of_mem y hy', hform⟩

end Clause

namespace Slot

theorem counted_unitWords (slot : Slot) {r : Clause} (hr : r.head? ≠ some "of") :
    Clause.counted (slot.unitWords ++ r) = some slot := by
  cases slot with
  | dayOfMonth =>
    change some (if r.head? = some "of" then dayOfWeek else dayOfMonth) = _
    rw [if_neg hr]
  | _ => rfl

theorem not_isDigit_month (n : Int) : (Locale.en.month n).toList.head?.any Char.isDigit = false := by
  have hall : ∀ i : Fin 12, (Locale.en.months.get i).toList.head?.any Char.isDigit = false := by decide
  exact hall ⟨((n - 1) % 12).toNat, by omega⟩

theorem isDigit_year {n : Int} (hn : 0 ≤ n) :
    ((called .year n).toList.head?.any Char.isDigit) = true := by
  rw [called_number (by decide) (by decide) hn, Text.ofNat, String.toList_ofList]
  obtain ⟨d, ds, hd⟩ := List.exists_cons_of_ne_nil (Text.figures_ne_nil n.toNat)
  rw [hd]
  exact Text.isDigit_of_mem_figures (hd ▸ List.mem_cons_self)

end Slot

namespace Element

variable {slot : Slot} {r : Clause}

theorem topic_plain (base : Base) (r : Clause) :
    Clause.topic ("" :: ((plain base).words slot ++ r)) = none := by
  have hname : isName (slot.called (base.ends slot.bounds).1) = true := base.isName_start
  rw [words, base.words_eq, List.cons_append]
  generalize ((base.ends slot.bounds).2.elim [] fun stop => ["through", slot.called stop]) ++ r = ws
  cases ws with
  | nil => rfl
  | cons w ws =>
    rw [Clause.topic, if_neg (ne_of_isName hname rfl), Clause.placed, if_neg (ne_of_isName hname rfl),
      if_neg (ne_of_isName hname rfl), if_neg (ne_of_isName hname rfl)]

theorem counted_stepTail (base : Base) (hr : r.head? ≠ some "of") :
    Clause.counted (slot.unitWords ++ (base.stepTail slot ++ r)) = some slot := by
  apply slot.counted_unitWords
  cases base with
  | every => exact hr
  | single n => simp [Base.stepTail]
  | span first last => simp [Base.stepTail]

theorem topic_stepped (slot : Slot) (base : Base) (step : Numeral) (hr : r.head? ≠ some "of") :
    Clause.topic ("" :: ((stepped base step).words slot ++ r)) = some slot := by
  rw [words, List.cons_append, List.cons_append, List.append_assoc]
  exact counted_stepTail base hr

/-- Where the words before the values do not tell the slot, the first value does. -/
theorem topic_lead (one : Bool) (e : Element) (r : Clause) :
    Clause.topic (slot.leadWords one ++ (e.words slot ++ r)) = some slot := by
  have hname {slot : Slot} (base : Base) :
      isName (slot.called (base.ends slot.bounds).1) = true := base.isName_start
  cases slot with
  | dayOfWeek =>
    cases e with
    | plain base =>
      rw [words, base.words_eq]
      refine congrArg some (if_neg (not_or.mpr ⟨?_, ?_⟩))
      · exact ne_of_isName (hname base) rfl
      · exact ne_of_isName (hname base) rfl
    | stepped base step => rfl
  | month =>
    cases e with
    | plain base =>
      have hmonth := Slot.not_isDigit_month (base.ends Slot.month.bounds).1
      rw [words, base.words_eq]
      refine (if_neg (ne_of_isName (hname base) rfl)).trans (congrArg some ?_)
      exact if_neg (Bool.eq_false_iff.mp hmonth)
    | stepped base step => rfl
  | year =>
    cases e with
    | plain base =>
      rw [words, base.words_eq]
      refine (if_neg (ne_of_isName (hname base) rfl)).trans (congrArg some ?_)
      exact if_pos (Slot.isDigit_year (base.start_nonneg .year))
    | stepped base step => rfl
  | _ => cases one <;> rfl

end Element

namespace Field

open Clause

variable {f : Field} {es : List Element}

theorem areAbout_clausesOf (hne : es ≠ []) : AreAbout f.slot (f.clausesOf es) := by
  rcases f.clausesOf_cases es with ⟨base, step, -, hclauses⟩ | ⟨hdays, hclauses, -⟩ | ⟨hclauses, -⟩
  · have htopic := Element.topic_stepped f.slot base step (r := []) nofun
    rw [List.append_nil] at htopic
    rw [hclauses]
    exact areAbout_singleton htopic
  · rw [hclauses, slot_of_isWorkingDays hdays]
    exact areAbout_singleton rfl
  · obtain ⟨e, es', rfl⟩ := List.exists_cons_of_ne_nil hne
    have htail := listing_tail f.slot.tailWords (e.words f.slot) (es'.map (·.words f.slot))
    obtain ⟨r, cs, hcs⟩ := listing_cons f.slot.tailWords (e.words f.slot) (es'.map (·.words f.slot))
    rw [hcs, List.tail_cons] at htail
    rw [hclauses, List.map_cons, hcs, List.modifyHead_cons]
    refine areAbout_cons (Element.topic_lead _ e r) fun c hc => ?_
    obtain ⟨y, hy, r', rfl, hr'⟩ := htail c hc
    obtain ⟨e', -, rfl⟩ := List.mem_map.mp hy
    cases e' with
    | plain base => exact .inl (Element.topic_plain base r')
    | stepped base step => exact .inr (Element.topic_stepped f.slot base step hr')

end Field

end CronSchedule
