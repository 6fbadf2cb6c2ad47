import CronSchedule.Proofs.Description.Composition

/-!
The words of an English description: names of values, and particles, which are no names. Main statement:
elements of a slot that are worded alike select the same numbers, the days of the week apart, where 0 and 7
have one name (`Element.selects_congr`).
-/

namespace CronSchedule

/-- A word that a value is called by: a number in figures, or a name with a capital. -/
def isName (w : String) : Bool :=
  w.toList.head?.any (fun c => c.isDigit || c.isUpper) && w.toList.all Char.isAlphanum

section

variable {w : String}

theorem ne_of_isName (h : isName w = true) {k : String} (hk : isName k = false) : w ≠ k := by
  rintro rfl
  exact absurd (hk.symm.trans h) Bool.false_ne_true

theorem isPlain_of_isName (h : isName w = true) : Clause.IsPlainWord w := by
  have hall := List.all_eq_true.mp (Bool.and_eq_true_iff.mp h).2
  constructor
  · exact fun hc => absurd (hall _ hc) (by decide)
  · exact fun hc => absurd (hall _ hc) (by decide)

theorem isName_of_digits {ds : List Char} (hne : ds ≠ []) (h : ∀ c ∈ ds, c.isDigit = true) :
    isName (String.ofList ds) = true := by
  obtain ⟨d, ds, rfl⟩ := List.exists_cons_of_ne_nil hne
  have hhead := h d List.mem_cons_self
  simp only [isName, String.toList_ofList, List.head?_cons, Option.any_some, hhead, Bool.true_or,
    Bool.true_and, List.all_eq_true]
  intro c hc
  simp [Char.isAlphanum, h c hc]

end

namespace Slot

theorem called_number {slot : Slot} (hm : slot ≠ .month) (hw : slot ≠ .dayOfWeek) {n : Int}
    (hn : 0 ≤ n) : slot.called n = Text.ofNat n.toNat := by
  rw [← Text.ofInt_eq_ofNat hn]
  cases slot with
  | month => exact absurd rfl hm
  | dayOfWeek => exact absurd rfl hw
  | _ => exact String.append_empty

theorem isName_weekday (n : Int) : isName (Locale.en.weekday n) = true := by
  have hall : ∀ i : Fin 7, isName (Locale.en.weekdays.get i) = true := by decide
  exact hall ⟨(n % 7).toNat, by omega⟩

theorem isName_month (n : Int) : isName (Locale.en.month n) = true := by
  have hall : ∀ i : Fin 12, isName (Locale.en.months.get i) = true := by decide
  exact hall ⟨((n - 1) % 12).toNat, by omega⟩

theorem isName_called (slot : Slot) {n : Int} (hn : 0 ≤ n) : isName (slot.called n) = true := by
  by_cases hm : slot = .month
  · exact hm ▸ isName_month n
  · by_cases hw : slot = .dayOfWeek
    · exact hw ▸ isName_weekday n
    · rw [called_number hm hw hn]
      exact isName_of_digits (Text.figures_ne_nil _) fun c => Text.isDigit_of_mem_figures

theorem months_inj : ∀ i j : Fin 12, Locale.en.months.get i = Locale.en.months.get j → i = j := by
  decide +kernel

theorem month_inj {m n : Int} (hm : 1 ≤ m ∧ m ≤ 12) (hn : 1 ≤ n ∧ n ≤ 12)
    (h : Locale.en.month m = Locale.en.month n) : m = n := by
  have hij := months_inj ⟨((m - 1) % 12).toNat, by omega⟩ ⟨((n - 1) % 12).toNat, by omega⟩ h
  have hval : ((m - 1) % 12).toNat = ((n - 1) % 12).toNat := congrArg Fin.val hij
  omega

theorem bounds_low_nonneg (slot : Slot) : 0 ≤ slot.bounds.low := by
  cases slot <;> decide

theorem bounds_low_le_high (slot : Slot) : slot.bounds.low ≤ slot.bounds.high := by
  cases slot <;> decide

/-- The values of a slot have different names; Sunday has two numbers. -/
theorem called_inj {slot : Slot} (hw : slot ≠ .dayOfWeek) {m n : Int}
    (hm : slot.bounds.low ≤ m ∧ m ≤ slot.bounds.high) (hn : slot.bounds.low ≤ n ∧ n ≤ slot.bounds.high)
    (h : slot.called m = slot.called n) : m = n := by
  by_cases hs : slot = .month
  · subst hs
    exact month_inj hm hn h
  · have hlow := slot.bounds_low_nonneg
    rw [called_number hs hw (by omega), called_number hs hw (by omega)] at h
    have hnat := Text.ofNat_injective h
    omega

end Slot

namespace Base

/-- Where the numbers of a base start, and where a range of them stops. -/
def ends (b : Bounds) : Base → Int × Option Int
  | every => (b.low, some b.high)
  | single n => (n.value, none)
  | span first last => (first.value, some last.value)

variable {slot : Slot} {b : Bounds} {base base' : Base} {v : Int}

theorem words_eq (slot : Slot) (base : Base) :
    base.words slot = slot.called (base.ends slot.bounds).1 ::
      (base.ends slot.bounds).2.elim [] fun stop => ["through", slot.called stop] := by
  cases base <;> rfl

theorem start_nonneg (slot : Slot) (base : Base) : 0 ≤ (base.ends slot.bounds).1 := by
  cases base with
  | every => exact slot.bounds_low_nonneg
  | single n => exact Int.natCast_nonneg _
  | span first last => exact Int.natCast_nonneg _

theorem isName_start (base : Base) : isName (slot.called (base.ends slot.bounds).1) = true :=
  slot.isName_called (base.start_nonneg slot)

theorem selects_plain_iff :
    (Element.plain base).Selects b v ↔
      (base.ends b).2.elim (v = (base.ends b).1) fun stop => (base.ends b).1 ≤ v ∧ v ≤ stop := by
  cases base <;> rfl

theorem Fits.ends (h : base.Fits b) (hb : b.low ≤ b.high) :
    (b.low ≤ (base.ends b).1 ∧ (base.ends b).1 ≤ b.high) ∧
      ∀ stop ∈ (base.ends b).2, b.low ≤ stop ∧ stop ≤ b.high := by
  cases base with
  | every => simp [Base.ends, hb]
  | single n => exact ⟨h, nofun⟩
  | span first last =>
    obtain ⟨hlow, hle, hhigh⟩ := h
    simp only [Base.ends, Option.mem_def, Option.some.injEq, forall_eq']
    omega

theorem ends_eq_of_words_eq (hw : slot ≠ .dayOfWeek) (hf : base.Fits slot.bounds)
    (hf' : base'.Fits slot.bounds) (h : base.words slot = base'.words slot) :
    base.ends slot.bounds = base'.ends slot.bounds := by
  obtain ⟨hstart, hstop⟩ := Fits.ends hf slot.bounds_low_le_high
  obtain ⟨hstart', hstop'⟩ := Fits.ends hf' slot.bounds_low_le_high
  rw [words_eq, words_eq] at h
  obtain ⟨hone, hrest⟩ := List.cons.inj h
  refine Prod.ext (Slot.called_inj hw hstart hstart' hone) ?_
  cases hs : (base.ends slot.bounds).2 with
  | none =>
    cases hs' : (base'.ends slot.bounds).2 with
    | none => rfl
    | some stop' => simp [hs, hs'] at hrest
  | some stop =>
    cases hs' : (base'.ends slot.bounds).2 with
    | none => simp [hs, hs'] at hrest
    | some stop' =>
      simp only [hs, hs', Option.elim_some, List.cons.injEq, and_true, true_and] at hrest
      exact congrArg some (Slot.called_inj hw (hstop stop hs) (hstop' stop' hs') hrest)

theorem selects_stepped_congr (hw : slot ≠ .dayOfWeek) (hf : base.Fits slot.bounds)
    (hf' : base'.Fits slot.bounds) (h : base.stepTail slot = base'.stepTail slot) (step : Numeral) :
    (Element.stepped base step).Selects slot.bounds v ↔
      (Element.stepped base' step).Selects slot.bounds v := by
  match base, base' with
  | every, every => rfl
  | single n, single n' =>
    have hn : (n.value : Int) = n'.value := by
      simp only [stepTail, List.cons.injEq, and_true, true_and] at h
      exact Slot.called_inj hw hf hf' h
    simp only [Element.Selects, hn]
  | span first last, span first' last' =>
    have hends := ends_eq_of_words_eq hw hf hf' (List.cons.inj h).2
    simp only [ends, Prod.mk.injEq, Option.some.injEq] at hends
    simp only [Element.Selects, hends.1, hends.2]
  | every, single _ => simp [stepTail] at h
  | every, span _ _ => simp [stepTail] at h
  | single _, every => simp [stepTail] at h
  | single _, span _ _ => simp [stepTail, words] at h
  | span _ _, every => simp [stepTail] at h
  | span _ _, single _ => simp [stepTail, words] at h

end Base

namespace Element

variable {slot : Slot} {e e' : Element}

/-- The first word of a base is the name of a value, so it is not the first word of a step. -/
theorem words_plain_ne_stepped {base base' : Base} {step : Numeral} :
    (plain base).words slot ≠ (stepped base' step).words slot := by
  intro h
  rw [words, base.words_eq, words] at h
  exact ne_of_isName base.isName_start rfl (List.cons.inj h).1

theorem selects_congr (hw : slot ≠ .dayOfWeek) (hf : e.Fits slot.bounds) (hf' : e'.Fits slot.bounds)
    (h : e.words slot = e'.words slot) {v : Int} :
    e.Selects slot.bounds v ↔ e'.Selects slot.bounds v := by
  match e, e' with
  | plain base, plain base' =>
    rw [Base.selects_plain_iff, Base.selects_plain_iff, Base.ends_eq_of_words_eq hw hf hf' h]
  | plain base, stepped base' step' => exact absurd h words_plain_ne_stepped
  | stepped base step, plain base' => exact absurd h.symm words_plain_ne_stepped
  | stepped base step, stepped base' step' =>
    simp only [words, List.cons.injEq, true_and] at h
    obtain ⟨hdigits, htail⟩ := h
    cases Numeral.digits_injective (String.ofList_injective hdigits)
    exact Base.selects_stepped_congr hw hf.isFormed.1 hf'.isFormed.1 (List.append_cancel_left htail) step

/-- The words of elements that are no names. -/
def particles : List String :=
  ["through", "every", "starting", "at", "from", "seconds", "minutes", "hours", "days", "of", "the",
    "week", "months", "years"]

theorem mem_words_base {base : Base} {w : String} (h : w ∈ base.words slot) :
    isName w = true ∨ w ∈ particles := by
  have hthrough : "through" ∈ particles := by decide
  have hnat (n : Nat) : isName (slot.called n) = true := slot.isName_called (Int.natCast_nonneg n)
  have hbound {n : Int} (hn : slot.bounds.low ≤ n) : isName (slot.called n) = true :=
    slot.isName_called (Int.le_trans slot.bounds_low_nonneg hn)
  cases base with
  | every =>
    simp only [Base.words, List.mem_cons, List.not_mem_nil, or_false] at h
    rcases h with rfl | rfl | rfl
    · exact .inl (hbound (Int.le_refl _))
    · exact .inr hthrough
    · exact .inl (hbound slot.bounds_low_le_high)
  | single n => exact .inl (List.mem_singleton.mp h ▸ hnat n.value)
  | span first last =>
    simp only [Base.words, List.mem_cons, List.not_mem_nil, or_false] at h
    rcases h with rfl | rfl | rfl
    · exact .inl (hnat first.value)
    · exact .inr hthrough
    · exact .inl (hnat last.value)

theorem mem_words {w : String} (h : w ∈ e.words slot) : isName w = true ∨ w ∈ particles := by
  cases e with
  | plain base => exact mem_words_base h
  | stepped base step =>
    have hunit : ∀ w ∈ slot.unitWords, w ∈ particles := by cases slot <;> decide
    simp only [words, List.mem_cons, List.mem_append] at h
    rcases h with rfl | rfl | h | h
    · exact .inr (by decide)
    · exact .inl (isName_of_digits step.digits_ne_nil (List.all_eq_true.mp step.all_isDigit))
    · exact .inr (hunit w h)
    · cases base with
      | every => cases h
      | single n =>
        simp only [Base.stepTail, List.mem_cons, List.not_mem_nil, or_false] at h
        rcases h with rfl | rfl | rfl
        · exact .inr (by decide)
        · exact .inr (by decide)
        · exact .inl (slot.isName_called (Int.natCast_nonneg _))
      | span first last =>
        rcases List.mem_cons.mp h with rfl | h
        · exact .inr (by decide)
        · exact mem_words_base h

theorem and_notMem_words (e : Element) (slot : Slot) : "and" ∉ e.words slot := by
  intro h
  rcases mem_words h with h | h
  · exact absurd h (by decide)
  · exact absurd h (by decide)

theorem isPlain_words {w : String} (h : w ∈ e.words slot) : Clause.IsPlainWord w := by
  have hparticles : ∀ w ∈ particles, Clause.IsPlainWord w := by decide
  rcases mem_words h with h | h
  · exact isPlain_of_isName h
  · exact hparticles w h

end Element

namespace Clause

variable {c r : Clause}

theorem IsPlain.append (h : IsPlain c) (hr : ∀ w ∈ r, IsPlainWord w) : IsPlain (c ++ r) :=
  ⟨List.append_ne_nil_of_left_ne_nil h.1 r, List.forall_mem_append.mpr ⟨h.2, hr⟩⟩

theorem IsPlain.prepend (h : IsPlain c) (hr : ∀ w ∈ r, IsPlainWord w) : IsPlain (r ++ c) :=
  ⟨List.append_ne_nil_of_right_ne_nil r h.1, List.forall_mem_append.mpr ⟨hr, h.2⟩⟩

theorem isPlain_modifyHead {cs : List Clause} (hr : ∀ w ∈ r, IsPlainWord w)
    (h : ∀ c ∈ cs, IsPlain c) : ∀ c ∈ cs.modifyHead (r ++ ·), IsPlain c := by
  cases cs with
  | nil => exact h
  | cons c cs =>
    obtain ⟨hc, hcs⟩ := List.forall_mem_cons.mp h
    exact List.forall_mem_cons.mpr ⟨hc.prepend hr, hcs⟩

theorem isPlain_listing {xs : List Clause} (hne : xs ≠ []) (hr : ∀ w ∈ r, IsPlainWord w)
    (h : ∀ x ∈ xs, IsPlain x) : ∀ c ∈ listing r xs, IsPlain c := by
  match xs, hne with
  | [x], _ => exact List.forall_mem_singleton.mpr ((h x List.mem_cons_self).append hr)
  | [x, y], _ =>
    have hy := (h y (by simp)).append hr
    have hand : ∀ w ∈ "and" :: (y ++ r), IsPlainWord w := List.forall_mem_cons.mpr ⟨by decide, hy.2⟩
    exact List.forall_mem_singleton.mpr ((h x List.mem_cons_self).append hand)
  | x :: y :: z :: xs, _ =>
    obtain ⟨hx, hxs⟩ := List.forall_mem_cons.mp h
    have ih := isPlain_listing (List.cons_ne_nil y (z :: xs)) hr hxs
    have hspace : ∀ w ∈ [""], IsPlainWord w := by decide
    exact List.forall_mem_cons.mpr ⟨hx, isPlain_modifyHead hspace ih⟩

end Clause

theorem Element.isPlain (slot : Slot) (e : Element) : Clause.IsPlain (e.words slot) :=
  ⟨e.words_ne_nil slot, fun _ => isPlain_words⟩

namespace Field

open Clause

variable {f : Field} {es : List Element}

theorem isPlain_clausesOf (hne : es ≠ []) : ∀ c ∈ f.clausesOf es, IsPlain c := by
  have hspace : ∀ w ∈ [""], IsPlainWord w := by decide
  have hlead (one : Bool) : ∀ w ∈ f.slot.leadWords one, IsPlainWord w := by
    cases f.slot <;> cases one <;> decide
  have htail : ∀ w ∈ f.slot.tailWords, IsPlainWord w := by cases f.slot <;> decide
  rcases f.clausesOf_cases es with ⟨base, step, -, hclauses⟩ | ⟨-, hclauses, -⟩ | ⟨hclauses, -⟩
  · rw [hclauses]
    exact List.forall_mem_singleton.mpr (((Element.stepped base step).isPlain f.slot).prepend hspace)
  · rw [hclauses]
    exact List.forall_mem_singleton.mpr ⟨List.cons_ne_nil _ _, by decide⟩
  · have hitems : ∀ x ∈ es.map (·.words f.slot), IsPlain x :=
      List.forall_mem_map.mpr fun e _ => e.isPlain f.slot
    rw [hclauses]
    exact isPlain_modifyHead (hlead _) (isPlain_listing (mt List.map_eq_nil_iff.mp hne) htail hitems)

end Field

end CronSchedule
