import CronSchedule.Proofs.Description.Elements
import CronSchedule.Proofs.Text.Figures
import CronSchedule.Proofs.Text.Pieces
import Mathlib.Data.Bool.AllAny

/-!
The characters of Chinese descriptions. Main statements: what is said of a slot is put together from digits
and the characters of the slot (`Field.spelledWith_phrase`), and its last character tells the slot, except that
both day slots may end alike (`Field.endsIn_phrase`).
-/

namespace CronSchedule

theorem Locale.through_zh (x y : String) : Locale.zh.through x y = x ++ ("到" ++ y) := by
  change x ++ ("到" ++ (y ++ "")) = _
  rw [String.append_empty]

namespace Base

variable (slot : Slot) (step n first last : Numeral)

theorem stepPhrase_every_zh : every.stepPhrase .zh slot step =
    "每" ++ (String.ofList step.digits ++ Locale.zh.stepUnit slot) := by
  change "每" ++ (_ ++ (Locale.zh.stepUnit slot ++ "")) = _
  rw [String.append_empty]
  rfl

theorem stepPhrase_single_zh : (single n).stepPhrase .zh slot step =
    "从" ++ (Locale.zh.value slot n.value ++
      ("开始每" ++ (String.ofList step.digits ++ Locale.zh.stepUnit slot))) := by
  change "从" ++ (_ ++ ("开始每" ++ (_ ++ (Locale.zh.stepUnit slot ++ "")))) = _
  rw [String.append_empty]
  rfl

theorem stepPhrase_span_zh : (span first last).stepPhrase .zh slot step =
    "从" ++ (Locale.zh.value slot first.value ++ ("到" ++ (Locale.zh.value slot last.value ++
      ("每" ++ (String.ofList step.digits ++ Locale.zh.stepUnit slot))))) := by
  change "从" ++ (_ ++ ("到" ++ (_ ++ ("每" ++ (_ ++ (Locale.zh.stepUnit slot ++ "")))))) = _
  rw [String.append_empty]
  rfl

end Base

theorem Locale.listing_zh (items : List String) : Locale.zh.listing items = "、".intercalate items := by
  rcases List.eq_nil_or_concat items with rfl | ⟨init, last, rfl⟩
  · rfl
  · by_cases h : init = []
    · subst h
      exact String.intercalate_singleton.symm
    · have hlast : Message.listLastSeparator.say .zh [] = "、" := rfl
      have hseparator : Message.listSeparator.say .zh [] = "、" := rfl
      rw [List.concat_eq_append, listing_concat .zh h, hlast, hseparator,
        String.intercalate_append_of_ne_nil h (List.cons_ne_nil _ _), String.intercalate_singleton,
        String.append_assoc]

/-- The text is put together from digits and the given characters. -/
def SpelledWith (cs : List Char) (s : String) : Prop :=
  ∀ c ∈ s.toList, c.isDigit = true ∨ c ∈ cs

instance (cs : List Char) (s : String) : Decidable (SpelledWith cs s) :=
  List.decidableBAll _ s.toList

section

variable {cs ds : List Char} {x y : String}

theorem SpelledWith.mono (h : SpelledWith cs x) (hs : cs ⊆ ds) : SpelledWith ds x :=
  fun c hc => (h c hc).imp_right fun hm => hs hm

theorem SpelledWith.append (hx : SpelledWith cs x) (hy : SpelledWith cs y) : SpelledWith cs (x ++ y) := by
  intro c hc
  rw [String.toList_append] at hc
  exact (List.mem_append.mp hc).elim (hx c) (hy c)

theorem SpelledWith.intercalate {xs : List String} (hs : SpelledWith cs x)
    (h : ∀ y ∈ xs, SpelledWith cs y) : SpelledWith cs (x.intercalate xs) :=
  Text.forall_mem_intercalate hs h

theorem SpelledWith.notMem (h : SpelledWith cs x) {c : Char} (hd : c.isDigit = false) (hc : c ∉ cs) :
    c ∉ x.toList := by
  intro hmem
  rcases h c hmem with hdigit | hmem
  · exact absurd (hd.symm.trans hdigit) Bool.false_ne_true
  · exact hc hmem

/-- The last character of the text is one of the given characters. -/
def EndsIn (cs : List Char) (s : String) : Prop :=
  ∃ c ∈ cs, s.toList.getLast? = some c

instance (cs : List Char) (s : String) : Decidable (EndsIn cs s) :=
  List.decidableBEx _ cs

theorem EndsIn.append (hy : EndsIn cs y) (x : String) : EndsIn cs (x ++ y) := by
  obtain ⟨c, hc, hlast⟩ := hy
  refine ⟨c, hc, ?_⟩
  rw [String.toList_append, List.getLast?_append, hlast, Option.some_or]

theorem EndsIn.intercalate {xs : List String} (hne : xs ≠ []) (h : ∀ x ∈ xs, EndsIn cs x) (s : String) :
    EndsIn cs (s.intercalate xs) := by
  rcases List.eq_nil_or_concat xs with rfl | ⟨init, last, rfl⟩
  · exact absurd rfl hne
  · have hlast : EndsIn cs last := h last (by simp)
    rw [List.concat_eq_append]
    by_cases hinit : init = []
    · subst hinit
      rwa [List.nil_append, String.intercalate_singleton]
    · rw [String.intercalate_append_of_ne_nil hinit (List.cons_ne_nil _ _), String.intercalate_singleton]
      exact hlast.append _

/-- The text starts as what is said of a slot does: with a preposition, or with a number of units. -/
def isOpening : List Char → Bool
  | [] => false
  | c :: cs => c = '从' || c = '在' || c = '每' && cs.head?.any Char.isDigit

theorem isOpening_append {s : List Char} (h : isOpening s = true) (t : List Char) :
    isOpening (s ++ t) = true := by
  match s with
  | [c] =>
    simp only [isOpening, List.head?_nil, Option.any_none, Bool.and_false, Bool.or_false] at h
    rw [List.singleton_append, isOpening, h, Bool.true_or]
  | c :: d :: cs => exact h

end

namespace Slot

/-- What stands in front of the values of a slot. -/
def before : Slot → String
  | second => "在第"
  | minute => "在第"
  | _ => "在"

/-- What stands after the values of a slot. -/
def after : Slot → String
  | second => "秒"
  | minute => "分钟"
  | _ => ""

theorem say_values_zh (slot : Slot) (one : Bool) (values : String) :
    (if one then slot.one else slot.many).say .zh [(.values, values)] =
      slot.before ++ (values ++ slot.after) := by
  cases slot <;> cases one <;>
    simp [one, many, Message.say, Message.template, Message.chinese, Piece.fill, before, after]

/-- The characters of values that are no digits. -/
def marks : Slot → List Char
  | hour => ['点']
  | dayOfMonth => ['号']
  | month => ['月']
  | dayOfWeek => ['周', '日', '一', '二', '三', '四', '五', '六']
  | year => ['年']
  | _ => []

/-- The characters of elements that are no digits. -/
def glyphs (slot : Slot) : List Char :=
  "每从到开始".toList ++ slot.marks ++ (Locale.zh.stepUnit slot).toList

/-- The characters that what is said of a slot may end in. -/
def endings : Slot → List Char
  | second => ['秒']
  | minute => ['钟']
  | hour => ['点', '时']
  | dayOfMonth => ['号', '天']
  | month => ['月']
  | dayOfWeek => ['日', '一', '二', '三', '四', '五', '六', '天']
  | year => ['年']

/-- Only the day slots share an ending. -/
theorem eq_of_mem_endings {s t : Slot} {c : Char} (hs : c ∈ s.endings) (ht : c ∈ t.endings) :
    s = t ∨ c = '天' ∧ s ∈ days ∧ t ∈ days := by
  have hall : ∀ c ∈ s.endings, c ∈ t.endings → s = t ∨ c = '天' ∧ s ∈ days ∧ t ∈ days :=
    List.all_iff_forall_prop.mp (by cases s <;> cases t <;> decide)
  exact hall c hs ht

theorem value_zh_number {slot : Slot} (hm : slot ≠ .month) (hw : slot ≠ .dayOfWeek) {n : Int}
    (hn : 0 ≤ n) :
    (Locale.zh.value slot n).toList = Text.figures n.toNat ++ (Locale.zh.valueSuffix slot).toList := by
  have hfigures : (Text.ofInt n).toList = Text.figures n.toNat := by
    rw [Text.ofInt_eq_ofNat hn, Text.ofNat, String.toList_ofList]
  cases slot with
  | month => exact absurd rfl hm
  | dayOfWeek => exact absurd rfl hw
  | _ => exact String.toList_append.trans (congrArg (· ++ _) hfigures)

theorem spelledWith_months : ∀ i : Fin 12, SpelledWith (marks .month) (Locale.zh.months.get i) := by
  decide

theorem spelledWith_weekdays : ∀ i : Fin 7, SpelledWith (marks .dayOfWeek) (Locale.zh.weekdays.get i) := by
  decide

theorem spelledWith_value (slot : Slot) {n : Int} (hn : 0 ≤ n) :
    SpelledWith slot.marks (Locale.zh.value slot n) := by
  by_cases hm : slot = .month
  · exact hm ▸ spelledWith_months ⟨((n - 1) % 12).toNat, by omega⟩
  · by_cases hw : slot = .dayOfWeek
    · exact hw ▸ spelledWith_weekdays ⟨(n % 7).toNat, by omega⟩
    · have hsuffix : ∀ c ∈ (Locale.zh.valueSuffix slot).toList, c ∈ slot.marks :=
        List.all_iff_forall_prop.mp (by cases slot <;> decide)
      intro c hc
      rw [value_zh_number hm hw hn, List.mem_append] at hc
      exact hc.imp Text.isDigit_of_mem_figures (hsuffix c)

end Slot

namespace Element

variable {slot : Slot}

theorem spelledWith_phrase (slot : Slot) (e : Element) :
    SpelledWith slot.glyphs (e.phrase .zh slot) := by
  have hword {s : String} (hs : s.toList ⊆ "每从到开始".toList) : SpelledWith slot.glyphs s :=
    fun c hc => .inr (List.mem_append_left _ (List.mem_append_left _ (hs hc)))
  have hunit : SpelledWith slot.glyphs (Locale.zh.stepUnit slot) :=
    fun c hc => .inr (List.mem_append_right _ hc)
  have hvalue {n : Int} (hn : 0 ≤ n) : SpelledWith slot.glyphs (Locale.zh.value slot n) :=
    (slot.spelledWith_value hn).mono fun c hc => List.mem_append_left _ (List.mem_append_right _ hc)
  have hnat (n : Numeral) := hvalue (Int.natCast_nonneg n.value)
  have hevery {s : String} (hs : SpelledWith slot.glyphs s) (step : Numeral) :
      SpelledWith slot.glyphs (String.ofList step.digits ++ s) := by
    refine .append (fun c hc => ?_) hs
    rw [String.toList_ofList] at hc
    exact .inl (List.all_eq_true.mp step.all_isDigit c hc)
  have hto : SpelledWith slot.glyphs "到" := hword (by decide)
  have hrange {x y : String} (hx : SpelledWith slot.glyphs x) (hy : SpelledWith slot.glyphs y) :
      SpelledWith slot.glyphs (Locale.zh.through x y) := by
    rw [Locale.through_zh]
    exact hx.append (hto.append hy)
  match e with
  | plain .every =>
    have hhigh : 0 ≤ slot.bounds.high := by cases slot <;> decide
    have hlow : 0 ≤ slot.bounds.low := by cases slot <;> decide
    exact hrange (hvalue hlow) (hvalue hhigh)
  | plain (.single n) => exact hnat n
  | plain (.span first last) => exact hrange (hnat first) (hnat last)
  | stepped .every step =>
    rw [phrase, Base.stepPhrase_every_zh]
    exact (hword (by decide)).append (hevery hunit step)
  | stepped (.single n) step =>
    rw [phrase, Base.stepPhrase_single_zh]
    exact (hword (by decide)).append ((hnat n).append ((hword (by decide)).append (hevery hunit step)))
  | stepped (.span first last) step =>
    rw [phrase, Base.stepPhrase_span_zh]
    exact (hword (by decide)).append ((hnat first).append (hto.append ((hnat last).append
      ((hword (by decide)).append (hevery hunit step)))))

end Element

namespace Slot

theorem endsIn_months : ∀ i : Fin 12, EndsIn (endings .month) (Locale.zh.months.get i) := by
  decide

theorem endsIn_weekdays : ∀ i : Fin 7, EndsIn (endings .dayOfWeek) (Locale.zh.weekdays.get i) := by
  decide

theorem endsIn_valueSuffix (slot : Slot) : slot.after = "" → slot ≠ .month → slot ≠ .dayOfWeek →
    EndsIn slot.endings (Locale.zh.valueSuffix slot) := by
  cases slot <;> decide

theorem endsIn_value {slot : Slot} (ha : slot.after = "") {n : Int} (hn : 0 ≤ n) :
    EndsIn slot.endings (Locale.zh.value slot n) := by
  by_cases hm : slot = .month
  · exact hm ▸ endsIn_months ⟨((n - 1) % 12).toNat, by omega⟩
  · by_cases hw : slot = .dayOfWeek
    · exact hw ▸ endsIn_weekdays ⟨(n % 7).toNat, by omega⟩
    · obtain ⟨c, hc, hlast⟩ := slot.endsIn_valueSuffix ha hm hw
      refine ⟨c, hc, ?_⟩
      rw [value_zh_number hm hw hn, List.getLast?_append, hlast, Option.some_or]

theorem endsIn_stepUnit (slot : Slot) : EndsIn slot.endings (Locale.zh.stepUnit slot) := by
  cases slot <;> decide

theorem endsIn_after (slot : Slot) : slot.after ≠ "" → EndsIn slot.endings slot.after := by
  cases slot <;> decide

end Slot

theorem Base.endsIn_stepPhrase (slot : Slot) (base : Base) (step : Numeral) :
    EndsIn slot.endings (base.stepPhrase .zh slot step) := by
  have hunit := slot.endsIn_stepUnit
  cases base with
  | every =>
    rw [Base.stepPhrase_every_zh]
    exact (hunit.append _).append _
  | single n =>
    rw [Base.stepPhrase_single_zh]
    exact (((hunit.append _).append _).append _).append _
  | span first last =>
    rw [Base.stepPhrase_span_zh]
    exact (((((hunit.append _).append _).append _).append _).append _).append _

theorem Base.endsIn_phrase {slot : Slot} (ha : slot.after = "") (base : Base) :
    EndsIn slot.endings (base.phrase .zh slot) := by
  have hto {n : Int} (hn : 0 ≤ n) (x : String) :
      EndsIn slot.endings (Locale.zh.through x (Locale.zh.value slot n)) := by
    rw [Locale.through_zh]
    exact ((Slot.endsIn_value ha hn).append _).append _
  cases base with
  | every =>
    have hhigh : 0 ≤ slot.bounds.high := by cases slot <;> decide
    exact hto hhigh _
  | single n => exact Slot.endsIn_value ha (Int.natCast_nonneg _)
  | span first last => exact hto (Int.natCast_nonneg _) _

theorem Base.isOpening_stepPhrase (slot : Slot) (base : Base) (step : Numeral) :
    isOpening (base.stepPhrase .zh slot step).toList = true := by
  cases base with
  | every =>
    obtain ⟨d, ds, hd⟩ := List.exists_cons_of_ne_nil step.digits_ne_nil
    have hdigit : d.isDigit = true :=
      List.all_eq_true.mp step.all_isDigit d (hd ▸ List.mem_cons_self)
    rw [Base.stepPhrase_every_zh, hd]
    simpa [isOpening] using hdigit
  | single n =>
    rw [Base.stepPhrase_single_zh, String.toList_append]
    rfl
  | span first last =>
    rw [Base.stepPhrase_span_zh, String.toList_append]
    rfl

namespace Field

variable {f : Field} {es : List Element}

/-- What is said of a slot is put together from digits and the characters of the slot. -/
theorem spelledWith_phrase (f : Field) (es : List Element) :
    SpelledWith ("在第、工作日".toList ++ f.slot.glyphs) (f.phrase .zh es) := by
  have hword {s : String} (hs : s.toList ⊆ "在第、工作日".toList) :
      SpelledWith ("在第、工作日".toList ++ f.slot.glyphs) s :=
    fun c hc => .inr (List.mem_append_left _ (hs hc))
  have helement (e : Element) :
      SpelledWith ("在第、工作日".toList ++ f.slot.glyphs) (e.phrase .zh f.slot) :=
    (e.spelledWith_phrase f.slot).mono fun c hc => List.mem_append_right _ hc
  have hafter : SpelledWith ("在第、工作日".toList ++ f.slot.glyphs) f.slot.after := by
    cases f.slot <;> decide
  have hbefore : f.slot.before.toList ⊆ "在第、工作日".toList := by
    cases f.slot <;> decide
  rcases f.phrase_cases .zh es with ⟨base, step, -, hphrase⟩ | ⟨-, hphrase⟩ | ⟨-, hphrase⟩
  · rw [hphrase]
    exact helement (.stepped base step)
  · rw [hphrase]
    exact hword (by decide)
  · rw [hphrase, f.slot.say_values_zh, Locale.listing_zh]
    refine (hword hbefore).append (.append ?_ hafter)
    exact .intercalate (hword (by decide)) (List.forall_mem_map.mpr fun e _ => helement e)

theorem endsIn_phrase (hne : es ≠ []) : EndsIn f.slot.endings (f.phrase .zh es) := by
  rcases f.phrase_cases .zh es with ⟨base, step, -, hphrase⟩ | ⟨hdays, hphrase⟩ | ⟨-, hphrase⟩
  · rw [hphrase]
    exact base.endsIn_stepPhrase f.slot step
  · rw [hphrase, slot_of_isWorkingDays hdays]
    decide
  · rw [hphrase, f.slot.say_values_zh, Locale.listing_zh]
    by_cases ha : f.slot.after = ""
    · rw [ha, String.append_empty]
      refine .append (.intercalate (mt List.map_eq_nil_iff.mp hne) ?_ _) _
      refine List.forall_mem_map.mpr fun e _ => ?_
      cases e with
      | plain base => exact base.endsIn_phrase ha
      | stepped base step => exact base.endsIn_stepPhrase f.slot step
    · exact ((f.slot.endsIn_after ha).append _).append _

theorem isOpening_phrase (f : Field) (es : List Element) :
    isOpening (f.phrase .zh es).toList = true := by
  rcases f.phrase_cases .zh es with ⟨base, step, -, hphrase⟩ | ⟨-, hphrase⟩ | ⟨-, hphrase⟩
  · rw [hphrase]
    exact base.isOpening_stepPhrase f.slot step
  · rw [hphrase]
    rfl
  · rw [hphrase, f.slot.say_values_zh, String.toList_append]
    cases f.slot <;> rfl

end Field

end CronSchedule
