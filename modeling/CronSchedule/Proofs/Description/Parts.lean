import CronSchedule.Proofs.Description.OpenSteps

/-!
The parts of a Chinese sentence, one for each restricted slot. Main statement: sentences with the same parts
are about the same slots, except that steps through all days are said alike of both day slots
(`Expression.restricts_iff_of_fragments`).
-/

namespace CronSchedule

namespace Slot

/-- The slots that say on which dates a schedule fires, the years aside. -/
def dated : List Slot :=
  [dayOfMonth, month, dayOfWeek]

/-- The endings of what is said of dates, which tell it from what is said of other slots. -/
def datedEndings : List Char :=
  dated.flatMap endings

theorem mem_datedEndings_iff {slot : Slot} {c : Char} (h : c ∈ slot.endings) :
    c ∈ datedEndings ↔ slot ∈ dated := by
  have hall : ∀ c ∈ slot.endings, c ∈ datedEndings ↔ slot ∈ dated :=
    List.all_iff_forall_prop.mp (by cases slot <;> decide)
  exact hall c h

end Slot

/-- Optional items one after the other are told apart, unless one of two similar ones is missing on either
side, and the item between them as well. -/
theorem toList_append_cases {α : Type} {d m w d' m' w' : Option α}
    (h : d.toList ++ (m.toList ++ w.toList) = d'.toList ++ (m'.toList ++ w'.toList))
    (hm : m.isSome = m'.isSome) (hd : ∀ x ∈ d, x ∉ m') (hd' : ∀ x ∈ d', x ∉ m) :
    (d = d' ∧ w = w') ∨ ((∃ x, d = some x ∧ w' = some x) ∧ (m = none ∧ w = none) ∧ d' = none ∧ m' = none) ∨
      (∃ x, d' = some x ∧ w = some x) ∧ (m' = none ∧ w' = none) ∧ d = none ∧ m = none := by
  cases d <;> cases m <;> cases w <;> cases d' <;> cases m' <;> cases w' <;> simp_all

namespace Expression

variable {a b e : Expression} {slot : Slot} {mode : Mode} {source text : String} {x : String}

/-- The parts of the sentence that is put together for an expression. -/
def parts (e : Expression) : List String :=
  match e.fragments .zh with
  | [] => [e.everyUnit.say .zh []]
  | fs => fs

theorem composed_zh (e : Expression) : e.composed .zh = "，".intercalate e.parts ++ "执行" := by
  change "，".intercalate e.parts ++ ("执行" ++ "") = _
  rw [String.append_empty]

theorem fragmentAt?_zh (h : parse source mode = .ok (.expression e)) (hv : e.isValid = true)
    (hr : e.Restricts slot) : ∃ x, e.fragmentAt? .zh slot = some x := by
  obtain ⟨f, es, hf, hes⟩ := hr.exists_lists h hv
  refine ⟨f.phrase .zh es, ?_⟩
  rw [fragmentAt?, hf]
  exact hes.fragment? .zh

theorem restricts_of_fragmentAt? (hx : e.fragmentAt? .zh slot = some x) : e.Restricts slot := by
  by_contra hn
  cases hx.symm.trans (fragmentAt?_of_not_restricts hn .zh)

/-- What is said of a slot is the phrase of a field that lists elements. -/
theorem exists_lists_of_fragmentAt? (h : parse source mode = .ok (.expression e))
    (hv : e.isValid = true) (hx : e.fragmentAt? .zh slot = some x) :
    ∃ f es, e.field? slot = some f ∧ f.Lists slot es ∧ x = f.phrase .zh es := by
  obtain ⟨f, es, hf, hes⟩ := (restricts_of_fragmentAt? hx).exists_lists h hv
  rw [fragmentAt?, hf] at hx
  exact ⟨f, es, hf, hes, Option.some.inj (hx.symm.trans (hes.fragment? .zh))⟩

theorem endsIn_of_fragmentAt? (h : parse source mode = .ok (.expression e)) (hv : e.isValid = true)
    (hx : e.fragmentAt? .zh slot = some x) : EndsIn slot.endings x := by
  obtain ⟨f, es, -, hes, rfl⟩ := exists_lists_of_fragmentAt? h hv hx
  exact hes.slot_eq ▸ f.endsIn_phrase hes.ne_nil

theorem mem_fragments_zh :
    x ∈ e.fragments .zh ↔ ∃ slot ∈ e.mode.slots, e.fragmentAt? .zh slot = some x := by
  rw [fragments_eq_filterMap, List.mem_filterMap]

theorem isOpening_of_mem_fragments (h : parse source mode = .ok (.expression e))
    (hv : e.isValid = true) (hx : x ∈ e.fragments .zh) : isOpening x.toList = true := by
  obtain ⟨slot, -, hx⟩ := mem_fragments_zh.mp hx
  obtain ⟨f, es, -, -, rfl⟩ := exists_lists_of_fragmentAt? h hv hx
  exact f.isOpening_phrase es

theorem parts_ne_nil (e : Expression) : e.parts ≠ [] := by
  rw [parts]
  split
  · exact List.cons_ne_nil _ _
  · next hne => exact fun hnil => hne hnil

theorem comma_notMem_parts (h : parse source mode = .ok (.expression e)) (hv : e.isValid = true) :
    ∀ x ∈ e.parts, '，' ∉ x.toList := by
  rw [parts]
  split
  · refine List.forall_mem_singleton.mpr ?_
    rw [everyUnit]
    cases e.mode <;> decide
  · intro x hx
    obtain ⟨slot, -, hx⟩ := mem_fragments_zh.mp hx
    obtain ⟨f, es, -, -, rfl⟩ := exists_lists_of_fragmentAt? h hv hx
    refine (f.spelledWith_phrase es).notMem (by decide) ?_
    cases f.slot <;> decide

theorem isOpening_everyUnit (e : Expression) :
    isOpening (e.everyUnit.say .zh []).toList = false := by
  rw [everyUnit]
  cases e.mode <;> decide

theorem fragments_inj (ha : parse source mode = .ok (.expression a))
    (hb : parse text mode = .ok (.expression b)) (hva : a.isValid = true) (hvb : b.isValid = true)
    (h : a.composed .zh = b.composed .zh) : a.fragments .zh = b.fragments .zh := by
  have hcomma : "，".toList = ['，'] := rfl
  rw [composed_zh, composed_zh, String.append_left_inj] at h
  have hparts := Text.intercalate_inj hcomma a.parts_ne_nil b.parts_ne_nil (comma_notMem_parts ha hva)
    (comma_notMem_parts hb hvb) h
  have hunit {a b : Expression} {text : String} (hb : parse text mode = .ok (.expression b))
      (hvb : b.isValid = true) : [a.everyUnit.say .zh []] ≠ b.fragments .zh := by
    intro heq
    have hopening := isOpening_of_mem_fragments hb hvb (heq ▸ List.mem_singleton_self _)
    exact absurd (a.isOpening_everyUnit.symm.trans hopening) Bool.false_ne_true
  rw [parts, parts] at hparts
  split at hparts
  · next hna =>
    split at hparts
    · next hnb => rw [hna, hnb]
    · exact absurd hparts (hunit hb hvb)
  · split at hparts
    · exact absurd hparts.symm (hunit ha hva)
    · exact hparts

/-- Outside the day slots the ending of what is said tells the slot. -/
theorem restricts_iff_exists_mem_fragments (h : parse source mode = .ok (.expression e))
    (hv : e.isValid = true) (hs : slot ∈ mode.slots) (hd : slot ∉ Slot.days) :
    e.Restricts slot ↔ ∃ x ∈ e.fragments .zh, EndsIn slot.endings x := by
  have hmode : e.mode = mode := mode_of_parse h
  constructor
  · intro hr
    obtain ⟨x, hx⟩ := fragmentAt?_zh h hv hr
    exact ⟨x, mem_fragments_zh.mpr ⟨slot, hmode ▸ hs, hx⟩, endsIn_of_fragmentAt? h hv hx⟩
  · intro hex
    obtain ⟨x, hmem, c, hc, hlast⟩ := hex
    obtain ⟨t, -, hx⟩ := mem_fragments_zh.mp hmem
    obtain ⟨c', hc', hlast'⟩ := endsIn_of_fragmentAt? h hv hx
    cases hlast.symm.trans hlast'
    rcases Slot.eq_of_mem_endings hc hc' with rfl | ⟨-, hmem, -⟩
    · exact restricts_of_fragmentAt? hx
    · exact absurd hmem hd

/-- The parts of the sentence about dates are told from the others. -/
theorem filter_fragments_zh (h : parse source mode = .ok (.expression e)) (hv : e.isValid = true) :
    (e.fragments .zh).filter (fun x => decide (EndsIn Slot.datedEndings x)) =
      Slot.dated.filterMap (e.fragmentAt? .zh) := by
  have hslots : e.mode.slots.filter (· ∈ Slot.dated) = Slot.dated := by cases e.mode <;> rfl
  have hslot (slot : Slot) :
      (e.fragmentAt? .zh slot).filter (fun x => decide (EndsIn Slot.datedEndings x)) =
        if slot ∈ Slot.dated then e.fragmentAt? .zh slot else none := by
    cases hx : e.fragmentAt? .zh slot with
    | none => simp
    | some x =>
      obtain ⟨c, hc, hlast⟩ := endsIn_of_fragmentAt? h hv hx
      have hiff : EndsIn Slot.datedEndings x ↔ slot ∈ Slot.dated := by
        rw [← Slot.mem_datedEndings_iff hc]
        constructor
        · intro hends
          obtain ⟨c', hc', hlast'⟩ := hends
          cases hlast.symm.trans hlast'
          exact hc'
        · exact fun hmem => ⟨c, hmem, hlast⟩
      simp [Option.filter, hiff]
  calc (e.fragments .zh).filter (fun x => decide (EndsIn Slot.datedEndings x))
    _ = e.mode.slots.filterMap fun slot =>
        (e.fragmentAt? .zh slot).filter fun x => decide (EndsIn Slot.datedEndings x) := by
      rw [fragments_eq_filterMap, List.filter_filterMap]
    _ = (e.mode.slots.filter (· ∈ Slot.dated)).filterMap (e.fragmentAt? .zh) := by
      simp only [hslot, List.filterMap_filter, decide_eq_true_iff]
    _ = Slot.dated.filterMap (e.fragmentAt? .zh) := by rw [hslots]

/-- The day of the month of one expression and the day of the week of the other hold the same steps
through all days, and neither restricts its other day slot or the months. -/
structure ConfusesDays (a b : Expression) : Prop where
  restricts : a.Restricts .dayOfMonth ∧ b.Restricts .dayOfWeek
  not_restricts_left : ¬ a.Restricts .month ∧ ¬ a.Restricts .dayOfWeek
  not_restricts_right : ¬ b.Restricts .dayOfMonth ∧ ¬ b.Restricts .month
  isOpenSteps : Token.IsOpenSteps a.dayOfMonth.token.toList
  token_eq : a.dayOfMonth.token = b.dayOfWeek.token

theorem fragmentAt?_eq_none_iff (h : parse source mode = .ok (.expression e)) (hv : e.isValid = true) :
    e.fragmentAt? .zh slot = none ↔ ¬ e.Restricts slot := by
  refine ⟨fun hnone hr => ?_, fun hn => fragmentAt?_of_not_restricts hn .zh⟩
  obtain ⟨x, hx⟩ := fragmentAt?_zh h hv hr
  cases hnone.symm.trans hx

theorem isSome_fragmentAt?_iff (h : parse source mode = .ok (.expression e)) (hv : e.isValid = true) :
    (e.fragmentAt? .zh slot).isSome = true ↔ e.Restricts slot := by
  rw [Option.isSome_iff_ne_none, ne_eq, fragmentAt?_eq_none_iff h hv, not_not]

theorem ne_of_fragmentAt? (ha : parse source mode = .ok (.expression a))
    (hb : parse text mode = .ok (.expression b)) (hva : a.isValid = true) (hvb : b.isValid = true)
    {s t : Slot} (hs : s ∉ Slot.days ∨ t ∉ Slot.days) (hne : s ≠ t) :
    ∀ x ∈ a.fragmentAt? .zh s, x ∉ b.fragmentAt? .zh t := by
  intro x hx hx'
  obtain ⟨c, hc, hlast⟩ := endsIn_of_fragmentAt? ha hva hx
  obtain ⟨c', hc', hlast'⟩ := endsIn_of_fragmentAt? hb hvb hx'
  cases hlast.symm.trans hlast'
  rcases Slot.eq_of_mem_endings hc hc' with heq | ⟨-, hdays, hdays'⟩
  · exact hne heq
  · exact hs.elim (absurd hdays) (absurd hdays')

theorem filterMap_dated (f : Slot → Option String) :
    Slot.dated.filterMap f =
      (f .dayOfMonth).toList ++ ((f .month).toList ++ (f .dayOfWeek).toList) := by
  rw [Slot.dated, List.filterMap_cons, List.filterMap_cons, List.filterMap_cons, List.filterMap_nil]
  cases f .dayOfMonth <;> cases f .month <;> cases f .dayOfWeek <;> rfl

theorem confusesDays_of_fragmentAt? (ha : parse source mode = .ok (.expression a))
    (hb : parse text mode = .ok (.expression b)) (hva : a.isValid = true) (hvb : b.isValid = true)
    (hx : a.fragmentAt? .zh .dayOfMonth = some x ∧ b.fragmentAt? .zh .dayOfWeek = some x)
    (hna : a.fragmentAt? .zh .month = none ∧ a.fragmentAt? .zh .dayOfWeek = none)
    (hnb : b.fragmentAt? .zh .dayOfMonth = none ∧ b.fragmentAt? .zh .month = none) :
    ConfusesDays a b := by
  rw [fragmentAt?_eq_none_iff ha hva, fragmentAt?_eq_none_iff ha hva] at hna
  rw [fragmentAt?_eq_none_iff hb hvb, fragmentAt?_eq_none_iff hb hvb] at hnb
  obtain ⟨f, es, hf, hes, hfx⟩ := exists_lists_of_fragmentAt? ha hva hx.1
  obtain ⟨g, es', hg, hes', hgx⟩ := exists_lists_of_fragmentAt? hb hvb hx.2
  cases hf
  cases hg
  obtain ⟨hsteps, htoken⟩ := Field.isOpenSteps_of_phrase_eq hes hes' (hfx.symm.trans hgx)
  exact ⟨⟨restricts_of_fragmentAt? hx.1, restricts_of_fragmentAt? hx.2⟩, hna, hnb, hsteps, htoken⟩

theorem restricts_iff_of_fragments (ha : parse source mode = .ok (.expression a))
    (hb : parse text mode = .ok (.expression b)) (hva : a.isValid = true) (hvb : b.isValid = true)
    (h : a.fragments .zh = b.fragments .zh) :
    (∀ slot ∈ mode.slots, a.Restricts slot ↔ b.Restricts slot) ∨ ConfusesDays a b ∨ ConfusesDays b a := by
  have hother {slot : Slot} (hs : slot ∈ mode.slots) (hd : slot ∉ Slot.days) :
      a.Restricts slot ↔ b.Restricts slot := by
    rw [restricts_iff_exists_mem_fragments ha hva hs hd, h,
      restricts_iff_exists_mem_fragments hb hvb hs hd]
  have hdated : Slot.dated.filterMap (a.fragmentAt? .zh) = Slot.dated.filterMap (b.fragmentAt? .zh) := by
    rw [← filter_fragments_zh ha hva, h, filter_fragments_zh hb hvb]
  have hmonth : (a.fragmentAt? .zh .month).isSome = (b.fragmentAt? .zh .month).isSome := by
    rw [Bool.eq_iff_iff, isSome_fragmentAt?_iff ha hva, isSome_fragmentAt?_iff hb hvb]
    exact hother (by cases mode <;> decide) (by decide)
  rw [filterMap_dated, filterMap_dated] at hdated
  rcases toList_append_cases hdated hmonth
    (ne_of_fragmentAt? ha hb hva hvb (.inr (by decide)) (by decide))
    (ne_of_fragmentAt? hb ha hvb hva (.inr (by decide)) (by decide)) with
    ⟨hdom, hdow⟩ | ⟨hx, hna, hnb⟩ | ⟨hx, hnb, hna⟩
  · refine .inl fun slot hs => ?_
    by_cases hd : slot ∈ Slot.days
    · rw [← isSome_fragmentAt?_iff ha hva, ← isSome_fragmentAt?_iff hb hvb]
      rcases List.mem_pair.mp hd with rfl | rfl
      · rw [hdom]
      · rw [hdow]
    · exact hother hs hd
  · obtain ⟨x, hx⟩ := hx
    exact .inr (.inl (confusesDays_of_fragmentAt? ha hb hva hvb hx hna hnb))
  · obtain ⟨x, hx⟩ := hx
    exact .inr (.inr (confusesDays_of_fragmentAt? hb ha hvb hva hx hnb hna))

end Expression

end CronSchedule
