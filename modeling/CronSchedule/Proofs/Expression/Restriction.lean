import CronSchedule.Proofs.Expression.Matching

/-!
Restricted slots. Main statement: valid expressions of one mode that restrict the same slots, to the same
numbers, fire alike (`Expression.selects_congr`).
-/

namespace CronSchedule

/-- The field takes any number exactly if its token is one of the two marks for that. -/
theorem Field.isUnrestricted_iff_of_accepts {slot : Slot} {f : Field} (hr : read slot f.token = .ok f)
    (ha : slot.Accepts f.token) : f.isUnrestricted = true ↔ f.token = "*" ∨ f.token = "?" := by
  rw [isUnrestricted_iff hr]
  refine ⟨fun h => h.imp_right And.left, fun h => ?_⟩
  rcases h with h | h
  · exact .inl h
  · refine ha.resolve_right fun hn => ?_
    rw [h] at hn
    exact Token.not_accepts_question slot.accepted slot.accepted_low_le_high hn

namespace Expression

/-- The field in the slot does not take any number. -/
def Restricts (e : Expression) (slot : Slot) : Prop :=
  ∃ f, e.field? slot = some f ∧ f.isUnrestricted = false

/-- Two expressions restrict a slot alike. -/
structure AgreeAt (a b : Expression) (slot : Slot) : Prop where
  restricts : a.Restricts slot ↔ b.Restricts slot
  selects : ∀ f g, a.field? slot = some f → b.field? slot = some g → ∀ v, f.selects v = g.selects v

variable {a b e : Expression} {slot : Slot} {f g : Field} {mode : Mode} {source text : String}

theorem restricts_iff (hf : e.field? slot = some f) :
    e.Restricts slot ↔ f.isUnrestricted = false := by
  constructor
  · intro h
    obtain ⟨f', hf', hu⟩ := h
    cases hf.symm.trans hf'
    exact hu
  · exact fun hu => ⟨f, hf, hu⟩

theorem isUnrestricted_of_not_restricts (h : ¬ e.Restricts slot) (hf : e.field? slot = some f) :
    f.isUnrestricted = true := by
  rw [restricts_iff hf, Bool.not_eq_false] at h
  exact h

theorem AgreeAt.isUnrestricted_eq (h : AgreeAt a b slot) (hf : a.field? slot = some f)
    (hg : b.field? slot = some g) : f.isUnrestricted = g.isUnrestricted := by
  have hiff := h.restricts
  rw [restricts_iff hf, restricts_iff hg, ← Bool.not_eq_true, ← Bool.not_eq_true, not_iff_not] at hiff
  exact Bool.eq_iff_iff.mpr hiff

theorem agreeAt_of_not_restricts (ha : parse source mode = .ok (.expression a))
    (hb : parse text mode = .ok (.expression b)) (hna : ¬ a.Restricts slot)
    (hnb : ¬ b.Restricts slot) : AgreeAt a b slot where
  restricts := iff_of_false hna hnb
  selects f g hf hg v := by
    have hfr := (read_of_field? ha hf).2
    have hgr := (read_of_field? hb hg).2
    have hfo := (Field.isUnrestricted_iff hfr).mp (isUnrestricted_of_not_restricts hna hf)
    have hgo := (Field.isUnrestricted_iff hgr).mp (isUnrestricted_of_not_restricts hnb hg)
    rw [Bool.eq_iff_iff, Field.selects_iff, Field.selects_iff, Field.mem_values_of_leavesOpen hfr hfo,
      Field.mem_values_of_leavesOpen hgr hgo]

theorem agreeAt_of_token_eq (ha : parse source mode = .ok (.expression a))
    (hb : parse text mode = .ok (.expression b)) (hf : a.field? slot = some f)
    (hg : b.field? slot = some g) (h : f.token = g.token) : AgreeAt a b slot := by
  have hfr := (read_of_field? ha hf).2
  have hgr := (read_of_field? hb hg).2
  cases Except.ok.inj (hfr.symm.trans ((congrArg (Field.read slot) h).trans hgr))
  refine ⟨?_, fun f' g' hf' hg' v => ?_⟩
  · rw [restricts_iff hf, restricts_iff hg]
  · cases hf.symm.trans hf'
    cases hg.symm.trans hg'
    rfl

theorem selectsYear_of_not_restricts (h : ¬ e.Restricts .year) (year : Nat) :
    e.selectsYear year = true := by
  rw [selectsYear]
  cases hy : e.year with
  | none => rfl
  | some f => exact Bool.or_eq_true_iff.mpr (.inl (isUnrestricted_of_not_restricts h hy))

theorem AgreeAt.selectsYear_eq (h : AgreeAt a b .year) (year : Nat) :
    a.selectsYear year = b.selectsYear year := by
  by_cases hr : a.Restricts .year
  · obtain ⟨f, hf, hu⟩ := hr
    obtain ⟨g, hg, hu'⟩ := h.restricts.mp ⟨f, hf, hu⟩
    have hfy : a.year = some f := hf
    have hgy : b.year = some g := hg
    simp only [selectsYear, hfy, hgy, hu, hu', h.selects f g hf hg]
  · rw [selectsYear_of_not_restricts hr, selectsYear_of_not_restricts (mt h.restricts.mpr hr)]

theorem selects_congr (hmode : a.mode = b.mode) (h : ∀ slot ∈ a.mode.slots, AgreeAt a b slot)
    (c : Civil) : a.selects c = b.selects c := by
  have hslots : ∀ slot, slot ≠ .second → slot ∈ a.mode.slots := by
    intro slot hs
    cases a.mode <;> cases slot <;> simp_all [Mode.slots]
  have hminute := (h .minute (hslots _ (by decide))).selects _ _ rfl rfl
  have hhour := (h .hour (hslots _ (by decide))).selects _ _ rfl rfl
  have hmonth := (h .month (hslots _ (by decide))).selects _ _ rfl rfl
  have hyear := (h .year (hslots _ (by decide))).selectsYear_eq
  have hdom := h .dayOfMonth (hslots _ (by decide))
  have hdow := h .dayOfWeek (hslots _ (by decide))
  have hsecond : (decide (a.mode = .minutes) || a.second.selects c.second) =
      (decide (b.mode = .minutes) || b.second.selects c.second) := by
    rw [← hmode]
    cases hm : a.mode with
    | minutes => rfl
    | seconds =>
      have hmem : Slot.second ∈ a.mode.slots := by
        rw [hm]
        decide
      rw [(h .second hmem).selects _ _ rfl rfl]
  simp only [selects, selectsDay, hsecond, hminute, hhour, hmonth, hyear,
    hdom.isUnrestricted_eq rfl rfl, hdow.isUnrestricted_eq rfl rfl, hdom.selects _ _ rfl rfl,
    hdow.selects _ _ rfl rfl]

end Expression

end CronSchedule
