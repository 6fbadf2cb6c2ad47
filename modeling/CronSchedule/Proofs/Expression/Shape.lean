import CronSchedule.Expression.FieldMap
import CronSchedule.Proofs.Association
import CronSchedule.Proofs.Expression.NormalForm
import CronSchedule.Proofs.Expression.Values

/-!
The shape of an expression that was read from a text, valid or not: a field for each token in slot order, with
ascending values within the bounds of its slot (`isWellFormed_of_parse`). So the fields of such an expression
can be looked up by their slots, and none is missed where it is told whether the schedule fires.
-/

namespace CronSchedule

theorem Slot.name_injective : Function.Injective Slot.name := by
  intro s t h
  have hname := congrArg ofName? h
  rw [ofName?_name, ofName?_name] at hname
  exact Option.some.inj hname

/-- Of fields for different slots each is found by its slot. -/
theorem FieldMap.lookup_ofFields_eq_some_iff {fs : List Field} (h : (fs.map (·.slot)).Nodup)
    {slot : Slot} {f : Field} : (ofFields fs).lookup slot = some f ↔ f ∈ fs ∧ f.slot = slot := by
  have hkeys : ((fs.map fun f => (f.slot, f)).map (·.1)).Nodup := by
    rw [List.map_map]
    exact h
  rw [ofFields, Association.lookup_ofList, Association.last?_of_nodup hkeys]
  constructor
  · intro hf
    obtain ⟨g, hg, heq⟩ := List.mem_map.mp (Association.mem_of_lookup hf)
    obtain ⟨hslot, rfl⟩ := Prod.mk.inj heq
    exact ⟨hg, hslot⟩
  · intro hf
    obtain ⟨hmem, rfl⟩ := hf
    exact Association.lookup_of_mem (e := (f.slot, f)) hkeys (List.mem_map_of_mem hmem)

theorem FieldMap.get_eq_ok_iff {m : FieldMap} {slot : Slot} {f : Field} :
    m.get slot = .ok f ↔ m.lookup slot = some f := by
  rw [get]
  cases m.lookup slot with
  | none => exact iff_of_false nofun nofun
  | some g => rw [Except.ok.injEq, Option.some.injEq]

namespace Field

variable {slot : Slot} {token : String} {f : Field}

theorem values_eq_nil_iff (h : read slot token = .ok f) : f.values = [] ↔ f.fault? ≠ none := by
  rw [ne_eq, fault?_eq_none_iff h]
  constructor
  · intro hnil ha
    obtain ⟨v, hv⟩ := exists_mem_values h ha
    rw [hnil] at hv
    cases hv
  · intro hn
    obtain ⟨-, ⟨ho, -⟩ | ⟨-, es, hes, -⟩ | ⟨-, fault, hr⟩⟩ := read_cases h
    · exact absurd (.inl ho) hn
    · exact absurd (.inr ((Token.accepts_iff slot.accepted_low_le_high).mpr ⟨es, hes⟩)) hn
    · rw [values, hr]

theorem values_of_isUnrestricted (hf : f.isUnrestricted = true) : f.values = f.slot.bounds.toList := by
  rw [values, of_decide_eq_true hf]

/-- The values of a field ascend within the bounds of its slot. There are none exactly if the field is reported
as an issue, and all that there can be if it is left open. -/
structure IsWellFormed (report : Report) (f : Field) : Prop where
  ascending : f.values.Pairwise (· < ·)
  within : ∀ v ∈ f.values, f.slot.bounds.low ≤ v ∧ v ≤ f.slot.bounds.high
  values_eq_nil_iff : f.values = [] ↔ report.issuesOf f.slot.name ≠ []
  isUnrestricted_iff : f.isUnrestricted = true ↔ f.slot.LeavesOpen f.token
  full : f.isUnrestricted = true → f.values = f.slot.bounds.toList

end Field

open Expression

/-- What an expression is made of that was read from a text. -/
structure Expression.IsWellFormed (source : String) (mode : Mode) (e : Expression) : Prop where
  takes : mode.Takes (tokens source).length
  slots : e.fields.map (·.slot) =
    [.second, .minute, .hour, .dayOfMonth, .month, .dayOfWeek] ++
      if (tokens source).length = mode.size + 1 then [.year] else []
  nodup : (e.fields.map (·.slot)).Nodup
  tokens : e.fields.map (·.token) = slotTokens mode (tokens source)
  second : mode = .minutes → e.fields.head? = some e.second ∧ e.second.token = "0" ∧
    e.second.values = [0] ∧ e.report.issuesOf Slot.second.name = []
  fields : ∀ f ∈ e.fields, f.IsWellFormed e.report
  lookup : ∀ slot, e.fieldMap.lookup slot = e.field? slot

variable {source : String} {mode : Mode} {e : Expression} {slot : Slot} {f : Field}

theorem map_slot_fields (h : parse source mode = .ok (.expression e)) :
    e.fields.map (·.slot) = (filled source mode).map Prod.fst :=
  map_fields_of_parse h fun _ _ _ => Field.slot_of_read

theorem map_fst_zip_eq_take {α β : Type} (xs : List α) (ys : List β) :
    (xs.zip ys).map Prod.fst = xs.take ys.length := by
  induction xs generalizing ys with
  | nil => rw [List.zip_nil_left, List.map_nil, List.take_nil]
  | cons x xs ih =>
    cases ys with
    | nil => rfl
    | cons y ys => rw [List.zip_cons_cons, List.map_cons, ih, List.length_cons, List.take_succ_cons]

theorem map_fst_filled (hn : mode.Takes (tokens source).length) :
    (filled source mode).map Prod.fst =
      [.second, .minute, .hour, .dayOfMonth, .month, .dayOfWeek] ++
        if (tokens source).length = mode.size + 1 then [.year] else [] := by
  have hyear : (tokens source).length = mode.size + 1 ↔
      (slotTokens mode (tokens source)).length = 7 := by
    cases mode <;> simp [slotTokens, Mode.size]
  rw [filled, map_fst_zip_eq_take]
  simp only [hyear]
  rcases takes_iff.mp hn with hn | hn
  · rw [hn]
    rfl
  · rw [hn]
    rfl

theorem nodup_slots (h : parse source mode = .ok (.expression e)) : (e.fields.map (·.slot)).Nodup := by
  rw [map_slot_fields h, map_fst_filled (forall₂_fields_of_parse h).1]
  split <;> decide

theorem field?_eq_some_iff (h : parse source mode = .ok (.expression e)) :
    e.field? slot = some f ↔ f ∈ e.fields ∧ f.slot = slot := by
  constructor
  · intro hf
    exact ⟨mem_fields_of_field? hf, Field.slot_of_read (read_of_field? h hf).2⟩
  · intro hf
    obtain ⟨hmem, rfl⟩ := hf
    obtain ⟨w, hw, hr⟩ := exists_read_of_mem_fields h hmem
    rw [Field.slot_of_read hr]
    exact (field?_of_parse h).mpr ⟨w.2, hw, hr⟩

theorem lookup_fieldMap (h : parse source mode = .ok (.expression e)) (slot : Slot) :
    e.fieldMap.lookup slot = e.field? slot := by
  apply Option.ext
  intro f
  rw [field?_eq_some_iff h, fieldMap, FieldMap.lookup_ofFields_eq_some_iff (nodup_slots h)]

/-- The report has an issue for the slot of a field exactly if that field is at fault. -/
theorem issuesOf_ne_nil_iff (h : parse source mode = .ok (.expression e)) (hf : e.field? slot = some f) :
    e.report.issuesOf slot.name ≠ [] ↔ f.fault? ≠ none := by
  rw [Option.ne_none_iff_exists']
  constructor
  · intro hne
    obtain ⟨i, hi⟩ := List.exists_mem_of_ne_nil _ hne
    obtain ⟨hissue, hname⟩ := List.mem_filter.mp hi
    obtain ⟨g, hg, hissue⟩ := List.mem_filterMap.mp hissue
    obtain ⟨fault, hfault, rfl⟩ := Option.map_eq_some_iff.mp hissue
    have hslot : g.slot = slot := Slot.name_injective (Option.some.inj (of_decide_eq_true hname))
    have hfield := (field?_eq_some_iff h).mpr ⟨hg, hslot⟩
    cases hf.symm.trans hfield
    exact ⟨fault, hfault⟩
  · intro hx
    obtain ⟨fault, hfault⟩ := hx
    obtain ⟨hmem, rfl⟩ := (field?_eq_some_iff h).mp hf
    have hissue : Issue.field f.slot f.token fault ∈ e.report.issues :=
      List.mem_filterMap.mpr ⟨f, hmem, by rw [hfault, Option.map_some]⟩
    exact List.ne_nil_of_mem (List.mem_filter.mpr ⟨hissue, decide_eq_true rfl⟩)

theorem issuesOf_ne_nil_iff_values (h : parse source mode = .ok (.expression e))
    (hf : e.field? slot = some f) : e.report.issuesOf slot.name ≠ [] ↔ f.values = [] := by
  rw [issuesOf_ne_nil_iff h hf, Field.values_eq_nil_iff (read_of_field? h hf).2]

theorem isWellFormed_of_mem_fields (h : parse source mode = .ok (.expression e)) (hf : f ∈ e.fields) :
    f.IsWellFormed e.report := by
  have hfield : e.field? f.slot = some f := (field?_eq_some_iff h).mpr ⟨hf, rfl⟩
  have hr := (read_of_field? h hfield).2
  refine ⟨Field.pairwise_values hr, fun v hv => ?_, (issuesOf_ne_nil_iff_values h hfield).symm,
    Field.isUnrestricted_iff hr, Field.values_of_isUnrestricted⟩
  have ha : f.slot.Accepts f.token := by
    rw [← Field.fault?_eq_none_iff hr]
    by_contra hfault
    rw [(Field.values_eq_nil_iff hr).mpr hfault] at hv
    cases hv
  exact Field.within_of_mem_values hr ha hv

theorem second_of_parse (h : parse source .minutes = .ok (.expression e)) :
    e.second.token = "0" ∧ e.second.values = [0] ∧ e.report.issuesOf Slot.second.name = [] := by
  have hf : e.field? .second = some e.second := rfl
  have htoken : "0" = e.second.token := eq_token_of_mem_filled h hf List.mem_cons_self
  have hr := (read_of_field? h hf).2
  rw [← htoken] at hr
  have hread : ∃ reading, Field.read .second "0" = .ok ⟨.second, "0", reading⟩ ∧
      Field.values ⟨.second, "0", reading⟩ = [0] := ⟨_, rfl, rfl⟩
  obtain ⟨reading, hread, hvalues⟩ := hread
  rw [Except.ok.inj (hread.symm.trans hr)] at hvalues
  refine ⟨htoken.symm, hvalues, ?_⟩
  by_contra hissues
  rw [(issuesOf_ne_nil_iff_values h hf).mp hissues] at hvalues
  cases hvalues

theorem isWellFormed_of_parse (h : parse source mode = .ok (.expression e)) :
    e.IsWellFormed source mode where
  takes := (forall₂_fields_of_parse h).1
  slots := by rw [map_slot_fields h, map_fst_filled (forall₂_fields_of_parse h).1]
  nodup := nodup_slots h
  tokens := map_token_fields h
  second hm := by
    subst hm
    exact ⟨rfl, second_of_parse h⟩
  fields _ := isWellFormed_of_mem_fields h
  lookup := lookup_fieldMap h

/-! ## Looking fields up -/

theorem get_fieldMap (h : parse source mode = .ok (.expression e)) (hf : e.field? slot = some f) :
    e.fieldMap.get slot = .ok f := by
  rw [FieldMap.get_eq_ok_iff, lookup_fieldMap h, hf]

theorem holds_fieldMap (h : parse source mode = .ok (.expression e)) (hf : e.field? slot = some f)
    (n : Nat) : e.fieldMap.holds slot n = .ok (f.selects n) := by
  rw [FieldMap.holds, get_fieldMap h hf]
  rfl

theorem selectsDay_fieldMap (h : parse source mode = .ok (.expression e)) (d : Date) :
    e.fieldMap.selectsDay d = .ok (e.selectsDay d) := by
  have hdom : e.fieldMap.get .dayOfMonth = .ok e.dayOfMonth := get_fieldMap h rfl
  have hdow : e.fieldMap.get .dayOfWeek = .ok e.dayOfWeek := get_fieldMap h rfl
  simp only [FieldMap.selectsDay, hdom, hdow, Expression.selectsDay, bind, Except.bind]
  cases e.dayOfMonth.isUnrestricted <;> cases e.dayOfWeek.isUnrestricted <;> rfl

theorem selectsYear_fieldMap (h : parse source mode = .ok (.expression e)) (year : Nat) :
    e.fieldMap.selectsYear year = e.selectsYear year := by
  rw [FieldMap.selectsYear, lookup_fieldMap h]
  rfl

/-- The numbers of a reading are checked as by the fields themselves. -/
theorem allM_checks (h : parse source mode = .ok (.expression e)) (c : Civil) :
    ((FieldMap.checks mode c).allM fun w => e.fieldMap.holds w.1 w.2) =
      .ok ((e.mode = .minutes || e.second.selects c.second) && e.minute.selects c.minute &&
        e.hour.selects c.hour && e.month.selects c.date.month) := by
  have hsecond : e.fieldMap.holds .second c.second = .ok (e.second.selects c.second) :=
    holds_fieldMap h rfl _
  have hminute : e.fieldMap.holds .minute c.minute = .ok (e.minute.selects c.minute) :=
    holds_fieldMap h rfl _
  have hhour : e.fieldMap.holds .hour c.hour = .ok (e.hour.selects c.hour) := holds_fieldMap h rfl _
  have hmonth : e.fieldMap.holds .month c.date.month = .ok (e.month.selects c.date.month) :=
    holds_fieldMap h rfl _
  rw [mode_of_parse h]
  cases mode with
  | minutes =>
    simp only [FieldMap.checks, List.nil_append, List.allM_cons, List.allM_nil, hminute, hhour, hmonth]
    cases e.minute.selects c.minute <;> cases e.hour.selects c.hour <;>
      cases e.month.selects c.date.month <;> rfl
  | seconds =>
    simp only [FieldMap.checks, List.cons_append, List.nil_append, List.allM_cons, List.allM_nil,
      hsecond, hminute, hhour, hmonth]
    cases e.second.selects c.second <;> cases e.minute.selects c.minute <;>
      cases e.hour.selects c.hour <;> cases e.month.selects c.date.month <;> rfl

theorem selects_fieldMap (h : parse source mode = .ok (.expression e)) (c : Civil) :
    e.fieldMap.selects mode c = .ok (e.selects c) := by
  rw [FieldMap.selects, allM_checks h, selectsYear_fieldMap h, selectsDay_fieldMap h, Expression.selects]
  generalize ((e.mode = .minutes || e.second.selects c.second) && e.minute.selects c.minute &&
    e.hour.selects c.hour && e.month.selects c.date.month) = checked
  cases checked <;> cases e.selectsYear c.date.year <;> rfl

theorem fires?_of_parse (h : parse source mode = .ok (.expression e)) (c : Civil) :
    e.fires? c = (e.matches? c).mapError .rejected := by
  rw [fires?, matches?, mode_of_parse h, selects_fieldMap h, requireValid]
  split <;> rfl

theorem seven_notMem_values (h : parse source mode = .ok (.expression e)) : 7 ∉ e.dayOfWeek.values := by
  have hf : e.field? .dayOfWeek = some e.dayOfWeek := rfl
  obtain ⟨hmem, hslot⟩ := (field?_eq_some_iff h).mp hf
  intro h7
  have hwithin := (isWellFormed_of_mem_fields h hmem).within 7 h7
  rw [hslot] at hwithin
  exact absurd hwithin.2 (by decide)

/-- An expression that was read has a field for each token in slot order, and one for second 0 in minutes mode.
The values of each ascend within its slot, where the week ends on day 6; only a field that is reported as an
issue has none. All fields that are looked up to tell whether the schedule fires are found. -/
theorem shape_of_parse (h : parse source mode = .ok (.expression e)) :
    e.IsWellFormed source mode ∧ 7 ∉ e.dayOfWeek.values ∧
      ∀ c, e.fieldMap.selects mode c = .ok (e.selects c) ∧
        e.fires? c = (e.matches? c).mapError .rejected :=
  ⟨isWellFormed_of_parse h, seven_notMem_values h, fun c => ⟨selects_fieldMap h c, fires?_of_parse h c⟩⟩

/-- An hour that is out of range, a Sunday written as 7, and a year. -/
theorem shape_of_parse_with_issue :
    ∃ e, parse "*/15 24 ? * 1,7 2024" .minutes = .ok (.expression e) ∧
      e.fields.map (·.slot) = Slot.all ∧ e.second.values = [0] ∧ e.hour.values = [] ∧
      e.dayOfWeek.values = [0, 1] ∧ e.dayOfMonth.isUnrestricted = true ∧
      e.IsWellFormed "*/15 24 ? * 1,7 2024" .minutes ∧
      ∀ c, e.fieldMap.selects .minutes c = .ok (e.selects c) := by
  have hparse : ∃ e, parse "*/15 24 ? * 1,7 2024" .minutes = .ok (.expression e) ∧
      e.fields.map (·.slot) = Slot.all ∧ e.second.values = [0] ∧ e.hour.values = [] ∧
      e.dayOfWeek.values = [0, 1] ∧ e.dayOfMonth.isUnrestricted = true :=
    ⟨_, rfl, rfl, rfl, rfl, rfl, rfl⟩
  obtain ⟨e, hparse, hslots, hsecond, hhour, hweek, hopen⟩ := hparse
  obtain ⟨hshape, -, hlookup⟩ := shape_of_parse hparse
  exact ⟨e, hparse, hslots, hsecond, hhour, hweek, hopen, hshape, fun c => (hlookup c).1⟩

end CronSchedule
