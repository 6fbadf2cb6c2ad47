import CronSchedule.Description.Sentence
import CronSchedule.Proofs.Expression.Restriction

/-!
What a description has to say of each field: nothing of a field that is open, and the elements of any
other field of a valid expression.
-/

namespace CronSchedule

namespace Locale

variable (l : Locale)

theorem listing_concat {xs : List String} (h : xs ≠ []) (y : String) :
    l.listing (xs ++ [y]) = (Message.listSeparator.say l []).intercalate xs ++
      (Message.listLastSeparator.say l [] ++ y) := by
  obtain ⟨p, q, hpq⟩ := List.exists_cons_of_ne_nil (mt List.reverse_eq_nil_iff.mp h)
  have hxs : (p :: q).reverse = xs := by rw [← hpq, List.reverse_reverse]
  have hall : (xs ++ [y]).reverse = y :: p :: q := by
    rw [List.reverse_append, hpq]
    rfl
  simp only [listing, hall, hxs, String.append_assoc]

theorem listing_pair (x y : String) :
    l.listing [x, y] = x ++ (Message.listLastSeparator.say l [] ++ y) :=
  listing_concat l (List.cons_ne_nil x []) y

theorem listing_cons_cons_cons (x y z : String) (xs : List String) :
    l.listing (x :: y :: z :: xs) =
      x ++ (Message.listSeparator.say l [] ++ l.listing (y :: z :: xs)) := by
  obtain ⟨ys, last, hlast⟩ : ∃ ys last, z :: xs = ys ++ [last] :=
    ⟨_, _, (List.dropLast_append_getLast (List.cons_ne_nil z xs)).symm⟩
  have hinner := l.listing_concat (List.cons_ne_nil y ys) last
  have houter := l.listing_concat (List.cons_ne_nil x (y :: ys)) last
  rw [List.cons_append] at hinner
  rw [List.cons_append, List.cons_append] at houter
  rw [hlast, houter, hinner, String.intercalate_cons_cons]
  simp only [String.append_assoc]

end Locale

namespace Field

/-- The field of a slot that lists elements which fit. -/
structure Lists (f : Field) (slot : Slot) (es : List Element) : Prop where
  slot_eq : f.slot = slot
  reading : ∃ vs, f.reading = .listed es vs
  isList : Token.IsList f.token.toList es
  fits : ∀ e ∈ es, e.Fits slot.accepted

variable {slot : Slot} {f : Field} {es : List Element}

theorem Lists.ne_nil (h : f.Lists slot es) : es ≠ [] :=
  h.isList.1

theorem Lists.isUnrestricted (h : f.Lists slot es) : f.isUnrestricted = false := by
  obtain ⟨vs, hr⟩ := h.reading
  simp [Field.isUnrestricted, hr]

theorem Lists.fragment? (h : f.Lists slot es) (l : Locale) : f.fragment? l = some (f.phrase l es) := by
  obtain ⟨vs, hr⟩ := h.reading
  rw [Field.fragment?, hr]

theorem fragment?_of_isUnrestricted (h : f.isUnrestricted = true) (l : Locale) :
    f.fragment? l = none := by
  rw [fragment?, of_decide_eq_true h]

theorem isUnrestricted_or_lists (hr : read slot f.token = .ok f) (ha : slot.Accepts f.token) :
    f.isUnrestricted = true ∨ ∃ es, f.Lists slot es := by
  obtain ⟨⟨hs, -⟩, ⟨-, hu⟩ | ⟨ho, es, hes, hl⟩ | ⟨hn, -⟩⟩ := read_cases hr
  · exact .inl (decide_eq_true hu)
  · obtain ⟨hlist, hfits⟩ := (Token.elements_eq_ok_iff slot.accepted_low_le_high).mp hes
    exact .inr ⟨es, hs, ⟨_, hl⟩, hlist, hfits⟩
  · exact absurd ha hn

theorem shape_cases (f : Field) (es : List Element) :
    (∃ base step, es = [.stepped base step]) ∨
      (∀ base step, es = [.stepped base step] → False) ∧
        (f.isWorkingDays = true ∨ ¬ f.isWorkingDays = true) := by
  by_cases hstep : ∃ base step, es = [.stepped base step]
  · exact .inl hstep
  · exact .inr ⟨fun base step h => hstep ⟨base, step, h⟩, Decidable.em _⟩

/-- A field is said as a single step, or as the working days, or as a list of its elements. -/
theorem phrase_cases (l : Locale) (f : Field) (es : List Element) :
    (∃ base step, es = [.stepped base step] ∧ f.phrase l es = base.stepPhrase l f.slot step) ∨
      (f.isWorkingDays = true ∧ f.phrase l es = Message.onWeekdays.say l []) ∨
      (∀ base step, es ≠ [.stepped base step]) ∧
        f.phrase l es = (if Element.isOne es then f.slot.one else f.slot.many).say l
          [(.values, l.listing (es.map (·.phrase l f.slot)))] := by
  rcases f.shape_cases es with ⟨base, step, rfl⟩ | ⟨hplain, hdays | hdays⟩
  · exact .inl ⟨base, step, rfl, rfl⟩
  · rw [phrase.eq_2 l f es hplain, if_pos hdays]
    exact .inr (.inl ⟨hdays, rfl⟩)
  · rw [phrase.eq_2 l f es hplain, if_neg hdays]
    exact .inr (.inr ⟨hplain, rfl⟩)

theorem slot_of_isWorkingDays (h : f.isWorkingDays = true) : f.slot = .dayOfWeek :=
  of_decide_eq_true (Bool.and_eq_true_iff.mp h).1

theorem Lists.mem_values_iff (h : f.Lists slot es) (hr : read slot f.token = .ok f)
    (ha : slot.Accepts f.token) {v : Int} :
    v ∈ f.values ↔ ∃ n, (∃ e ∈ es, e.Selects slot.accepted n) ∧ slot.canonical n = v := by
  have ho : ¬ slot.LeavesOpen f.token := by
    rw [← isUnrestricted_iff hr, h.isUnrestricted]
    exact Bool.false_ne_true
  rw [Field.mem_values_iff hr ho ha]
  refine exists_congr fun n => and_congr_left fun _ => ⟨fun hs => ?_, fun hs => ⟨es, h.isList, hs⟩⟩
  obtain ⟨es', hes', hs⟩ := hs
  exact h.isList.unique hes' ▸ hs

end Field

namespace Expression

/-- What the field in a slot adds to a description. -/
def fragmentAt? (l : Locale) (e : Expression) (slot : Slot) : Option String :=
  (e.field? slot).bind (·.fragment? l)

theorem describe_of_isValid {e : Expression} (hv : e.isValid = true) (l : Locale) :
    e.describe l = .ok (e.sentence l) := by
  rw [describe, requireValid, if_pos hv]
  rfl

theorem written_eq_filterMap (e : Expression) : e.written = e.mode.slots.filterMap e.field? := by
  cases hm : e.mode <;> cases hy : e.year <;>
    simp [written, hm, hy, fields, baseFields, Mode.slots, field?]

theorem fragments_eq_filterMap (l : Locale) (e : Expression) :
    e.fragments l = e.mode.slots.filterMap (e.fragmentAt? l) := by
  rw [fragments, written_eq_filterMap, List.filterMap_filterMap]
  rfl

variable {source : String} {mode : Mode} {e : Expression} {slot : Slot}

/-- A field of a valid expression that is not open lists elements which fit. -/
theorem Restricts.exists_lists (hr : e.Restricts slot) (h : parse source mode = .ok (.expression e))
    (hv : e.isValid = true) : ∃ f es, e.field? slot = some f ∧ f.Lists slot es := by
  obtain ⟨f, hf, hu⟩ := hr
  obtain ⟨hread, ha⟩ := read_of_isValid h hv hf
  rcases Field.isUnrestricted_or_lists hread ha with hopen | ⟨es, hes⟩
  · exact absurd (hu.symm.trans hopen) Bool.false_ne_true
  · exact ⟨f, es, hf, hes⟩

theorem fragmentAt?_of_not_restricts (hr : ¬ e.Restricts slot) (l : Locale) :
    e.fragmentAt? l slot = none := by
  rw [fragmentAt?, Option.bind_eq_none_iff]
  intro f hf
  exact Field.fragment?_of_isUnrestricted (isUnrestricted_of_not_restricts hr hf) l

end Expression

end CronSchedule
