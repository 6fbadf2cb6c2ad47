import CronSchedule.Description.Rereading
import CronSchedule.Proofs.Description.Elements
import CronSchedule.Proofs.Message.Template
import CronSchedule.Proofs.Number.DecimalText

/-!
Valid expressions are told from their tokens without fail. Main statement: what is told is the description,
and only an expression that is not valid has none (`Expression.retell_of_parse`).
-/

namespace CronSchedule

/-- What a base is read as once more. -/
def Base.bare : Base → BareBase
  | every => .every
  | single n => .single n.value
  | span first last => .span first.value last.value

def Element.bare : Element → BarePart
  | plain base => .plain base.bare
  | stepped base step => .stepped base.bare step.digits

/-- The numbers of the base lie within the bounds. -/
def BareBase.Within (b : Bounds) : BareBase → Prop
  | every => True
  | single n => b.low ≤ n ∧ n ≤ b.high
  | span first last => (b.low ≤ first ∧ first ≤ b.high) ∧ b.low ≤ last ∧ last ≤ b.high

def BarePart.Within (b : Bounds) : BarePart → Prop
  | plain base => base.Within b
  | stepped base _ => base.Within b

theorem Slot.bounds_within_accepted (slot : Slot) :
    slot.accepted.low ≤ slot.bounds.low ∧ slot.bounds.low ≤ slot.bounds.high ∧
      slot.bounds.high ≤ slot.accepted.high := by
  cases slot <;> decide

variable {l : Locale} {slot : Slot} {base : Base} {e : Element} {m : Message} {b : Bindings}

namespace BareBase

theorem integer_digits (n : Numeral) : integer n.digits = .ok (n.value : Int) := by
  rw [integer, DecimalText.readInt?_digits]

theorem halves_append {mark : Char} {s t : List Char} (hs : mark ∉ s) (ht : mark ∉ t) :
    halves mark (s ++ mark :: t) = .ok (s, t) := by
  rw [halves, Text.pieces_pair hs ht]

theorem read_text (base : Base) : read base.text = .ok base.bare := by
  have hstar (hne : base ≠ .every) : base.text ≠ ['*'] := fun h =>
    hne (Base.star_mem_text.mp (h ▸ List.mem_singleton_self _))
  cases base with
  | every => rfl
  | single n =>
    have hdash : '-' ∉ (Base.single n).text := n.not_mem_digits (by decide)
    rw [read, if_neg (hstar fun h => by cases h), if_neg hdash, Base.text, integer_digits]
    rfl
  | span first last =>
    have hdash : '-' ∈ (Base.span first last).text := Base.dash_mem_text.mpr ⟨first, last, rfl⟩
    have hhalves := halves_append (first.not_mem_digits (by decide : '-'.isDigit = false))
      (last.not_mem_digits (by decide))
    rw [read, if_neg (hstar fun h => by cases h), if_pos hdash, Base.text, hhalves]
    simp only [bind, Except.bind, integer_digits]
    rfl

theorem within_bare {b : Bounds} (h : base.Fits b) : base.bare.Within b := by
  cases base with
  | every => trivial
  | single n => exact h
  | span first last =>
    obtain ⟨hlow, hle, hhigh⟩ := h
    exact ⟨⟨hlow, by omega⟩, by omega, hhigh⟩

end BareBase

theorem BarePart.read_text (e : Element) : read e.text = .ok e.bare := by
  cases e with
  | plain base =>
    have hslash : '/' ∉ (Element.plain base).text := base.slash_notMem_text
    rw [read, if_neg hslash, Element.text, BareBase.read_text]
    rfl
  | stepped base step =>
    have hslash : '/' ∈ (Element.stepped base step).text := Element.slash_mem_text.mpr ⟨base, step, rfl⟩
    rw [read, if_pos hslash, Element.text,
      BareBase.halves_append base.slash_notMem_text (step.not_mem_digits (by decide))]
    simp only [bind, Except.bind, BareBase.read_text]
    rfl

theorem BarePart.within_bare {b : Bounds} (h : e.Fits b) : e.bare.Within b := by
  cases e with
  | plain base => exact BareBase.within_bare h
  | stepped base step => exact BareBase.within_bare h.isFormed.1

namespace Locale

theorem tell_eq (h : (m.template l).missing? b = none) : l.tell m b = .ok (m.say l b) := by
  rw [tell, Template.fillNamed_named h]
  rfl

theorem tell_nil (l : Locale) (m : Message) : l.tell m [] = .ok (m.say l []) := rfl

theorem tell_range (l : Locale) (x y : String) :
    l.tell .range [(.start, x), (.stop, y)] = .ok (l.through x y) :=
  tell_eq (by cases l <;> rfl)

theorem tell_values (l : Locale) (slot : Slot) (one : Bool) (x : String) :
    l.tell (if one then slot.one else slot.many) [(.values, x)] =
      .ok ((if one then slot.one else slot.many).say l [(.values, x)]) :=
  tell_eq (by cases slot <;> cases one <;> cases l <;> rfl)

theorem tellUnit_eq (l : Locale) (slot : Slot) : l.tellUnit slot = .ok (l.stepUnit slot) := by
  rw [tellUnit, stepUnitOf?, Slot.ofName?_name]
  rfl

/-- A number that the slot accepts has a name, without counting round from the end of the months. -/
theorem tellValue_eq {n : Int} (h : slot.accepted.low ≤ n ∧ n ≤ slot.accepted.high) :
    l.tellValue slot n = .ok (l.value slot n) := by
  rw [tellValue, valueOf?, Slot.ofName?_name]
  cases slot
  case month =>
    obtain ⟨hlow, hhigh⟩ : 1 ≤ n ∧ n ≤ 12 := h
    simp only [month?, if_pos (show -11 ≤ n ∧ n ≤ 12 by omega)]
    rfl
  all_goals rfl

end Locale

theorem BareBase.tell_bare (h : base.Fits slot.accepted) :
    base.bare.tell l slot = .ok (base.phrase l slot) := by
  cases base with
  | every =>
    obtain ⟨hlow, hle, hhigh⟩ := slot.bounds_within_accepted
    have hstart : l.tellValue slot slot.bounds.low = _ := Locale.tellValue_eq ⟨hlow, by omega⟩
    have hstop : l.tellValue slot slot.bounds.high = _ := Locale.tellValue_eq ⟨by omega, hhigh⟩
    simp only [Base.bare, tell, bind, Except.bind, hstart, hstop, Locale.tell_range]
    rfl
  | single n => exact Locale.tellValue_eq h
  | span first last =>
    obtain ⟨hfirst, hlast⟩ := BareBase.within_bare h
    have hstart : l.tellValue slot first.value = _ := Locale.tellValue_eq hfirst
    have hstop : l.tellValue slot last.value = _ := Locale.tellValue_eq hlast
    simp only [Base.bare, tell, bind, Except.bind, hstart, hstop, Locale.tell_range]
    rfl

theorem BareBase.tellStep_bare (h : base.Fits slot.accepted) (step : Numeral) :
    base.bare.tellStep l slot step.digits = .ok (base.stepPhrase l slot step) := by
  rw [tellStep, Locale.tellUnit_eq]
  cases base with
  | every => exact Locale.tell_eq (by cases l <;> rfl)
  | single n =>
    have hstart : l.tellValue slot n.value = _ := Locale.tellValue_eq h
    simp only [Base.bare, bind, Except.bind, hstart]
    exact Locale.tell_eq (by cases l <;> rfl)
  | span first last =>
    obtain ⟨hfirst, hlast⟩ := BareBase.within_bare h
    have hstart : l.tellValue slot first.value = _ := Locale.tellValue_eq hfirst
    have hstop : l.tellValue slot last.value = _ := Locale.tellValue_eq hlast
    simp only [Base.bare, bind, Except.bind, hstart, hstop]
    exact Locale.tell_eq (by cases l <;> rfl)

namespace BarePart

theorem retell_text (h : e.Fits slot.accepted) : retell l slot e.text = .ok (e.phrase l slot) := by
  rw [retell, read_text]
  cases e with
  | plain base => exact BareBase.tell_bare h
  | stepped base step => exact BareBase.tellStep_bare h.isFormed.1 step

theorem isOne_text {es : List Element} (h : ∀ base step, es = [.stepped base step] → False) :
    isOne (es.map Element.text) = Element.isOne es := by
  match es with
  | [] => rfl
  | [.plain .every] => rfl
  | [.plain (.single n)] =>
    have hdash : '-' ∉ n.digits := n.not_mem_digits (by decide)
    have hstar : n.digits ≠ ['*'] := fun hs =>
      n.not_mem_digits (by decide : '*'.isDigit = false) (hs ▸ List.mem_singleton_self _)
    simp [isOne, Element.isOne, Element.text, Base.text, hdash, hstar]
  | [.plain (.span first last)] => simp [isOne, Element.isOne, Element.text, Base.text]
  | [.stepped base step] => exact (h base step rfl).elim
  | _ :: _ :: _ => simp [isOne, Element.isOne]

end BarePart

namespace Field

variable {f : Field} {es : List Element}

theorem Lists.retellList (h : f.Lists slot es)
    (hplain : ∀ base step, es = [.stepped base step] → False) :
    f.retellList l (es.map Element.text) = .ok (f.phrase l es) := by
  have hitems : (es.map Element.text).mapM (BarePart.retell l f.slot) =
      .ok (es.map (·.phrase l f.slot)) := by
    rw [mapM_eq_ok, List.forall₂_map_left_iff, List.forall₂_map_right_iff, List.forall₂_same]
    exact fun e he => BarePart.retell_text (h.slot_eq ▸ h.fits e he)
  rw [Field.retellList, phrase.eq_2 l f es hplain]
  split
  · exact Locale.tell_nil l .onWeekdays
  · simp only [bind, Except.bind, hitems, BarePart.isOne_text hplain]
    exact Locale.tell_values l f.slot _ _

/-- A field that lists elements which fit is told as it is described. -/
theorem Lists.retell (h : f.Lists slot es) : f.retell l = .ok (f.phrase l es) := by
  have hpieces := Token.isList_iff.mp h.isList
  rcases f.shape_cases es with ⟨base, step, rfl⟩ | ⟨hplain, -⟩
  · have hslash : '/' ∈ (Element.stepped base step).text := Element.slash_mem_text.mpr ⟨base, step, rfl⟩
    have hfits := h.fits _ List.mem_cons_self
    rw [Field.retell, hpieces]
    simp only [List.map_cons, List.map_nil, if_pos hslash]
    exact BarePart.retell_text (h.slot_eq ▸ hfits)
  · rw [← h.retellList hplain, Field.retell, hpieces]
    match es with
    | [] => exact absurd rfl h.ne_nil
    | [.plain base] =>
      have hslash : '/' ∉ (Element.plain base).text := base.slash_notMem_text
      simp only [List.map_cons, List.map_nil, if_neg hslash]
    | [.stepped base step] => exact (hplain base step rfl).elim
    | _ :: _ :: _ => rfl

theorem Lists.exists_mapM_read (h : f.Lists slot es) :
    ∃ parts, (Text.pieces ',' f.token.toList).mapM BarePart.read = .ok parts ∧
      ∀ part ∈ parts, part.Within slot.accepted := by
  refine ⟨es.map Element.bare, ?_, ?_⟩
  · rw [Token.isList_iff.mp h.isList, mapM_eq_ok, List.forall₂_map_left_iff,
      List.forall₂_map_right_iff, List.forall₂_same]
    exact fun e _ => BarePart.read_text e
  · exact List.forall_mem_map.mpr fun e he => BarePart.within_bare (h.fits e he)

theorem forall₂_retell {fs : List Field}
    (h : ∀ f ∈ fs, f.isUnrestricted = true ∨ ∃ es, f.Lists f.slot es) :
    List.Forall₂ (fun f x => f.retell l = .ok x) (fs.filter (!·.isUnrestricted))
      (fs.filterMap (·.fragment? l)) := by
  induction fs with
  | nil => exact .nil
  | cons f fs ih =>
    obtain ⟨hf, hfs⟩ := List.forall_mem_cons.mp h
    rcases hf with hopen | ⟨es, hes⟩
    · rw [List.filter_cons_of_neg (by simp [hopen]),
        List.filterMap_cons_none (fragment?_of_isUnrestricted hopen l)]
      exact ih hfs
    · rw [List.filter_cons_of_pos (by simp [hes.isUnrestricted]),
        List.filterMap_cons_some (hes.fragment? l)]
      exact .cons hes.retell (ih hfs)

end Field

namespace Expression

variable {source : String} {mode : Mode} {e : Expression} {f : Field}

theorem isUnrestricted_or_lists_of_mem_written (h : parse source mode = .ok (.expression e))
    (hv : e.isValid = true) (hf : f ∈ e.written) :
    f.isUnrestricted = true ∨ ∃ es, f.Lists f.slot es := by
  rw [written_eq_filterMap] at hf
  obtain ⟨slot, -, hslot⟩ := List.mem_filterMap.mp hf
  obtain ⟨hread, ha⟩ := read_of_isValid h hv hslot
  exact Field.slot_of_read hread ▸ Field.isUnrestricted_or_lists hread ha

theorem recomposed_eq (h : parse source mode = .ok (.expression e)) (hv : e.isValid = true) :
    e.recomposed l = .ok (e.composed l) := by
  have hfragments : (e.written.filter (!·.isUnrestricted)).mapM (·.retell l) = .ok (e.fragments l) :=
    mapM_eq_ok.mpr (Field.forall₂_retell fun f => isUnrestricted_or_lists_of_mem_written h hv)
  have hsentence (x : String) : l.tell .sentence [(.body, x)] = .ok (Message.sentence.say l [(.body, x)]) :=
    Locale.tell_eq (by cases l <;> rfl)
  rw [recomposed, composed, hfragments]
  cases e.fragments l with
  | nil => exact hsentence _
  | cons x xs => exact hsentence _

/-- An expression is told as it is described: a valid one without fail, each part of its tokens being read
with numbers that its slot accepts, and any other is rejected. -/
theorem retell_of_parse (h : parse source mode = .ok (.expression e)) (tag : Option String) :
    e.retell tag = (e.describe (Locale.ofTag tag)).mapError .rejected ∧
      (e.isValid = true → (∃ text, e.retell tag = .ok text) ∧
        ∀ f ∈ e.written, f.isUnrestricted = false →
          ∃ parts, (Text.pieces ',' f.token.toList).mapM BarePart.read = .ok parts ∧
            ∀ part ∈ parts, part.Within f.slot.accepted) ∧
      (e.isValid = false → ∃ r, e.retell tag = .error (.rejected r)) := by
  cases hv : e.isValid with
  | true =>
    have hrequire : e.requireValid = .ok e := if_pos hv
    have htold : e.retell tag = .ok (e.sentence (Locale.ofTag tag)) := by
      rw [retell, hrequire, sentence]
      cases e.canned? (Locale.ofTag tag) with
      | none => exact recomposed_eq h hv
      | some phrase => rfl
    rw [htold, describe_of_isValid hv]
    refine ⟨rfl, fun _ => ⟨⟨_, rfl⟩, fun f hf hu => ?_⟩, fun hx => Bool.noConfusion hx⟩
    rcases isUnrestricted_or_lists_of_mem_written h hv hf with hopen | ⟨es, hes⟩
    · exact absurd (hu.symm.trans hopen) Bool.false_ne_true
    · exact hes.exists_mapM_read
  | false =>
    have hrequire : e.requireValid = .error (.invalid .use e.source e.report) :=
      if_neg (Bool.eq_false_iff.mp hv)
    rw [retell, describe, hrequire]
    exact ⟨rfl, fun hx => Bool.noConfusion hx, fun _ => ⟨_, rfl⟩⟩

theorem retell_of_parse_spring :
    ∃ e, parse "*/15 8-17/3,20 ? 2-6/2,12 1-5 2024/2" .minutes = .ok (.expression e) ∧
      e.isValid = true ∧ (∃ text, e.retell (some "zh-Hans") = .ok text) ∧
      ∀ f ∈ e.written, f.isUnrestricted = false →
        ∃ parts, (Text.pieces ',' f.token.toList).mapM BarePart.read = .ok parts ∧
          ∀ part ∈ parts, part.Within f.slot.accepted := by
  have he : parse "*/15 8-17/3,20 ? 2-6/2,12 1-5 2024/2" .minutes = .ok (.expression _) := rfl
  exact ⟨_, he, by decide, (retell_of_parse he (some "zh-Hans")).2.1 (by decide)⟩

end Expression

end CronSchedule
