import CronSchedule.Proofs.Draft.NumberLists
import CronSchedule.Proofs.Draft.Slots
import CronSchedule.Proofs.Expression.Matching
import Mathlib.Data.Int.Interval

/-!
What is built from the numbers that are picked for each slot. Main statements: numbers that the slots take
make an expression whose fields hold just these (`Draft.build_ofSelections`), and other numbers are refused
unless as many different ones are picked for a slot as it has (`Draft.build_ofSelections_iff_letsPass`).
-/

namespace CronSchedule

open Expression (filled refused tokens)

/-- The numbers picked for a slot. Those for the seconds count in seconds mode only, and years cannot be
picked. -/
def Selections.numbers (s : Selections) : Slot → List Int
  | .second => if s.mode = .seconds then s.seconds else []
  | .minute => s.minutes
  | .hour => s.hours
  | .dayOfMonth => s.days
  | .month => s.months
  | .dayOfWeek => s.weekdays
  | .year => []

namespace Slot

/-- Every number of the slot is picked. -/
def IsCoveredBy (slot : Slot) (ns : List Int) : Prop :=
  ∀ v, slot.bounds.low ≤ v → v ≤ slot.bounds.high → ∃ n ∈ ns, slot.canonical n = v

/-- As many different numbers are picked as the slot has, be they numbers of the slot or not. -/
def IsFilledBy (slot : Slot) (ns : List Int) : Prop :=
  ((ns.map slot.canonical).toFinset.card : Int) = slot.bounds.size

/-- The slot is filled, or takes each of the numbers. -/
def LetsPass (slot : Slot) (ns : List Int) : Prop :=
  slot.IsFilledBy ns ∨ ∀ n ∈ ns, slot.accepted.contains n = true

instance (slot : Slot) (ns : List Int) : Decidable (slot.IsFilledBy ns) :=
  inferInstanceAs (Decidable (_ = _))

instance (slot : Slot) (ns : List Int) : Decidable (slot.LetsPass ns) :=
  inferInstanceAs (Decidable (_ ∨ _))

variable {slot : Slot} {ns : List Int} {n v : Int}

theorem mem_all (slot : Slot) : slot ∈ all := by
  cases slot <;> decide

theorem canonical_canonical (slot : Slot) (n : Int) :
    slot.canonical (slot.canonical n) = slot.canonical n := by
  by_cases h : slot = .dayOfWeek ∧ n = 7
  · have hzero : slot.canonical n = 0 := if_pos h
    rw [hzero]
    exact if_neg fun hx => absurd hx.2 (by decide)
  · have hsame : slot.canonical n = n := if_neg h
    rw [hsame, hsame]

theorem contains_canonical (slot : Slot) (n : Int) :
    slot.accepted.contains (slot.canonical n) = slot.accepted.contains n := by
  rw [canonical]
  split
  · next h =>
    obtain ⟨rfl, rfl⟩ := h
    rfl
  · rfl

theorem isShort_canonical (slot : Slot) (h : Text.IsShort n) : Text.IsShort (slot.canonical n) := by
  rw [canonical]
  split
  · decide
  · exact h

theorem mem_normalize : v ∈ slot.normalize ns ↔ ∃ n ∈ ns, slot.canonical n = v := by
  rw [normalize, Ascending.mem_ofList, List.mem_map]

theorem normalize_eq_nil : slot.normalize ns = [] ↔ ns = [] := by
  simp only [List.eq_nil_iff_forall_not_mem, mem_normalize]
  constructor
  · exact fun h n hn => h _ ⟨n, hn, rfl⟩
  · exact fun h v hv => h _ hv.choose_spec.1

theorem length_normalize (slot : Slot) (ns : List Int) :
    (slot.normalize ns).length = (ns.map slot.canonical).toFinset.card := by
  have hnodup : (slot.normalize ns).Nodup :=
    (Ascending.pairwise_ofList _).imp fun hlt => Int.ne_of_lt hlt
  rw [← List.toFinset_card_of_nodup hnodup]
  congr 1
  ext v
  rw [List.mem_toFinset, List.mem_toFinset, mem_normalize, List.mem_map]

/-- Numbers that the slot takes fill it only if they are all of its numbers. -/
theorem isFilledBy_iff_isCoveredBy (h : ∀ n ∈ ns, slot.accepted.contains n = true) :
    slot.IsFilledBy ns ↔ slot.IsCoveredBy ns := by
  have hsubset : (ns.map slot.canonical).toFinset ⊆ Finset.Icc slot.bounds.low slot.bounds.high := by
    intro v hv
    obtain ⟨n, hn, rfl⟩ := List.mem_map.mp (List.mem_toFinset.mp hv)
    exact Finset.mem_Icc.mpr (canonical_within (Bounds.contains_iff.mp (h n hn)))
  have hcard : ((Finset.Icc slot.bounds.low slot.bounds.high).card : Int) = slot.bounds.size := by
    cases slot <;> rfl
  have hcovered : slot.IsCoveredBy ns ↔
      Finset.Icc slot.bounds.low slot.bounds.high ⊆ (ns.map slot.canonical).toFinset := by
    simp only [IsCoveredBy, Finset.subset_iff, Finset.mem_Icc, List.mem_toFinset, List.mem_map,
      and_imp]
  rw [hcovered, IsFilledBy, ← hcard, Nat.cast_inj]
  constructor
  · intro heq
    exact (Finset.eq_of_subset_of_card_le hsubset (Nat.le_of_eq heq.symm)).superset
  · exact fun hsup => Nat.le_antisymm (Finset.card_le_card hsubset) (Finset.card_le_card hsup)

theorem selectionToken_cases (slot : Slot) (ns : List Int) :
    (ns = [] ∨ slot.IsFilledBy ns) ∧ slot.selectionToken ns = "*" ∨
      ¬ (ns = [] ∨ slot.IsFilledBy ns) ∧
        slot.selectionToken ns = listToken (slot.normalize ns) ∧ slot.normalize ns ≠ [] := by
  have hstar : (slot.normalize ns = [] ∨ ((slot.normalize ns).length : Int) = slot.bounds.size) ↔
      ns = [] ∨ slot.IsFilledBy ns := by
    rw [normalize_eq_nil, length_normalize, IsFilledBy]
  by_cases h : ns = [] ∨ slot.IsFilledBy ns
  · exact .inl ⟨h, if_pos (hstar.mpr h)⟩
  · exact .inr ⟨h, if_neg (mt hstar.mp h), fun hn => h (.inl (normalize_eq_nil.mp hn))⟩

theorem not_leavesOpen_listToken (hne : ns ≠ []) : ¬ slot.LeavesOpen (listToken ns) := by
  have hmark {c : Char} (hc : c.isDigit = false) (hdash : c ≠ '-') :
      Text.pieces ',' (listToken ns).toList ≠ [[c]] := by
    rw [pieces_listToken hne]
    intro h
    obtain ⟨n, -, hn⟩ := List.mem_map.mp (h ▸ List.mem_singleton_self [c])
    exact Text.notMem_signedFigures hc hdash n (hn ▸ List.mem_singleton_self c)
  rintro (h | ⟨h, -⟩)
  · exact hmark (c := '*') (by decide) (by decide) (by rw [h]; rfl)
  · exact hmark (c := '?') (by decide) (by decide) (by rw [h]; rfl)

theorem leavesOpen_selectionToken_iff :
    slot.LeavesOpen (slot.selectionToken ns) ↔ ns = [] ∨ slot.IsFilledBy ns := by
  rcases slot.selectionToken_cases ns with ⟨h, htoken⟩ | ⟨h, htoken, hne⟩
  · exact iff_of_true (.inl htoken) h
  · exact iff_of_false (htoken ▸ not_leavesOpen_listToken hne) h

theorem selectionToken_eq_star_iff :
    slot.selectionToken ns = "*" ↔ ns = [] ∨ slot.IsFilledBy ns :=
  ⟨fun h => leavesOpen_selectionToken_iff.mp (.inl h), fun h =>
    (slot.selectionToken_cases ns).elim And.right fun hn => absurd h hn.1⟩

theorem accepts_listToken_normalize_iff (hne : slot.normalize ns ≠ []) :
    Token.Accepts slot.accepted (listToken (slot.normalize ns)).toList ↔
      ∀ n ∈ ns, slot.accepted.contains n = true := by
  have hslot : 0 ≤ slot.accepted.low ∧ slot.accepted.high < 10000 := by cases slot <;> decide
  rw [accepts_listToken_iff slot.accepted_low_le_high hne]
  have hwithin {v : Int} :
      ((0 ≤ v ∧ Text.IsShort v) ∧ slot.accepted.low ≤ v ∧ v ≤ slot.accepted.high) ↔
        slot.accepted.contains v = true := by
    rw [Bounds.contains_iff, and_iff_right_iff_imp]
    exact fun hv => ⟨by omega, Text.isShort_of_lt (by omega)⟩
  simp only [hwithin, mem_normalize]
  constructor
  · exact fun h n hn => slot.contains_canonical n ▸ h _ ⟨n, hn, rfl⟩
  · rintro h _ ⟨n, hn, rfl⟩
    exact slot.contains_canonical n ▸ h n hn

/-- A slot accepts the token of the numbers picked for it if it takes them all, and if they fill it. -/
theorem accepts_selectionToken_iff : slot.Accepts (slot.selectionToken ns) ↔ slot.LetsPass ns := by
  rw [Accepts, leavesOpen_selectionToken_iff, LetsPass]
  rcases slot.selectionToken_cases ns with ⟨h, -⟩ | ⟨h, htoken, hne⟩
  · refine iff_of_true (.inl h) (h.symm.imp_right fun hn => ?_)
    rw [hn]
    exact nofun
  · rw [htoken, accepts_listToken_normalize_iff hne, or_iff_right h,
      or_iff_right fun hfilled => h (.inr hfilled)]

end Slot

/-- The field holds the numbers that were picked for its slot, in ascending order and each once. It is left
open if there are none, and if there are all. -/
structure Field.Holds (f : Field) (slot : Slot) (ns : List Int) : Prop where
  isUnrestricted : f.isUnrestricted = true ↔ ns = [] ∨ slot.IsCoveredBy ns
  ascending : f.values.Pairwise (· < ·)
  mem_values : f.isUnrestricted = false → ∀ v, v ∈ f.values ↔ ∃ n ∈ ns, slot.canonical n = v

theorem Field.holds_of_read {slot : Slot} {ns : List Int} {f : Field}
    (h : read slot (slot.selectionToken ns) = .ok f)
    (hns : ∀ n ∈ ns, slot.accepted.contains n = true) :
    f.Holds slot ns where
  isUnrestricted := by
    rw [isUnrestricted_iff h, Slot.leavesOpen_selectionToken_iff,
      Slot.isFilledBy_iff_isCoveredBy hns]
  ascending := pairwise_values h
  mem_values hr v := by
    have ho : ¬ slot.LeavesOpen (slot.selectionToken ns) := by
      rw [← isUnrestricted_iff h, hr]
      exact Bool.false_ne_true
    have ha : slot.Accepts (slot.selectionToken ns) := Slot.accepts_selectionToken_iff.mpr (.inr hns)
    rw [mem_values_iff h ho ha]
    rcases slot.selectionToken_cases ns with ⟨hstar, -⟩ | ⟨-, htoken, hne⟩
    · exact absurd (Slot.leavesOpen_selectionToken_iff.mpr hstar) ho
    · have hselects (n : Int) : Token.Selects slot.accepted (slot.selectionToken ns).toList n ↔
          ∃ m ∈ ns, slot.canonical m = n := by
        rw [htoken, selects_listToken_iff slot.accepted_low_le_high hne
          ((Slot.accepts_listToken_normalize_iff hne).mpr hns), Slot.mem_normalize]
      simp only [hselects]
      constructor
      · rintro ⟨_, ⟨m, hm, rfl⟩, rfl⟩
        exact ⟨m, hm, (slot.canonical_canonical m).symm⟩
      · rintro ⟨m, hm, rfl⟩
        exact ⟨_, ⟨m, hm, rfl⟩, slot.canonical_canonical m⟩

namespace Draft

variable {d : Draft} {s : Selections} {slot : Slot} {e : Expression}

theorem IsTidy.isWord (h : d.IsTidy) (hs : slot ∈ d.writtenSlots) :
    Text.IsWord (d.token slot).toList := by
  rcases h.takes slot with hword | ⟨rfl, hempty⟩
  · exact hword
  · exact absurd hempty (of_decide_eq_true (List.mem_filter.mp hs).2)

/-- A tidy draft writes out as many texts as its mode takes. -/
theorem IsTidy.takes_text (h : d.IsTidy) : d.mode.Takes (tokens d.text).length := by
  have ht : tokens d.text = d.writtenSlots.map d.token :=
    tokens_joined (List.forall_mem_map.mpr fun _ => h.isWord)
  rw [ht, List.length_map]
  by_cases hy : d.token .year = ""
  · left
    cases hm : d.mode <;> simp [writtenSlots, Slot.all, hm, hy, Mode.size]
  · right
    cases hm : d.mode <;> simp [writtenSlots, Slot.all, hm, hy, Mode.size]

theorem takes_ofSelections (s : Selections) : s.mode.Takes (tokens (ofSelections s).text).length :=
  (isTidy_ofSelections s).takes_text

/-- The slots that numbers can be picked for, with the texts for them, fill the expression. -/
theorem filled_ofSelections (s : Selections) :
    filled (ofSelections s).text s.mode =
      (Slot.all.filter (· ≠ .year)).map fun slot => (slot, (ofSelections s).token slot) := by
  have hd := isTidy_ofSelections s
  exact filled_text hd.second fun _ => hd.isWord

/-- The text for a slot is the token of the numbers picked for it, but a 0 for the seconds if there are
none. -/
theorem token_ofSelections (s : Selections) (hs : slot ≠ .year) :
    (slot = .second ∧ s.numbers slot = []) ∧ (ofSelections s).token slot = "0" ∨
      ¬ (slot = .second ∧ s.numbers slot = []) ∧
        (ofSelections s).token slot = slot.selectionToken (s.numbers slot) := by
  cases slot with
  | year => exact absurd rfl hs
  | second =>
    have htoken : (ofSelections s).token .second = s.secondToken := rfl
    rw [htoken, Selections.secondToken, Selections.numbers]
    cases hm : s.mode with
    | minutes => simp
    | seconds => by_cases hn : s.seconds = [] <;> simp [hn]
  | _ => exact .inr ⟨fun hx => absurd hx.1 (by decide), rfl⟩

theorem accepts_ofSelections_iff (s : Selections) (hs : slot ≠ .year) :
    slot.Accepts ((ofSelections s).token slot) ↔ slot.LetsPass (s.numbers slot) := by
  rcases token_ofSelections s hs with ⟨⟨rfl, hn⟩, htoken⟩ | ⟨-, htoken⟩
  · rw [htoken, hn]
    decide
  · rw [htoken, Slot.accepts_selectionToken_iff]

theorem refused_ofSelections (s : Selections) :
    refused (ofSelections s).text s.mode =
      (Slot.all.filter fun slot => ¬ slot.LetsPass (s.numbers slot)).map fun slot =>
        (slot, (ofSelections s).token slot) := by
  rw [← Expression.filter_filled, filled_ofSelections, List.filter_map, List.filter_filter]
  congr 1
  refine List.filter_congr fun slot _ => ?_
  by_cases hs : slot = .year
  · subst hs
    rfl
  · simp [hs, accepts_ofSelections_iff s hs]

theorem not_stops_ofSelections (h : ∀ slot, ∀ n ∈ s.numbers slot, Text.IsShort n)
    (o : OverlongNumber) : ¬ Expression.Stops (ofSelections s).text s.mode o := by
  intro ho
  obtain ⟨w, hw, hstop⟩ := ho.exists_mem_filled
  rw [filled_ofSelections] at hw
  obtain ⟨slot, hslot, rfl⟩ := List.mem_map.mp hw
  have hyear : slot ≠ .year := of_decide_eq_true (List.mem_filter.mp hslot).2
  change Token.Stops slot.accepted o ((ofSelections s).token slot).toList at hstop
  rcases token_ofSelections s hyear with ⟨-, htoken⟩ | ⟨-, htoken⟩
  · rw [htoken] at hstop
    exact absurd hstop.maxDigits_lt_length (by decide)
  · rw [htoken] at hstop
    rcases slot.selectionToken_cases (s.numbers slot) with ⟨-, hstar⟩ | ⟨-, hlist, hne⟩
    · rw [hstar] at hstop
      exact absurd hstop.maxDigits_lt_length (by decide)
    · rw [hlist] at hstop
      refine not_stops_listToken hne (fun v hv => ?_) o hstop
      obtain ⟨n, hn, rfl⟩ := Slot.mem_normalize.mp hv
      exact slot.isShort_canonical (h slot n hn)

theorem exists_build_ofSelections_iff (s : Selections) :
    (∃ e, (ofSelections s).build = .ok e) ↔ ∀ slot : Slot, slot.LetsPass (s.numbers slot) := by
  have hmode : (ofSelections s).mode = s.mode := rfl
  rw [build, hmode, exists_ofSource_eq_ok_iff, and_iff_right (takes_ofSelections s),
    refused_ofSelections, List.map_eq_nil_iff, List.filter_eq_nil_iff]
  constructor
  · exact fun h slot => by simpa using h slot slot.mem_all
  · exact fun h slot _ => by simpa using h slot

theorem read_of_build_ofSelections {f : Field} (h : (ofSelections s).build = .ok e)
    (hf : e.field? slot = some f) :
    slot ≠ .year ∧ Field.read slot ((ofSelections s).token slot) = .ok f := by
  obtain ⟨hmem, hr⟩ := read_of_field? (build_eq_ok.mp h).1 hf
  have hfilled : (slot, f.token) ∈ filled (ofSelections s).text s.mode := hmem
  rw [filled_ofSelections] at hfilled
  obtain ⟨_, hslot, heq⟩ := List.mem_map.mp hfilled
  obtain ⟨rfl, htoken⟩ := Prod.mk.inj heq
  exact ⟨of_decide_eq_true (List.mem_filter.mp hslot).2, htoken ▸ hr⟩

theorem year_of_build_ofSelections (h : (ofSelections s).build = .ok e) : e.year = none := by
  refine Option.eq_none_iff_forall_ne_some.mpr fun f hf => ?_
  have hyear : e.field? .year = some f := hf
  exact (read_of_build_ofSelections h hyear).1 rfl

theorem second_of_build_ofSelections (h : (ofSelections s).build = .ok e)
    (hn : s.numbers .second = []) : e.second.isUnrestricted = false ∧ e.second.values = [0] := by
  have hsecond : e.field? .second = some e.second := rfl
  obtain ⟨hyear, hr⟩ := read_of_build_ofSelections h hsecond
  have htoken := ((token_ofSelections s hyear).resolve_right fun hx => hx.1 ⟨rfl, hn⟩).2
  have hzero : Field.read .second "0" = .ok _ := rfl
  rw [htoken, hzero] at hr
  rw [← Except.ok.inj hr]
  exact ⟨rfl, rfl⟩

/-- Numbers that their slots take make an expression, which is left open in the slots that none or all
numbers are picked for, and has just the picked ones in the others. The seconds are 0 if none is picked for
them. -/
theorem build_ofSelections (h : ∀ slot : Slot, ∀ n ∈ s.numbers slot, slot.accepted.contains n = true) :
    ∃ e, (ofSelections s).build = .ok e ∧ e.mode = s.mode ∧ e.year = none ∧
      (s.numbers .second = [] → e.second.isUnrestricted = false ∧ e.second.values = [0]) ∧
      (s.numbers .second ≠ [] → e.second.Holds .second (s.numbers .second)) ∧
      e.minute.Holds .minute s.minutes ∧ e.hour.Holds .hour s.hours ∧
      e.dayOfMonth.Holds .dayOfMonth s.days ∧ e.month.Holds .month s.months ∧
      e.dayOfWeek.Holds .dayOfWeek s.weekdays := by
  obtain ⟨e, he⟩ := (exists_build_ofSelections_iff s).mpr fun slot => .inr (h slot)
  have hholds {slot : Slot} {f : Field} (hf : e.field? slot = some f)
      (hs : ¬ (slot = .second ∧ s.numbers slot = [])) : f.Holds slot (s.numbers slot) := by
    obtain ⟨hyear, hr⟩ := read_of_build_ofSelections he hf
    have htoken := ((token_ofSelections s hyear).resolve_left fun hx => hs hx.1).2
    exact Field.holds_of_read (htoken ▸ hr) (h slot)
  exact ⟨e, he, mode_of_parse (build_eq_ok.mp he).1, year_of_build_ofSelections he,
    second_of_build_ofSelections he, fun hn => hholds rfl fun hx => hn hx.2, hholds rfl nofun,
    hholds rfl nofun, hholds rfl nofun, hholds rfl nofun, hholds rfl nofun⟩

/-- Seconds in no order and more than once, all hours, and both numbers of Sunday. -/
theorem build_ofSelections_sundays :
    ∃ s e, s = ⟨[30, 0, 30], [45, 15], Bounds.toList ⟨0, 23⟩, [], [12, 1], [7, 0], .seconds⟩ ∧
      (∀ slot : Slot, ∀ n ∈ s.numbers slot, slot.accepted.contains n = true) ∧
      (ofSelections s).build = .ok e ∧ e.mode = .seconds ∧ e.year = none ∧
      e.second.Holds .second [30, 0, 30] ∧ e.minute.Holds .minute [45, 15] ∧
      e.hour.Holds .hour (Bounds.toList ⟨0, 23⟩) ∧ e.dayOfMonth.Holds .dayOfMonth [] ∧
      e.month.Holds .month [12, 1] ∧ e.dayOfWeek.Holds .dayOfWeek [7, 0] := by
  have htaken : ∀ slot : Slot, ∀ n ∈ Selections.numbers
      ⟨[30, 0, 30], [45, 15], Bounds.toList ⟨0, 23⟩, [], [12, 1], [7, 0], .seconds⟩ slot,
      slot.accepted.contains n = true := by
    intro slot
    cases slot <;> decide
  obtain ⟨e, he, hmode, hyear, -, hsecond, hholds⟩ := build_ofSelections htaken
  exact ⟨_, e, rfl, htaken, he, hmode, hyear, hsecond nofun, hholds⟩

/-- Picked numbers that are short enough to be written make an expression exactly if each slot is filled, or
takes those that are picked for it. Else the draft is refused for the other slots, each with its token. A
slot is written as a star if nothing is picked for it or it is filled; only of numbers that it takes does
that mean that all are picked. -/
theorem build_ofSelections_iff_letsPass (h : ∀ slot, ∀ n ∈ s.numbers slot, Text.IsShort n) :
    ((∃ e, (ofSelections s).build = .ok e) ↔ ∀ slot : Slot, slot.LetsPass (s.numbers slot)) ∧
      (∀ error, (ofSelections s).build = .error error → ∃ report,
        error = .rejected (.invalid .reading (ofSelections s).text report) ∧
          ∀ l, List.Forall₂ (fun i slot =>
              Issue.ShownAs l "field_range" (some slot) ((ofSelections s).token slot) i)
            report.issues (Slot.all.filter fun slot => ¬ slot.LetsPass (s.numbers slot))) ∧
      ∀ slot : Slot,
        (slot.selectionToken (s.numbers slot) = "*" ↔
          s.numbers slot = [] ∨ slot.IsFilledBy (s.numbers slot)) ∧
        ((∀ n ∈ s.numbers slot, slot.accepted.contains n = true) →
          (slot.IsFilledBy (s.numbers slot) ↔ slot.IsCoveredBy (s.numbers slot))) := by
  refine ⟨exists_build_ofSelections_iff s, fun error herror => ?_, fun slot =>
    ⟨Slot.selectionToken_eq_star_iff, Slot.isFilledBy_iff_isCoveredBy⟩⟩
  have hrefused : refused (ofSelections s).text s.mode ≠ [] := by
    intro hr
    obtain ⟨e, he⟩ := exists_ofSource_eq_ok_iff.mpr ⟨takes_ofSelections s, hr⟩
    cases he.symm.trans herror
  obtain ⟨report, hreport, hissues⟩ :=
    ofSource_of_refused (takes_ofSelections s) (not_stops_ofSelections h) hrefused
  refine ⟨report, Except.error.inj (herror.symm.trans hreport), fun l => ?_⟩
  have hl := hissues l
  rwa [refused_ofSelections, List.forall₂_map_right_iff] at hl

/-- Hours that there are not are refused, but months counted from 0 are as many as there are. -/
theorem build_ofSelections_iff_letsPass_hours :
    ∃ s report, s = ⟨[], [0], [25, -3], [], Bounds.toList ⟨0, 11⟩, [], .minutes⟩ ∧
      (∀ slot, ∀ n ∈ s.numbers slot, Text.IsShort n) ∧
      (ofSelections s).build = .error (.rejected (.invalid .reading (ofSelections s).text report)) ∧
      ∀ l, List.Forall₂ (fun i slot =>
        Issue.ShownAs l "field_range" (some slot) ((ofSelections s).token slot) i)
          report.issues [.hour] := by
  have hshort : ∀ slot, ∀ n ∈ Selections.numbers
      ⟨[], [0], [25, -3], [], Bounds.toList ⟨0, 11⟩, [], .minutes⟩ slot, Text.IsShort n := by
    intro slot
    cases slot <;> decide
  obtain ⟨hbuild, hrefused, -⟩ := build_ofSelections_iff_letsPass hshort
  cases hb : (ofSelections ⟨[], [0], [25, -3], [], Bounds.toList ⟨0, 11⟩, [], .minutes⟩).build with
  | ok e => exact absurd (hbuild.mp ⟨e, hb⟩ .hour) (by decide)
  | error error =>
    obtain ⟨report, rfl, hissues⟩ := hrefused error hb
    exact ⟨_, report, rfl, hshort, hb, hissues⟩

/-- Months counted from 0 are no months, but there are twelve of them. -/
theorem build_ofSelections_months_from_zero :
    ∃ s e, s = ⟨[], [0], [0], [1], [0, 1, 2, 3, 4, 5, 6, 7, 8, 9, 10, 11], [], .minutes⟩ ∧
      Slot.month.accepted.contains 0 = false ∧ (ofSelections s).build = .ok e ∧ e.month.token = "*" :=
  ⟨_, _, rfl, rfl, rfl, rfl⟩

end Draft

end CronSchedule
