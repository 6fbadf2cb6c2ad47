import CronSchedule.Proofs.Expression.Matching
import CronSchedule.Proofs.Expression.Values
import CronSchedule.Proofs.Token.Listing
import Mathlib.Data.List.Sort

/-!
The second number of Sunday. Main statement: a token that does without day 7 selects the same days of the
week whether or not that day is counted, but for an open run of steps that comes to it, which then adds the
Sunday (`weekdays_of_expand`).
-/

namespace CronSchedule

/-- The element is an open run of steps from a single number, and one of the steps is at `v`. -/
def Element.RunsTo (v : Int) : Element → Prop
  | stepped (.single n) step => (step.value : Int) ∣ v - n.value
  | _ => False

/-- An element of the token runs to `v`. -/
def Token.RunsTo (v : Int) (token : List Char) : Prop :=
  ∃ es, IsList token es ∧ ∃ e ∈ es, e.RunsTo v

namespace Element

variable {e : Element} {v : Int}

theorem Fits.week (h : e.Fits ⟨0, 6⟩) : e.Fits ⟨0, 7⟩ := by
  have hle {n : Int} (hn : n ≤ 6) : n ≤ 7 := by omega
  match e with
  | plain .every => trivial
  | plain (.single n) => exact ⟨h.1, hle h.2⟩
  | plain (.span first last) => exact ⟨h.1, h.2.1, hle h.2.2⟩
  | stepped .every step => exact h
  | stepped (.single n) step => exact ⟨⟨h.1.1, hle h.1.2⟩, h.2⟩
  | stepped (.span first last) step => exact ⟨⟨h.1.1, h.1.2.1, hle h.1.2.2⟩, h.2⟩

theorem RunsTo.selects (h : e.RunsTo 7) (hf : e.Fits ⟨0, 6⟩) : e.Selects ⟨0, 7⟩ 7 := by
  match e with
  | stepped (.single n) step =>
    have hn : (n.value : Int) ≤ 6 := hf.1.2
    exact ⟨⟨by omega, Int.le_refl _⟩, h⟩

/-- Up to day 6 it makes no difference whether there is a day 7. -/
theorem selects_week_iff (hf : e.Fits ⟨0, 6⟩) (hv : v ≤ 6) :
    e.Selects ⟨0, 7⟩ v ↔ e.Selects ⟨0, 6⟩ v := by
  have hle : v ≤ 7 ↔ v ≤ 6 := by omega
  match e with
  | plain .every => simp [Selects, hle]
  | plain (.single n) => rfl
  | plain (.span first last) => rfl
  | stepped .every step => simp [Selects, hle]
  | stepped (.single n) step => simp [Selects, hle]
  | stepped (.span first last) step => rfl

/-- Day 7 is only reached through the whole week, in which Sunday is day 0 already, or by an open run. -/
theorem selects_seven (hf : e.Fits ⟨0, 6⟩) (h : e.Selects ⟨0, 7⟩ 7) :
    e.Selects ⟨0, 6⟩ 0 ∨ e.RunsTo 7 := by
  match e with
  | plain .every => exact .inl ⟨Int.le_refl _, by decide⟩
  | plain (.single n) =>
    have hn : (n.value : Int) ≤ 6 := hf.2
    have h7 : (7 : Int) = n.value := h
    omega
  | plain (.span first last) =>
    have hlast : (last.value : Int) ≤ 6 := hf.2.2
    have h7 : (7 : Int) ≤ last.value := h.2
    omega
  | stepped .every step => exact .inl ⟨⟨Int.le_refl _, by decide⟩, Int.dvd_zero _⟩
  | stepped (.single n) step => exact .inr h.2
  | stepped (.span first last) step =>
    have hlast : (last.value : Int) ≤ 6 := hf.1.2.2
    have h7 : (7 : Int) ≤ last.value := h.1.2
    omega

/-- With day 7 an element selects what it selects without it, and Sunday if it runs to that day. -/
theorem exists_selects_week_iff (hf : e.Fits ⟨0, 6⟩) :
    (∃ n, e.Selects ⟨0, 7⟩ n ∧ Slot.dayOfWeek.canonical n = v) ↔
      e.Selects ⟨0, 6⟩ v ∨ v = 0 ∧ e.RunsTo 7 := by
  have hcanonical {n : Int} (hn : n ≤ 6) : Slot.dayOfWeek.canonical n = n := by
    simp only [Slot.canonical, true_and]
    omega
  constructor
  · intro h
    obtain ⟨n, hn, rfl⟩ := h
    have h7 : n ≤ 7 := (hn.within hf.week).2
    by_cases h6 : n ≤ 6
    · rw [hcanonical h6]
      exact .inl ((selects_week_iff hf h6).mp hn)
    · obtain rfl : n = 7 := by omega
      exact (selects_seven hf hn).imp_right fun h => ⟨rfl, h⟩
  · intro h
    rcases h with h | ⟨rfl, h⟩
    · have h6 : v ≤ 6 := (h.within hf).2
      exact ⟨v, (selects_week_iff hf h6).mpr h, hcanonical h6⟩
    · exact ⟨7, h.selects hf, rfl⟩

end Element

namespace Field

variable {token : String} {f : Field} {vs : List Int} {v : Int}

theorem mem_values_week_iff (h : read .dayOfWeek token = .ok f)
    (ha : Token.Accepts ⟨0, 6⟩ token.toList) :
    v ∈ f.values ↔ Token.Selects ⟨0, 6⟩ token.toList v ∨ v = 0 ∧ Token.RunsTo 7 token.toList := by
  by_cases ho : Slot.dayOfWeek.LeavesOpen token
  · have hstar : token = "*" := by
      refine ho.resolve_right fun hq => ?_
      rw [hq.1] at ha
      exact Token.not_accepts_question ⟨0, 6⟩ (by decide) ha
    have hopen : v ∈ f.values ↔ 0 ≤ v ∧ v ≤ 6 := mem_values_of_leavesOpen h ho
    have hselects : Token.Selects ⟨0, 6⟩ token.toList v ↔ 0 ≤ v ∧ v ≤ 6 := by
      rw [hstar]
      exact Token.selects_star
    have hzero : v = 0 ∧ Token.RunsTo 7 token.toList → 0 ≤ v ∧ v ≤ 6 := by
      intro hx
      omega
    rw [hopen, hselects, or_iff_left_of_imp hzero]
  · obtain ⟨es, hes, hfits⟩ := ha
    have haccepts : Slot.dayOfWeek.Accepts token := .inr ⟨es, hes, fun e he => (hfits e he).week⟩
    rw [mem_values_iff h ho haccepts]
    constructor
    · intro hx
      obtain ⟨n, ⟨es', hes', e, he, hn⟩, hv⟩ := hx
      obtain rfl := hes'.unique hes
      rcases (Element.exists_selects_week_iff (hfits e he)).mp ⟨n, hn, hv⟩ with hs | ⟨h0, hr⟩
      · exact .inl ⟨es', hes, e, he, hs⟩
      · exact .inr ⟨h0, es', hes, e, he, hr⟩
    · intro hx
      have hone {e : Element} (he : e ∈ es) (hs : e.Selects ⟨0, 6⟩ v ∨ v = 0 ∧ e.RunsTo 7) :
          ∃ n, Token.Selects ⟨0, 7⟩ token.toList n ∧ Slot.dayOfWeek.canonical n = v := by
        obtain ⟨n, hn, hv⟩ := (Element.exists_selects_week_iff (hfits e he)).mpr hs
        exact ⟨n, ⟨es, hes, e, he, hn⟩, hv⟩
      rcases hx with ⟨es', hes', e, he, hs⟩ | ⟨h0, es', hes', e, he, hr⟩
      · exact hone (hes'.unique hes ▸ he) (.inl hs)
      · exact hone (hes'.unique hes ▸ he) (.inr ⟨h0, hr⟩)

end Field

/-- A token that is read without day 7 is one for the days of the week. In the field of any expression it
selects the same days, and Sunday as well if an element from a single day on runs to day 7. -/
theorem weekdays_of_expand {token : String} {vs : List Int} (h : Token.expand ⟨0, 6⟩ token = .ok vs) :
    ∃ f, Field.read .dayOfWeek token = .ok f ∧ f.fault? = none ∧
      (∀ source mode e, parse source mode = .ok (.expression e) → e.dayOfWeek.token = token →
        e.dayOfWeek = f) ∧
      (∀ v, v ∈ f.values ↔ v ∈ vs ∨ v = 0 ∧ Token.RunsTo 7 token.toList) ∧
      (f.values = vs ↔ (Token.RunsTo 7 token.toList → 0 ∈ vs)) := by
  obtain ⟨es, helements, rfl⟩ := map_eq_ok.mp h
  obtain ⟨hes, hlisted⟩ := (Token.listedElements_eq_ok_iff (by decide)).mp helements
  have hfits : ∀ e ∈ es, e.Fits ⟨0, 6⟩ := fun e he => (hlisted e he).1
  have haccepts : Slot.dayOfWeek.Accepts token := .inr ⟨es, hes, fun e he => (hfits e he).week⟩
  obtain ⟨f, hf⟩ := Field.exists_read_of_accepts haccepts
  have hmem (v : Int) : v ∈ f.values ↔
      v ∈ Token.selection ⟨0, 6⟩ es ∨ v = 0 ∧ Token.RunsTo 7 token.toList := by
    rw [Field.mem_values_week_iff hf ⟨es, hes, hfits⟩, Token.mem_selection hes]
  refine ⟨f, hf, (Field.fault?_eq_none_iff hf).mpr haccepts, fun source mode e he htoken => ?_, hmem, ?_⟩
  · have hfield : e.field? .dayOfWeek = some e.dayOfWeek := rfl
    have hread := (read_of_field? he hfield).2
    rw [htoken] at hread
    exact Except.ok.inj (hread.symm.trans hf)
  · constructor
    · intro heq hruns
      rw [← heq]
      exact (hmem 0).mpr (.inr ⟨rfl, hruns⟩)
    · intro hzero
      refine (Field.pairwise_values hf).eq_of_mem_iff (Ascending.pairwise_ofList _) fun v => ?_
      rw [hmem, or_iff_left_of_imp]
      rintro ⟨rfl, hruns⟩
      exact hzero hruns

/-- Lists, ranges and steps through the week are not changed by day 7. -/
theorem weekdays_of_expand_list :
    Token.expand ⟨0, 6⟩ "*/3,1-4/2,5" = .ok [0, 2, 3, 4, 5, 6] ∧ ∃ f,
      Field.read .dayOfWeek "*/3,1-4/2,5" = .ok f ∧ f.values = [0, 2, 3, 4, 5, 6] := by
  have hexpand : Token.expand ⟨0, 6⟩ "*/3,1-4/2,5" = .ok [0, 2, 3, 4, 5, 6] := by decide +kernel
  obtain ⟨f, hf, -, -, -, hvalues⟩ := weekdays_of_expand hexpand
  exact ⟨hexpand, f, hf, hvalues.mpr fun _ => List.mem_cons_self⟩

/-- Every other day from Monday on is Sunday too, once there is a day 7. -/
theorem weekdays_of_parse_from_monday :
    ∃ e vs, parse "0 0 * * 1/2" .minutes = .ok (.expression e) ∧ e.dayOfWeek.token = "1/2" ∧
      Token.expand ⟨0, 6⟩ "1/2" = .ok vs ∧ e.dayOfWeek.values ≠ vs := by
  have hparse : parse "0 0 * * 1/2" .minutes = .ok (.expression _) := rfl
  exact ⟨_, [1, 3, 5], hparse, rfl, by decide +kernel, by decide +kernel⟩

end CronSchedule
