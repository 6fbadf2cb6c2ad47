import CronSchedule.Proofs.Expression.Values
import CronSchedule.Proofs.Token.Listing
import Mathlib.Data.List.Sort

/-!
The numbers that a token is expanded to. Main statement: a token without a number that is too long and without a
range that is too long for a list is expanded exactly if it is a list of elements that fit the bounds, to the
numbers that one of them selects (`Token.expand_iff_accepts`).
-/

namespace CronSchedule.Token

variable {b : Bounds} {token : String} {vs : List Int} {v : Int}

/-- A token is accepted if each piece between its commas is an element that fits. -/
theorem accepts_iff_forall_pieces (hb : b.low ≤ b.high) {text : List Char} :
    Accepts b text ↔ ∀ part ∈ Text.pieces ',' text, ∃ e : Element, e.Fits b ∧ e.text = part := by
  simp only [accepts_iff hb, elements_eq_mapM, exists_mapM_eq_ok_iff, readElement_eq_ok_iff hb]

theorem selects_iff_exists_piece {text : List Char} (ha : Accepts b text) :
    Selects b text v ↔ ∃ part ∈ Text.pieces ',' text, ∃ e : Element, e.text = part ∧ e.Selects b v := by
  obtain ⟨es, hes, -⟩ := ha
  rw [isList_iff.mp hes]
  constructor
  · intro h
    obtain ⟨es', hes', e, he, hv⟩ := h
    exact ⟨e.text, List.mem_map_of_mem (hes.unique hes' ▸ he), e, rfl, hv⟩
  · intro h
    obtain ⟨part, hpart, e, rfl, hv⟩ := h
    obtain ⟨e', he', htext⟩ := List.mem_map.mp hpart
    exact ⟨es, hes, e, Element.text_injective htext ▸ he', hv⟩

theorem pairwise_selection (b : Bounds) (es : List Element) : (selection b es).Pairwise (· < ·) :=
  Ascending.pairwise_ofList _

/-- The numbers that a token is expanded to are told by three things: that it is accepted, that they
ascend, and that they are the ones it selects. -/
theorem expand_eq_ok (hb : b.low ≤ b.high) (h : expand b token = .ok vs) :
    Accepts b token.toList ∧ vs.Pairwise (· < ·) ∧ ∀ v, v ∈ vs ↔ Selects b token.toList v := by
  obtain ⟨es, hes, rfl⟩ := map_eq_ok.mp h
  obtain ⟨hlist, hlisted⟩ := (listedElements_eq_ok_iff hb).mp hes
  exact ⟨⟨es, hlist, fun e he => (hlisted e he).1⟩, pairwise_selection b es, fun _ => mem_selection hlist⟩

theorem exists_expand_iff (hb : b.low ≤ b.high) :
    (∃ vs, expand b token = .ok vs) ↔ Accepts b token.toList ∧ ¬ Overflows b token.toList := by
  rw [← exists_listedElements_iff hb]
  constructor
  · intro h
    obtain ⟨vs, h⟩ := h
    obtain ⟨es, hes, -⟩ := map_eq_ok.mp h
    exact ⟨es, hes⟩
  · intro h
    obtain ⟨es, hes⟩ := h
    exact ⟨_, map_eq_ok.mpr ⟨es, hes, rfl⟩⟩

theorem expand_eq_unlistable_iff (hb : b.low ≤ b.high) :
    expand b token = .error .unlistable ↔ Overflows b token.toList := by
  rw [expand, map_eq_error, listedElements_eq_unlistable_iff hb]

theorem expand_ne_overlong (h : ¬ HasLongNumber token.toList) (o : OverlongNumber) :
    expand b token ≠ .error (.overlong o) := by
  rw [expand, ne_eq, map_eq_error]
  exact listedElements_ne_overlong h

theorem exists_fault_iff (hb : b.low ≤ b.high) (h : ¬ HasLongNumber token.toList) :
    (∃ f, expand b token = .error (.fault f)) ↔
      ¬ Accepts b token.toList ∧ ¬ Overflows b token.toList := by
  have hok : (∃ vs, expand b token = .ok vs) ↔ _ := exists_expand_iff hb
  have hover : expand b token = .error .unlistable ↔ _ := expand_eq_unlistable_iff hb
  cases hx : expand b token with
  | ok vs =>
    have ha := (hok.mp ⟨vs, hx⟩).1
    simp [ha]
  | error e =>
    cases e with
    | fault f =>
      rw [hx] at hok hover
      have hn : ¬ Overflows b token.toList := fun hov => nomatch hover.mpr hov
      refine iff_of_true ⟨f, rfl⟩ ⟨fun ha => ?_, hn⟩
      obtain ⟨vs, hvs⟩ := hok.mpr ⟨ha, hn⟩
      cases hvs
    | overlong o => exact absurd hx (expand_ne_overlong h o)
    | unlistable =>
      have hov := hover.mp hx
      simp [hov]

/-- A token without a number that is too long is expanded if it is a list of elements that fit the bounds,
and is at fault if it is none, as long as no element before the first that does not fit, nor that one, lists a
range of more numbers than a list holds; then it is neither. It is expanded to the numbers within the bounds
that some element selects: there are some, they ascend, and each is listed once. -/
theorem expand_iff_accepts (hb : b.low ≤ b.high) (h : ¬ HasLongNumber token.toList) :
    ((∃ vs, expand b token = .ok vs) ↔ Accepts b token.toList ∧ ¬ Overflows b token.toList) ∧
      ((∃ f, expand b token = .error (.fault f)) ↔
        ¬ Accepts b token.toList ∧ ¬ Overflows b token.toList) ∧
      (expand b token = .error .unlistable ↔ Overflows b token.toList) ∧
      (b.high - b.low < maxListed → ¬ Overflows b token.toList) ∧
      ∀ vs, expand b token = .ok vs →
        vs ≠ [] ∧ vs.Pairwise (· < ·) ∧
          ∀ v, v ∈ vs ↔ (b.low ≤ v ∧ v ≤ b.high) ∧ Selects b token.toList v := by
  refine ⟨exists_expand_iff hb, exists_fault_iff hb h, expand_eq_unlistable_iff hb, not_overflows,
    fun vs hvs => ?_⟩
  obtain ⟨ha, hpairwise, hmem⟩ := expand_eq_ok hb hvs
  obtain ⟨v, hv⟩ := ha.exists_selects hb
  refine ⟨List.ne_nil_of_mem ((hmem v).mpr hv), hpairwise, fun v => ?_⟩
  rw [hmem, and_iff_right_of_imp (Selects.within · ha)]

/-- Steps through all of the bounds and through a range are counted from a lower bound below 0, those from
7 are not. -/
theorem expand_iff_accepts_below_zero :
    (-5 : Int) ≤ 40 ∧ ¬ HasLongNumber "7/9,*/20,10-25/4,3,3".toList ∧
      Accepts ⟨-5, 40⟩ "7/9,*/20,10-25/4,3,3".toList ∧
      expand ⟨-5, 40⟩ "7/9,*/20,10-25/4,3,3" = .ok [-5, 3, 7, 11, 15, 16, 19, 23, 25, 34, 35] ∧
      ∀ v, v ∈ [-5, 3, 7, 11, 15, 16, 19, 23, 25, 34, 35] ↔
        ((-5 : Int) ≤ v ∧ v ≤ 40) ∧ Selects ⟨-5, 40⟩ "7/9,*/20,10-25/4,3,3".toList v := by
  have hb : (⟨-5, 40⟩ : Bounds).low ≤ (⟨-5, 40⟩ : Bounds).high := by decide
  have hshort : ¬ HasLongNumber "7/9,*/20,10-25/4,3,3".toList := not_hasLongNumber (by decide)
  have hexpand : expand ⟨-5, 40⟩ "7/9,*/20,10-25/4,3,3" =
      .ok [-5, 3, 7, 11, 15, 16, 19, 23, 25, 34, 35] := by
    decide +kernel
  obtain ⟨haccepts, -, -, -, hvalues⟩ := expand_iff_accepts hb hshort
  exact ⟨hb, hshort, (haccepts.mp ⟨_, hexpand⟩).1, hexpand, (hvalues _ hexpand).2.2⟩

/-- The step meets the two ends of the bounds and nothing else, but the range between them has one number more
than a list holds. -/
theorem expand_too_wide :
    (0 : Int) ≤ 9223372036854775807 ∧ ¬ HasLongNumber "0-9223372036854775807/9223372036854775807".toList ∧
      Accepts ⟨0, 9223372036854775807⟩ "0-9223372036854775807/9223372036854775807".toList ∧
      expand ⟨0, 9223372036854775807⟩ "0-9223372036854775807/9223372036854775807" = .error .unlistable := by
  let first : Numeral := ⟨"0".toList, by decide, by decide, by decide⟩
  let last : Numeral := ⟨"9223372036854775807".toList, by decide, by decide, by decide⟩
  have hfits : (Element.stepped (.span first last) last).Fits ⟨0, 9223372036854775807⟩ :=
    ⟨⟨by decide, by decide, by decide⟩, by decide, 0, by decide, by decide⟩
  exact ⟨by decide, not_hasLongNumber (by decide),
    ⟨[.stepped (.span first last) last], ⟨List.cons_ne_nil _ _, by decide⟩,
      List.forall_mem_singleton.mpr hfits⟩, by decide +kernel⟩

end CronSchedule.Token
