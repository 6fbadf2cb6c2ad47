import CronSchedule.Draft.Selection
import CronSchedule.Proofs.Text.Figures
import CronSchedule.Proofs.Token.Expansion
import Mathlib.Data.Nat.Digits.Defs

/-!
The token that lists some numbers. Main statements: it is accepted if all of them lie within the bounds
(`accepts_listToken_iff`), and then it selects just them (`selects_listToken_iff`).
-/

namespace CronSchedule

variable {b : Bounds} {n v : Int} {ns : List Int}

namespace Text

theorem toList_ofInt (n : Int) : (ofInt n).toList = signedFigures n :=
  String.toList_ofList

theorem notMem_signedFigures {c : Char} (hc : c.isDigit = false) (hdash : c ≠ '-') (n : Int) :
    c ∉ signedFigures n := by
  have hfigures {k : Nat} : c ∉ figures k := fun h => by
    rw [isDigit_of_mem_figures h] at hc
    cases hc
  cases n with
  | ofNat k => exact hfigures
  | negSucc k => exact List.not_mem_cons_of_ne_of_not_mem hdash hfigures

theorem signedFigures_of_nonneg (h : 0 ≤ n) : signedFigures n = figures n.natAbs := by
  obtain ⟨k, rfl⟩ := Int.eq_ofNat_of_zero_le h
  rfl

theorem isShort_of_lt (h : n.natAbs < 10000) : IsShort n :=
  Nat.le_trans (Nat.toDigits_length 10 n.natAbs 4 (by decide) h) (by decide)

/-- A number that is short has no long run of digits in it, with its sign or without. -/
theorem not_hasLongNumber_signedFigures (h : IsShort n) : ¬ HasLongNumber (signedFigures n) := by
  rintro ⟨ds, hds, hdigits, hlong⟩
  have hcount : (signedFigures n).countP Char.isDigit ≤ (figures n.natAbs).length := by
    cases n with
    | ofNat k => exact List.countP_le_length
    | negSucc k =>
      rw [signedFigures, List.countP_cons_of_neg (by decide)]
      exact List.countP_le_length
  have : ds.length ≤ maxDigits := by
    calc ds.length
      _ = ds.countP Char.isDigit := (List.countP_eq_length.mpr (List.all_eq_true.mp hdigits)).symm
      _ ≤ (signedFigures n).countP Char.isDigit := hds.sublist.countP_le
      _ ≤ (figures n.natAbs).length := hcount
      _ ≤ maxDigits := h
  omega

end Text

open Text (IsShort signedFigures figures)

/-- The numeral of a short number. -/
def Numeral.ofShort (n : Nat) (h : (figures n).length ≤ maxDigits) : Numeral where
  digits := figures n
  digits_ne_nil := Text.figures_ne_nil n
  all_isDigit := List.all_eq_true.mpr fun _ => Text.isDigit_of_mem_figures
  length_le := h

theorem Numeral.value_of_digits_eq {m : Numeral} {k : Nat} (h : m.digits = figures k) :
    m.value = k := by
  rw [value, h, ofDigitValues, List.foldl_map]
  exact Nat.ofDigitChars_ten_toDigits

namespace Element

variable {e : Element}

/-- An element that is written like a number is that number, which is neither negative nor long. -/
theorem eq_single_of_text (h : e.text = signedFigures n) :
    ∃ m : Numeral, e = plain (.single m) ∧ (m.value : Int) = n ∧ IsShort n := by
  have hslash : '/' ∉ e.text := h ▸ Text.notMem_signedFigures (by decide) (by decide) n
  have hstar : '*' ∉ e.text := h ▸ Text.notMem_signedFigures (by decide) (by decide) n
  cases e with
  | stepped base step => exact absurd (slash_mem_text.mpr ⟨base, step, rfl⟩) hslash
  | plain base =>
    cases base with
    | every => exact absurd (List.mem_singleton_self _) hstar
    | single m =>
      have hdigits : m.digits = signedFigures n := h
      have hdash : '-' ∉ signedFigures n := hdigits ▸ m.not_mem_digits (by decide)
      cases n with
      | ofNat k =>
        have hfigures : m.digits = figures k := hdigits
        have hshort : (figures k).length ≤ maxDigits := hfigures ▸ m.length_le
        exact ⟨m, rfl, congrArg _ (Numeral.value_of_digits_eq hfigures), hshort⟩
      | negSucc k => exact absurd List.mem_cons_self hdash
    | span first last =>
      have hdash : '-' ∈ signedFigures n := by
        rw [← h]
        exact List.mem_append_right _ List.mem_cons_self
      exfalso
      cases n with
      | ofNat k => exact absurd (Text.isDigit_of_mem_figures hdash) (by decide)
      | negSucc k =>
        -- A sign in front leaves nothing for the first number.
        have hends : first.digits ++ '-' :: last.digits = [] ++ '-' :: figures (k + 1) := h
        rw [List.append_cons_inj_of_notMem (first.not_mem_digits (by decide))
          (last.not_mem_digits (by decide))] at hends
        exact first.digits_ne_nil hends.1

theorem exists_fits_iff :
    (∃ e : Element, e.Fits b ∧ e.text = signedFigures n) ↔
      (0 ≤ n ∧ IsShort n) ∧ b.low ≤ n ∧ n ≤ b.high := by
  constructor
  · intro h
    obtain ⟨e, hfits, htext⟩ := h
    obtain ⟨m, rfl, rfl, hshort⟩ := eq_single_of_text htext
    exact ⟨⟨Int.natCast_nonneg _, hshort⟩, hfits⟩
  · intro h
    obtain ⟨⟨hn, hshort⟩, hfits⟩ := h
    have hvalue : ((Numeral.ofShort n.natAbs hshort).value : Int) = n := by
      rw [Numeral.value_of_digits_eq (k := n.natAbs) rfl, Int.natAbs_of_nonneg hn]
    refine ⟨plain (.single (.ofShort n.natAbs hshort)), ?_, ?_⟩
    · rwa [← hvalue] at hfits
    · exact (Text.signedFigures_of_nonneg hn).symm

end Element

theorem pieces_listToken (hne : ns ≠ []) :
    Text.pieces ',' (listToken ns).toList = ns.map signedFigures := by
  have hcomma : ∀ x ∈ ns.map Text.ofInt, ',' ∉ x.toList := List.forall_mem_map.mpr fun n _ => by
    rw [Text.toList_ofInt]
    exact Text.notMem_signedFigures (by decide) (by decide) n
  rw [listToken, Text.pieces_intercalate rfl (mt List.map_eq_nil_iff.mp hne) hcomma, List.map_map]
  exact List.map_congr_left fun n _ => Text.toList_ofInt n

theorem accepts_listToken_iff (hb : b.low ≤ b.high) (hne : ns ≠ []) :
    Token.Accepts b (listToken ns).toList ↔
      ∀ n ∈ ns, (0 ≤ n ∧ IsShort n) ∧ b.low ≤ n ∧ n ≤ b.high := by
  simp only [Token.accepts_iff_forall_pieces hb, pieces_listToken hne, List.forall_mem_map,
    Element.exists_fits_iff]

theorem selects_listToken_iff (hb : b.low ≤ b.high) (hne : ns ≠ [])
    (ha : Token.Accepts b (listToken ns).toList) :
    Token.Selects b (listToken ns).toList v ↔ v ∈ ns := by
  rw [Token.selects_iff_exists_piece ha, pieces_listToken hne]
  constructor
  · intro h
    obtain ⟨part, hpart, e, rfl, hv⟩ := h
    obtain ⟨n, hn, htext⟩ := List.mem_map.mp hpart
    obtain ⟨m, rfl, rfl, -⟩ := Element.eq_single_of_text htext.symm
    exact hv ▸ hn
  · intro h
    obtain ⟨e, -, htext⟩ := Element.exists_fits_iff.mpr ((accepts_listToken_iff hb hne).mp ha v h)
    obtain ⟨m, rfl, hm, -⟩ := Element.eq_single_of_text htext
    exact ⟨signedFigures v, List.mem_map_of_mem h, _, htext, hm.symm⟩

theorem not_stops_listToken (hne : ns ≠ []) (h : ∀ n ∈ ns, IsShort n) (o : OverlongNumber) :
    ¬ Token.Stops b o (listToken ns).toList := by
  rintro ⟨before, s, after, hpieces, -, hs⟩
  have hmem : s ∈ ns.map signedFigures := by
    rw [← pieces_listToken hne, hpieces]
    exact List.mem_append_right _ List.mem_cons_self
  obtain ⟨n, hn, rfl⟩ := List.mem_map.mp hmem
  obtain ⟨ds, hds, hlong⟩ := hs.exists_isWritten
  exact Text.not_hasLongNumber_signedFigures (h n hn) (hlong.hasLongNumber.mono hds)

end CronSchedule
