import CronSchedule.Text.Figures
import Mathlib.Logic.Function.Basic

/-!
Numbers in figures: a run of digits, from which the number can be told.
-/

namespace CronSchedule.Text

theorem isDigit_of_mem_figures {n : Nat} {c : Char} (h : c ∈ figures n) : c.isDigit = true :=
  Nat.isDigit_of_mem_toDigits (by decide) (by decide) h

theorem figures_ne_nil (n : Nat) : figures n ≠ [] :=
  Nat.toDigits_ne_nil

theorem figures_injective : Function.Injective figures :=
  Function.LeftInverse.injective fun _ => Nat.ofDigitChars_ten_toDigits

theorem ofNat_injective : Function.Injective ofNat := by
  intro m n h
  exact figures_injective (String.ofList_injective h)

/-- Numbers that are not negative are written without a sign. -/
theorem ofInt_eq_ofNat {n : Int} (h : 0 ≤ n) : ofInt n = ofNat n.toNat := by
  obtain ⟨k, rfl⟩ := Int.eq_ofNat_of_zero_le h
  rfl

/-! ## Filled up with zeros -/

section

variable {b n w : Nat}

theorem padded_ne_nil : padded w n ≠ [] :=
  List.append_ne_nil_of_right_ne_nil _ (figures_ne_nil n)

theorem isDigit_of_mem_padded {c : Char} (h : c ∈ padded w n) : c.isDigit = true := by
  rcases List.mem_append.mp h with hzero | hfigure
  · rw [List.eq_of_mem_replicate hzero]
    rfl
  · exact isDigit_of_mem_figures hfigure

theorem leftpad_toDigits_one (h : n < b) : (Nat.toDigits b n).leftpad 1 '0' = [n.digitChar] := by
  rw [Nat.toDigits_of_lt_base h]
  rfl

/-- The last figure tells the last place, and the others tell the rest of the number. -/
theorem leftpad_toDigits_succ (hb : 1 < b) :
    (Nat.toDigits b n).leftpad (w + 2) '0' =
      (Nat.toDigits b (n / b)).leftpad (w + 1) '0' ++ [(n % b).digitChar] := by
  by_cases h : n < b
  · rw [Nat.toDigits_of_lt_base h, Nat.div_eq_of_lt h, Nat.toDigits_zero, Nat.mod_eq_of_lt h]
    simp only [List.leftpad, List.length_singleton, Nat.add_sub_cancel]
    rw [← List.replicate_succ']
    rfl
  · rw [Nat.toDigits_of_base_le hb (Nat.not_lt.mp h)]
    simp only [List.leftpad, List.length_append, List.length_singleton, List.append_assoc]
    congr 2
    omega

theorem paddedHex_four (h : n < 0x10000) : paddedHex 4 n =
    [(n / 0x1000).digitChar, (n / 0x100 % 16).digitChar, (n / 0x10 % 16).digitChar,
      (n % 16).digitChar] := by
  have hbase : (1 : Nat) < 16 := by decide
  rw [paddedHex, leftpad_toDigits_succ hbase, leftpad_toDigits_succ hbase, leftpad_toDigits_succ hbase,
    leftpad_toDigits_one (by omega)]
  simp only [Nat.div_div_eq_div_mul]
  rfl

end

end CronSchedule.Text
