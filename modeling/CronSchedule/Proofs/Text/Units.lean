import CronSchedule.Text.Units
import Mathlib.Tactic.SplitIfs

/-!
The units of 16 bits that characters are written with. Main statement: a character is written as its own code,
which is no unit of a pair, or as a pair of units (`units_cases`).
-/

namespace CronSchedule.Text

variable {c : Char} {n : Nat}

theorem isHighUnit_iff : isHighUnit n = true ↔ 0xD800 ≤ n ∧ n < 0xDC00 := by
  simp only [isHighUnit, Bool.and_eq_true, decide_eq_true_eq]

theorem isLowUnit_iff : isLowUnit n = true ↔ 0xDC00 ≤ n ∧ n < 0xE000 := by
  simp only [isLowUnit, Bool.and_eq_true, decide_eq_true_eq]

theorem units_cases (c : Char) :
    (c.toNat < 0x10000 ∧ isHighUnit c.toNat = false ∧ isLowUnit c.toNat = false ∧ units c = [c.toNat]) ∨
      ∃ n < 0x100000, c.toNat = 0x10000 + n ∧ units c = [0xD800 + n / 0x400, 0xDC00 + n % 0x400] := by
  have hvalid : c.toNat < 0xD800 ∨ 0xDFFF < c.toNat ∧ c.toNat < 0x110000 := c.valid
  unfold units
  split_ifs with h
  · refine .inl ⟨h, ?_, ?_, rfl⟩
    · rw [Bool.eq_false_iff, ne_eq, isHighUnit_iff]
      omega
    · rw [Bool.eq_false_iff, ne_eq, isLowUnit_iff]
      omega
  · exact .inr ⟨c.toNat - 0x10000, by omega, by omega, rfl⟩

theorem units_of_lt (h : c.toNat < 0x10000) : units c = [c.toNat] :=
  if_pos h

theorem lt_of_mem_units (h : n ∈ units c) : n < 0x10000 := by
  rcases units_cases c with ⟨hc, -, -, hunits⟩ | ⟨m, hm, -, hunits⟩
  · rw [hunits, List.mem_singleton] at h
    exact h ▸ hc
  · rw [hunits, List.mem_cons, List.mem_singleton] at h
    omega

end CronSchedule.Text
