import CronSchedule.Number.Binary64
import Mathlib.Algebra.Order.Field.Power
import Mathlib.Data.Rat.Cast.Order

/-!
How ratios are rounded to floating-point numbers. Main statements: rounding does not lead past a whole
number that has a representation of its own (`Binary64.exists_form_ofRatio_le`), and an integer has no
floating-point number near it exactly from `2 ^ 1024 - 2 ^ 970` on (`Binary64.ofInt?_eq_none_iff`).
-/

namespace CronSchedule

section RoundedDiv

variable {num den k : Nat}

theorem roundedDiv_le (hd : 0 < den) (h : num ≤ k * den) : roundedDiv num den ≤ k := by
  have hdiv := Nat.div_add_mod num den
  have hq : num / den ≤ k := Nat.div_le_of_le_mul (Nat.mul_comm k den ▸ h)
  rw [roundedDiv]
  split
  · exact hq
  · next hr =>
    refine Nat.lt_of_le_of_ne hq fun hk => hr (.inl ?_)
    rw [hk, Nat.mul_comm den k] at hdiv
    omega

theorem le_roundedDiv (hd : 0 < den) (h : k * den ≤ num) : k ≤ roundedDiv num den := by
  have hq : k ≤ num / den := (Nat.le_div_iff_mul_le hd).mpr h
  rw [roundedDiv]
  split
  · exact hq
  · exact Nat.le_succ_of_le hq

/-- An odd number is left upwards from halfway on. -/
theorem succ_le_roundedDiv_iff (hd : 0 < den) (hk : k % 2 = 1) :
    k + 1 ≤ roundedDiv num den ↔ k * den + (k + 1) * den ≤ 2 * num := by
  have hsucc : (k + 1) * den = k * den + den := Nat.succ_mul k den
  constructor
  · intro h
    have hnum : k * den ≤ num := by
      by_contra hlt
      have hle := roundedDiv_le hd (Nat.le_of_not_le hlt)
      omega
    by_contra hlt
    have hdiv := Nat.div_add_mod num den
    have hq : num / den = k := Nat.div_eq_of_lt_le hnum (by omega)
    rw [hq, Nat.mul_comm den k] at hdiv
    rw [roundedDiv, hq, if_pos (.inl (by omega))] at h
    omega
  · intro h
    by_cases hnum : (k + 1) * den ≤ num
    · exact le_roundedDiv hd hnum
    · have hdiv := Nat.div_add_mod num den
      have hq : num / den = k := Nat.div_eq_of_lt_le (by omega) (by omega)
      rw [hq, Nat.mul_comm den k] at hdiv
      rw [roundedDiv, hq, if_neg (by omega)]

end RoundedDiv

theorem powerOfTwo_pos (n : Nat) : 0 < powerOfTwo n :=
  Nat.two_pow_pos n

theorem powerOfTwo_add (m n : Nat) : powerOfTwo (m + n) = powerOfTwo m * powerOfTwo n :=
  Nat.pow_add 2 m n

theorem powerOfTwo_le {m n : Nat} (h : m ≤ n) : powerOfTwo m ≤ powerOfTwo n :=
  Nat.pow_le_pow_right Nat.two_pos h

theorem powerOfTwo_lt {m n : Nat} (h : m < n) : powerOfTwo m < powerOfTwo n :=
  Nat.pow_lt_pow_right Nat.one_lt_two h

theorem cast_powerOfTwo (n : Nat) : (powerOfTwo n : ℚ) = 2 ^ n :=
  Nat.cast_pow 2 n

section Scaled

variable {a b : Nat} {q : ℤ}

theorem cast_scaled (a : Nat) (q : ℤ) :
    ((a * powerOfTwo q.toNat : Nat) : ℚ) = a * 2 ^ q * (powerOfTwo (-q).toNat : Nat) := by
  obtain ⟨n, rfl | rfl⟩ := q.eq_nat_or_neg
  · simp [cast_powerOfTwo]
  · simp [cast_powerOfTwo]

/-- Scaling both sides to whole numbers compares the numbers themselves. -/
theorem scaled_le_scaled_iff :
    a * powerOfTwo q.toNat ≤ b * powerOfTwo (-q).toNat ↔ (a : ℚ) * 2 ^ q ≤ b := by
  rw [← Nat.cast_le (α := ℚ), cast_scaled, Nat.cast_mul]
  exact mul_le_mul_iff_of_pos_right (Nat.cast_pos.mpr (powerOfTwo_pos _))

theorem scaled_lt_scaled_iff :
    a * powerOfTwo q.toNat < b * powerOfTwo (-q).toNat ↔ (a : ℚ) * 2 ^ q < b := by
  rw [← Nat.cast_lt (α := ℚ), cast_scaled, Nat.cast_mul]
  exact mul_lt_mul_iff_of_pos_right (Nat.cast_pos.mpr (powerOfTwo_pos _))

theorem scaled_lt_iff :
    a * powerOfTwo (-q).toNat < b * powerOfTwo q.toNat ↔ (a : ℚ) < b * 2 ^ q := by
  have h := scaled_lt_scaled_iff (a := a) (b := b) (q := -q)
  rwa [neg_neg, zpow_neg, mul_inv_lt_iff₀ (zpow_pos two_pos q)] at h

theorem scaled_le_iff :
    a * powerOfTwo (-q).toNat ≤ b * powerOfTwo q.toNat ↔ (a : ℚ) ≤ b * 2 ^ q := by
  have h := scaled_le_scaled_iff (a := a) (b := b) (q := -q)
  rwa [neg_neg, zpow_neg, mul_inv_le_iff₀ (zpow_pos two_pos q)] at h

end Scaled

section FloorLog2

variable {num den : Nat}

theorem two_zpow_log2_le (hn : num ≠ 0) : (2 : ℚ) ^ (num.log2 : ℤ) ≤ num := by
  rw [zpow_natCast]
  exact_mod_cast Nat.log2_self_le hn

theorem lt_two_zpow_log2 (num : Nat) : (num : ℚ) < 2 ^ (num.log2 + 1 : ℤ) := by
  have h : num < 2 ^ (num.log2 + 1) := Nat.lt_log2_self
  exact_mod_cast h

theorem floorLog2_spec (hn : num ≠ 0) (hd : den ≠ 0) :
    (den : ℚ) * 2 ^ floorLog2 num den ≤ num ∧ (num : ℚ) < den * 2 ^ (floorLog2 num den + 1) := by
  have hpos (q : ℤ) : (0 : ℚ) < 2 ^ q := zpow_pos two_pos q
  have hlow : (den : ℚ) * 2 ^ ((num.log2 : ℤ) - den.log2 - 1) ≤ num := by
    calc (den : ℚ) * 2 ^ ((num.log2 : ℤ) - den.log2 - 1)
        ≤ 2 ^ (den.log2 + 1 : ℤ) * 2 ^ ((num.log2 : ℤ) - den.log2 - 1) :=
          mul_le_mul_of_nonneg_right (lt_two_zpow_log2 den).le (hpos _).le
      _ = 2 ^ (num.log2 : ℤ) := by
          rw [← zpow_add₀ two_ne_zero]
          congr 1
          omega
      _ ≤ num := two_zpow_log2_le hn
  have hhigh : (num : ℚ) < den * 2 ^ ((num.log2 : ℤ) - den.log2 + 1) := by
    calc (num : ℚ) < 2 ^ (num.log2 + 1 : ℤ) := lt_two_zpow_log2 num
      _ = 2 ^ (den.log2 : ℤ) * 2 ^ ((num.log2 : ℤ) - den.log2 + 1) := by
          rw [← zpow_add₀ two_ne_zero]
          congr 1
          omega
      _ ≤ den * 2 ^ ((num.log2 : ℤ) - den.log2 + 1) :=
          mul_le_mul_of_nonneg_right (two_zpow_log2_le hd) (hpos _).le
  rw [floorLog2]
  split
  · next h =>
    rw [sub_add_cancel]
    exact ⟨hlow, scaled_lt_iff.mp h⟩
  · next h => exact ⟨not_lt.mp fun hlt => h (scaled_lt_iff.mpr hlt), hhigh⟩

theorem floorLog2_le {k n : Nat} (hn : num ≠ 0) (hd : 0 < den) (hk : k < powerOfTwo (n + 1))
    (h : num ≤ k * den) : floorLog2 num den ≤ n := by
  by_contra hlt
  have hpow : (2 : ℚ) ^ (n + 1) ≤ 2 ^ floorLog2 num den := by
    rw [← zpow_natCast]
    exact zpow_le_zpow_right₀ one_le_two (by omega)
  have hle : (den : ℚ) * powerOfTwo (n + 1) ≤ den * k := by
    calc (den : ℚ) * powerOfTwo (n + 1)
        ≤ den * 2 ^ floorLog2 num den := by
          rw [cast_powerOfTwo]
          exact mul_le_mul_of_nonneg_left hpow (Nat.cast_nonneg den)
      _ ≤ num := (floorLog2_spec hn hd.ne').1
      _ ≤ den * k := by
          rw [mul_comm]
          exact_mod_cast h
  exact absurd (le_of_mul_le_mul_left hle (Nat.cast_pos.mpr hd)) (not_le.mpr (Nat.cast_lt.mpr hk))

end FloorLog2

namespace Binary64

variable {num den : Nat} {negative : Bool}

/-- The exponent of the last place that a ratio is rounded to. -/
def lastPlace (num den : Nat) : Int :=
  max (floorLog2 num den - 52) (-1074)

/-- A ratio as a whole number of units in its last place. -/
def significand (num den : Nat) : Nat :=
  roundedDiv (num * powerOfTwo (-lastPlace num den).toNat) (den * powerOfTwo (lastPlace num den).toNat)

theorem significand_le (hn : num ≠ 0) (hd : 0 < den) : significand num den ≤ powerOfTwo 53 := by
  refine roundedDiv_le (Nat.mul_pos hd (powerOfTwo_pos _)) ?_
  rw [← Nat.mul_assoc, scaled_le_iff]
  refine (floorLog2_spec hn hd.ne').2.le.trans ?_
  have hq : floorLog2 num den + 1 ≤ 53 + lastPlace num den := by
    have h := le_max_left (floorLog2 num den - 52) (-1074)
    rw [← lastPlace] at h
    omega
  calc (den : ℚ) * 2 ^ (floorLog2 num den + 1)
      ≤ den * 2 ^ (53 + lastPlace num den) :=
        mul_le_mul_of_nonneg_left (zpow_le_zpow_right₀ one_le_two hq) (Nat.cast_nonneg den)
    _ = (powerOfTwo 53 * den : Nat) * 2 ^ lastPlace num den := by
        rw [zpow_add₀ two_ne_zero, Nat.cast_mul, cast_powerOfTwo, mul_left_comm, mul_assoc]
        rfl

theorem le_significand (hn : num ≠ 0) (hd : 0 < den) (hq : -1074 < lastPlace num den) :
    powerOfTwo 52 ≤ significand num den := by
  refine le_roundedDiv (Nat.mul_pos hd (powerOfTwo_pos _)) ?_
  rw [← Nat.mul_assoc, scaled_le_scaled_iff]
  have hq : floorLog2 num den = 52 + lastPlace num den := by
    rw [lastPlace] at hq ⊢
    omega
  calc ((powerOfTwo 52 * den : Nat) : ℚ) * 2 ^ lastPlace num den
      = den * 2 ^ floorLog2 num den := by
        rw [hq, zpow_add₀ two_ne_zero, Nat.cast_mul, cast_powerOfTwo, mul_left_comm, mul_assoc]
        rfl
    _ ≤ num := (floorLog2_spec hn hd.ne').1

/-- The bits of a ratio without the sign, unless it is too large. -/
def magnitude (num den : Nat) : Nat :=
  (lastPlace num den + 1074).toNat * powerOfTwo 52 + significand num den

theorem ofRatio_of_ne_zero (hn : num ≠ 0) : ofRatio negative num den =
    if 0x7FF * powerOfTwo 52 ≤ magnitude num den then infinity negative
    else ofMagnitude negative (magnitude num den) :=
  if_neg hn

theorem powerOfTwo_11 : powerOfTwo 11 = 2048 := rfl

theorem powerOfTwo_52 : powerOfTwo 52 = 4503599627370496 := rfl

theorem powerOfTwo_53 : powerOfTwo 53 = 9007199254740992 := rfl

theorem powerOfTwo_63 : powerOfTwo 63 = 9223372036854775808 := rfl

theorem toNat_bits_ofMagnitude (negative : Bool) {n : Nat} (hn : n < powerOfTwo 63) :
    (ofMagnitude negative n).bits.toNat = (if negative then powerOfTwo 63 else 0) + n := by
  rw [ofMagnitude, UInt64.toNat_ofNat']
  rw [powerOfTwo_63] at hn ⊢
  apply Nat.mod_eq_of_lt
  split <;> omega

/-- What an exponent and a fraction stand for. -/
theorem form_ofMagnitude {e f : Nat} (he : e < powerOfTwo 11) (hf : f < powerOfTwo 52) :
    (ofMagnitude negative (e * powerOfTwo 52 + f)).form =
      if e = 2047 then if f = 0 then .infinite negative else .nan
      else if e = 0 then .finite negative f (-1074)
      else .finite negative (f + powerOfTwo 52) (e - 1075) := by
  have hlt : e * powerOfTwo 52 + f < powerOfTwo 63 := by
    rw [powerOfTwo_11] at he
    rw [powerOfTwo_52] at hf ⊢
    rw [powerOfTwo_63]
    omega
  have hbits := toNat_bits_ofMagnitude negative hlt
  generalize (ofMagnitude negative (e * powerOfTwo 52 + f)) = x at hbits ⊢
  have hsign : decide (powerOfTwo 63 ≤ x.bits.toNat) = negative := by
    rw [hbits]
    cases negative with
    | false => exact decide_eq_false (by simpa using hlt)
    | true => exact decide_eq_true (Nat.le_add_right _ _)
  have hexponent : x.bits.toNat / powerOfTwo 52 % powerOfTwo 11 = e := by
    rw [hbits, powerOfTwo_63, powerOfTwo_11]
    rw [powerOfTwo_11] at he
    rw [powerOfTwo_52] at hf ⊢
    split <;> omega
  have hfraction : x.bits.toNat % powerOfTwo 52 = f := by
    rw [hbits, powerOfTwo_63]
    rw [powerOfTwo_52] at hf ⊢
    split <;> omega
  simp only [form, hsign, hexponent, hfraction]

theorem form_infinity : (infinity negative).form = .infinite negative :=
  form_ofMagnitude (e := 2047) (f := 0) (by decide) (by decide)

/-- A ratio that is not too large becomes its significand in units of its last place, or the same
number one place further up. -/
theorem form_ofRatio (negative : Bool) (hn : num ≠ 0) (hd : 0 < den)
    (h : magnitude num den < 0x7FF * powerOfTwo 52) :
    (ofRatio negative num den).form =
        .finite negative (significand num den) (lastPlace num den) ∨
      significand num den = powerOfTwo 53 ∧ (ofRatio negative num den).form =
        .finite negative (powerOfTwo 52) (lastPlace num den + 1) := by
  have hplace : -1074 ≤ lastPlace num den := le_max_right _ _
  have hle := significand_le hn hd
  have hge := le_significand hn hd
  rw [ofRatio_of_ne_zero hn, if_neg (Nat.not_le.mpr h)]
  rw [magnitude] at h ⊢
  obtain ⟨e, he⟩ : ∃ e : Nat, lastPlace num den + 1074 = e :=
    ⟨(lastPlace num den + 1074).toNat, by omega⟩
  rw [he, Int.toNat_natCast] at h ⊢
  generalize significand num den = s at hle hge h ⊢
  rw [powerOfTwo_53] at hle ⊢
  rcases Nat.lt_or_ge s (powerOfTwo 52) with hs | hs
  · -- below the least normal number the exponent field is zero
    have he0 : e = 0 := by
      by_contra hne
      exact absurd (hge (by omega)) (Nat.not_le.mpr hs)
    left
    rw [form_ofMagnitude (by rw [powerOfTwo_11]; omega) hs, if_neg (by omega), if_pos he0]
    congr 1
    omega
  · rw [powerOfTwo_52] at h hs
    rcases Nat.eq_or_lt_of_le hle with rfl | hlt
    · -- rounded up to a power of two, the fraction runs over into the exponent
      have hsplit : e * powerOfTwo 52 + 9007199254740992 = (e + 2) * powerOfTwo 52 + 0 := by
        rw [powerOfTwo_52]
        omega
      right
      rw [hsplit, form_ofMagnitude (by rw [powerOfTwo_11]; omega) (powerOfTwo_pos 52),
        if_neg (by omega), if_neg (by omega), Nat.zero_add]
      refine ⟨rfl, congrArg _ ?_⟩
      omega
    · have hsplit : e * powerOfTwo 52 + s = (e + 1) * powerOfTwo 52 + (s - powerOfTwo 52) := by
        rw [powerOfTwo_52]
        omega
      left
      rw [hsplit, form_ofMagnitude (by rw [powerOfTwo_11]; omega) (by rw [powerOfTwo_52]; omega),
        if_neg (by omega), if_neg (by omega), Nat.sub_add_cancel (powerOfTwo_52 ▸ hs)]
      congr 1
      omega

theorem form_ofMagnitude_zero : (ofMagnitude negative 0).form = .finite negative 0 (-1074) :=
  form_ofMagnitude (e := 0) (f := 0) (by decide) (by decide)

theorem significand_mul_zpow_le {k : Nat} (hd : 0 < den) (hq : lastPlace num den ≤ 0)
    (h : num ≤ k * den) : (significand num den : ℚ) * 2 ^ lastPlace num den ≤ k := by
  have hone : powerOfTwo (lastPlace num den).toNat = 1 := by
    rw [Int.toNat_of_nonpos hq]
    rfl
  rw [← scaled_le_scaled_iff, hone, Nat.mul_one]
  refine roundedDiv_le (Nat.mul_pos hd (powerOfTwo_pos _)) ?_
  rw [hone, Nat.mul_one, Nat.mul_right_comm]
  exact Nat.mul_le_mul_right _ h

/-- Rounding does not lead past a whole number that has its own representation. -/
theorem exists_form_ofRatio_le (negative : Bool) {k : Nat} (hd : 0 < den) (hk : k < powerOfTwo 53)
    (h : num ≤ k * den) :
    ∃ m e, (ofRatio negative num den).form = .finite negative m e ∧ (m : ℚ) * 2 ^ e ≤ k := by
  by_cases hn : num = 0
  · refine ⟨0, -1074, ?_, ?_⟩
    · rw [ofRatio, if_pos hn, form_ofMagnitude_zero]
    · rw [Nat.cast_zero, zero_mul]
      exact Nat.cast_nonneg k
  · have hfloor : floorLog2 num den ≤ (52 : Nat) := floorLog2_le hn hd hk h
    have hq : lastPlace num den ≤ 0 := by
      rw [lastPlace]
      omega
    have hvalue := significand_mul_zpow_le hd hq h
    have hmagnitude : magnitude num den < 0x7FF * powerOfTwo 52 := by
      have hs := significand_le hn hd
      rw [powerOfTwo_53] at hs
      rw [magnitude, powerOfTwo_52]
      omega
    rcases form_ofRatio negative hn hd hmagnitude with hform | ⟨hs, hform⟩
    · exact ⟨_, _, hform, hvalue⟩
    · refine ⟨_, _, hform, ?_⟩
      rw [hs, cast_powerOfTwo] at hvalue
      rw [cast_powerOfTwo, ← zpow_natCast, ← zpow_add₀ two_ne_zero]
      rw [← zpow_natCast, ← zpow_add₀ two_ne_zero] at hvalue
      convert hvalue using 2
      omega

section Integer

variable {n : Nat}

theorem floorLog2_one (hn : n ≠ 0) : floorLog2 n 1 = n.log2 := by
  have hone : Nat.log2 1 = 0 := by decide
  have hle : ¬ n * powerOfTwo (-(n.log2 : ℤ)).toNat < 1 * powerOfTwo (n.log2 : ℤ).toNat := by
    rw [scaled_lt_iff, Nat.cast_one, one_mul]
    exact not_lt.mpr (two_zpow_log2_le hn)
  rw [floorLog2, hone, Nat.cast_zero, sub_zero]
  exact if_neg hle

theorem lastPlace_one (hn : n ≠ 0) : lastPlace n 1 = n.log2 - 52 := by
  rw [lastPlace, floorLog2_one hn]
  omega

/-- Integers are too large from halfway between the greatest finite number and the next power of two. -/
theorem magnitude_one_iff (hn : n ≠ 0) :
    0x7FF * powerOfTwo 52 ≤ magnitude n 1 ↔ powerOfTwo 1024 - powerOfTwo 970 ≤ n := by
  have hplace := lastPlace_one hn
  have hle := significand_le hn Nat.one_pos
  have hge := le_significand hn Nat.one_pos (by omega)
  have h971 : powerOfTwo 971 = powerOfTwo 970 * powerOfTwo 1 := powerOfTwo_add 970 1
  have h1023 : powerOfTwo 1023 = powerOfTwo 970 * powerOfTwo 53 := powerOfTwo_add 970 53
  have h1024 : powerOfTwo 1024 = powerOfTwo 970 * powerOfTwo 54 := powerOfTwo_add 970 54
  have h54 : powerOfTwo 54 = 18014398509481984 := rfl
  have hpos := powerOfTwo_pos 970
  rw [powerOfTwo_53] at hle h1023
  rw [powerOfTwo_52] at hge
  rw [h54] at h1024
  rw [magnitude, powerOfTwo_52]
  rcases Nat.lt_trichotomy n.log2 1023 with hlog | hlog | hlog
  · have hlt : n < powerOfTwo 1023 := Nat.lt_of_lt_of_le Nat.lt_log2_self (powerOfTwo_le hlog)
    refine iff_of_false ?_ ?_ <;> omega
  · -- within the highest exponent a number is too large if it is rounded up to `2 ^ 1024`
    have htop : 9007199254740991 + 1 ≤ significand n 1 ↔ _ :=
      succ_le_roundedDiv_iff (Nat.mul_pos Nat.one_pos (powerOfTwo_pos _)) rfl
    have hq : lastPlace n 1 = 971 := by omega
    have h0 : powerOfTwo 0 = 1 := rfl
    have h1 : powerOfTwo 1 = 2 := rfl
    rw [hq, show (971 : ℤ).toNat = 971 from rfl, show (-971 : ℤ).toNat = 0 from rfl, h0, h971,
      h1] at htop
    rw [hq, show (971 + 1074 : ℤ).toNat = 2045 from rfl]
    omega
  · have hle : powerOfTwo 1024 ≤ n := (powerOfTwo_le hlog).trans (Nat.log2_self_le hn)
    refine iff_of_true ?_ ?_ <;> omega

theorem exists_form_ofRatio_one (negative : Bool) (h : n < powerOfTwo 1024 - powerOfTwo 970) :
    ∃ m e, (ofRatio negative n 1).form = .finite negative m e ∧ (m = 0 ↔ n = 0) := by
  by_cases hn : n = 0
  · exact ⟨0, -1074, by rw [ofRatio, if_pos hn, form_ofMagnitude_zero], iff_of_true rfl hn⟩
  · have hplace := lastPlace_one hn
    have hge := le_significand hn Nat.one_pos (by omega)
    have hpos := powerOfTwo_pos 52
    have hsmall := Nat.not_le.mp (mt (magnitude_one_iff hn).mp (Nat.not_le.mpr h))
    rcases form_ofRatio negative hn Nat.one_pos hsmall with hform | ⟨-, hform⟩
    · exact ⟨_, _, hform, iff_of_false (by omega) hn⟩
    · exact ⟨_, _, hform, iff_of_false (by omega) hn⟩

theorem ofInt?_of_form {k : ℤ} {m : Nat} {e : ℤ}
    (h : (ofRatio (k < 0) k.natAbs 1).form = .finite negative m e) :
    ofInt? k = some (ofRatio (k < 0) k.natAbs 1) := by
  simp only [ofInt?, h]

theorem ofInt?_eq_none_iff {k : ℤ} :
    ofInt? k = none ↔ powerOfTwo 1024 - powerOfTwo 970 ≤ k.natAbs := by
  constructor
  · intro h
    by_contra hlt
    obtain ⟨m, e, hform, -⟩ := exists_form_ofRatio_one _ (Nat.not_le.mp hlt)
    rw [ofInt?_of_form hform] at h
    cases h
  · intro h
    have hlt : powerOfTwo 970 < powerOfTwo 1024 := powerOfTwo_lt (by omega)
    have hk : k.natAbs ≠ 0 := by omega
    rw [ofInt?, ofRatio_of_ne_zero hk, if_pos ((magnitude_one_iff hk).mpr h), form_infinity]

/-- A number keeps the sign of the integer that it comes from. -/
theorem isBelowZero_of_ofInt? {k : ℤ} {x : Binary64} (h : ofInt? k = some x) :
    x.isBelowZero = decide (k < 0) := by
  have hlt : k.natAbs < powerOfTwo 1024 - powerOfTwo 970 := by
    by_contra hle
    rw [ofInt?_eq_none_iff.mpr (Nat.not_lt.mp hle)] at h
    cases h
  obtain ⟨m, e, hform, hm⟩ := exists_form_ofRatio_one (decide (k < 0)) hlt
  rw [ofInt?_of_form hform] at h
  cases h
  rw [isBelowZero, hform]
  by_cases hk : k < 0
  · have hne : m ≠ 0 := mt hm.mp (by omega)
    simp [hk, hne]
  · simp [hk]

end Integer

section Finite

variable {x : Binary64} {m : Nat} {e : Int}

/-- The number itself, if it is finite. -/
def value? (x : Binary64) : Option ℚ :=
  match x.form with
  | .finite negative m e => some ((if negative then -1 else 1) * (m * 2 ^ e))
  | _ => none

theorem mantissa_lt (h : x.form = .finite negative m e) : m < powerOfTwo 53 := by
  have hfraction : x.bits.toNat % powerOfTwo 52 < powerOfTwo 52 := Nat.mod_lt _ (powerOfTwo_pos 52)
  have h53 : powerOfTwo 53 = powerOfTwo 52 + powerOfTwo 52 := rfl
  rw [form] at h
  split at h
  · split at h <;> cases h
  · split at h
    · cases h
      omega
    · cases h
      omega

end Finite

end Binary64

end CronSchedule
