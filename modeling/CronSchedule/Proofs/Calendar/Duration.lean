import CronSchedule.Calendar.Duration
import CronSchedule.Proofs.Number.Rounding

/-!
How long a number of hours is. Main statement: hours that are not below zero make a duration if they are
less than the hours of a thousand million days, and none otherwise (`Duration.ofHours_of_lt`,
`Duration.ofHours_of_ge`).
-/

namespace CronSchedule

namespace Duration

variable {unit m k n : Nat} {e : Int}

theorem le_microsOf :
    m * powerOfTwo e.toNat / powerOfTwo (-e).toNat * unit ≤ microsOf unit m e := by
  rw [microsOf]
  split
  · exact le_roundedDiv (powerOfTwo_pos _) (Nat.le_add_right _ _)
  · exact Nat.le_refl _

/-- The rest of a unit adds at most as many microseconds as a whole number that bounds it. -/
theorem microsOf_le (hk : k < powerOfTwo 53)
    (h : m * powerOfTwo e.toNat % powerOfTwo (-e).toNat * unit ≤ k * powerOfTwo (-e).toNat) :
    microsOf unit m e ≤ m * powerOfTwo e.toNat / powerOfTwo (-e).toNat * unit + k := by
  obtain ⟨r, q, hform, hr⟩ :=
    Binary64.exists_form_ofRatio_le false (powerOfTwo_pos _) hk h
  rw [microsOf, hform]
  refine roundedDiv_le (powerOfTwo_pos _) ?_
  rw [Nat.add_mul]
  exact Nat.add_le_add_left (scaled_le_scaled_iff.mpr hr) _

/-- The rest of a unit lies at least one microsecond below the unit if it is no finer than that. -/
theorem microsOf_lt_of_le (hunit : unit < powerOfTwo 53) (hscale : powerOfTwo (-e).toNat ≤ unit)
    (h : m * powerOfTwo e.toNat / powerOfTwo (-e).toNat < n) : microsOf unit m e < n * unit := by
  have hpos := powerOfTwo_pos (-e).toNat
  have hrest := Nat.mod_lt (m * powerOfTwo e.toNat) hpos
  have hle : m * powerOfTwo e.toNat % powerOfTwo (-e).toNat * unit ≤
      (unit - 1) * powerOfTwo (-e).toNat := by
    calc m * powerOfTwo e.toNat % powerOfTwo (-e).toNat * unit
        ≤ (powerOfTwo (-e).toNat - 1) * unit :=
          Nat.mul_le_mul_right unit (Nat.le_sub_one_of_lt hrest)
      _ = unit * powerOfTwo (-e).toNat - unit := by rw [Nat.sub_one_mul, Nat.mul_comm]
      _ ≤ unit * powerOfTwo (-e).toNat - powerOfTwo (-e).toNat := Nat.sub_le_sub_left hscale _
      _ = (unit - 1) * powerOfTwo (-e).toNat := (Nat.sub_one_mul unit _).symm
  have hmicros := microsOf_le (by omega) hle
  have hmul := Nat.mul_le_mul_right unit h
  rw [Nat.succ_mul] at hmul
  omega

/-- With more places for the rest than that, the mantissa makes less than all but one of the units. -/
theorem microsOf_lt_of_gt (hm : m < powerOfTwo 53) (hunit : unit < powerOfTwo 53)
    (hn : powerOfTwo 53 ≤ (n - 1) * unit) (hpos : 0 < unit)
    (hscale : unit < powerOfTwo (-e).toNat) : microsOf unit m e < n * unit := by
  have hrest := Nat.mod_lt (m * powerOfTwo e.toNat) (powerOfTwo_pos (-e).toNat)
  have hdiv := Nat.div_mul_le_self (m * powerOfTwo e.toNat) (powerOfTwo (-e).toNat)
  have hmicros : microsOf unit m e ≤ _ := microsOf_le hunit
    ((Nat.mul_le_mul_right unit hrest.le).trans (Nat.mul_comm _ unit).le)
  have hone : powerOfTwo e.toNat = 1 := by
    have hne : (-e).toNat ≠ 0 := by
      intro hzero
      rw [hzero] at hscale
      exact absurd hscale (Nat.not_lt.mpr hpos)
    rw [Int.toNat_of_nonpos (by omega)]
    rfl
  rw [hone, Nat.mul_one] at hdiv hmicros
  generalize m / powerOfTwo (-e).toNat = whole at hdiv hmicros
  have hwhole : whole * unit < (n - 1) * unit :=
    ((Nat.mul_le_mul_left whole hscale.le).trans hdiv).trans_lt (hm.trans_le hn)
  have hnext : whole + 1 < n := by
    have hlt := Nat.lt_of_mul_lt_mul_right hwhole
    omega
  have hmul := Nat.mul_lt_mul_of_pos_right hnext hpos
  rw [Nat.succ_mul] at hmul
  exact hmicros.trans_lt hmul

/-- Rounding does not lead to a whole unit more where the units are many. -/
theorem microsOf_lt (hm : m < powerOfTwo 53) (hunit : unit < powerOfTwo 53)
    (hn : powerOfTwo 53 ≤ (n - 1) * unit)
    (h : m * powerOfTwo e.toNat / powerOfTwo (-e).toNat < n) : microsOf unit m e < n * unit := by
  rcases Nat.lt_or_ge unit (powerOfTwo (-e).toNat) with hlt | hge
  · have hpos : 0 < unit := by
      by_contra hzero
      rw [Nat.eq_zero_of_not_pos hzero] at hn
      exact absurd hn (Nat.not_le.mpr (powerOfTwo_pos 53))
    exact microsOf_lt_of_gt hm hunit hn hpos hlt
  · exact microsOf_lt_of_le hunit hge h

/-- The hours of a thousand million days. -/
def tooManyHours : Nat := 24000000000

/-- The reason that a number of hours has for being no duration. -/
def Failure.Explains (x : Binary64) : Failure → Prop
  | notANumber => x.form = .nan
  | infinite => ∃ negative, x.form = .infinite negative
  | tooManyDays days => 999999999 < days ∧ ∃ v, x.value? = some v ∧ tooManyHours ≤ v

theorem bounded_of_lt (h : n < tooManyHours * microsecondsPerHour) :
    bounded ⟨n⟩ = .ok ⟨n⟩ := by
  have hmul : tooManyHours * microsecondsPerHour = 1000000000 * microsecondsPerDay := by decide
  rw [hmul] at h
  have hlt := Nat.div_lt_of_lt_mul (Nat.mul_comm _ _ ▸ h)
  have hnonneg : 0 ≤ (n : Int) / (microsecondsPerDay : Nat) :=
    Int.ediv_nonneg (Int.natCast_nonneg n) (Int.natCast_nonneg _)
  have hdays : (n : Int) / (microsecondsPerDay : Nat) ≤ 999999999 := by omega
  exact if_pos ⟨Int.le_trans (by decide) hnonneg, hdays⟩

theorem bounded_of_ge (h : tooManyHours * microsecondsPerHour ≤ n) :
    ∃ days, 999999999 < days ∧ bounded ⟨n⟩ = .error (.tooManyDays days) := by
  have hmul : tooManyHours * microsecondsPerHour = 1000000000 * microsecondsPerDay := by decide
  rw [hmul] at h
  have hle := (Nat.le_div_iff_mul_le (by decide)).mpr h
  have hdays : 999999999 < (n : Int) / (microsecondsPerDay : Nat) := by omega
  refine ⟨_, hdays, if_neg ?_⟩
  exact fun hin => absurd hin.2 (Int.not_le.mpr hdays)

variable {x : Binary64}

theorem ofHours_of_form (hx : x.form = .finite false m e) :
    ofHours x = bounded ⟨microsOf microsecondsPerHour m e⟩ := by
  rw [ofHours, hx]
  rfl

theorem ofHours_of_lt (hx : x.form = .finite false m e) (h : (m : ℚ) * 2 ^ e < tooManyHours) :
    ∃ n : Nat, ofHours x = .ok ⟨n⟩ := by
  have hunits : m * powerOfTwo e.toNat / powerOfTwo (-e).toNat < tooManyHours :=
    (Nat.div_lt_iff_lt_mul (powerOfTwo_pos _)).mpr (scaled_lt_scaled_iff.mpr h)
  have hlt : microsOf microsecondsPerHour m e < tooManyHours * microsecondsPerHour :=
    microsOf_lt (Binary64.mantissa_lt hx) (by decide) (by decide) hunits
  exact ⟨_, (ofHours_of_form hx).trans (bounded_of_lt hlt)⟩

theorem ofHours_of_ge (hx : x.form = .finite false m e) (h : (tooManyHours : ℚ) ≤ m * 2 ^ e) :
    ∃ days, 999999999 < days ∧ ofHours x = .error (.tooManyDays days) := by
  have hunits : tooManyHours ≤ m * powerOfTwo e.toNat / powerOfTwo (-e).toNat := by
    by_contra hlt
    rw [Nat.not_le, Nat.div_lt_iff_lt_mul (powerOfTwo_pos _), scaled_lt_scaled_iff] at hlt
    exact absurd h (not_le.mpr hlt)
  obtain ⟨days, hdays, herror⟩ :=
    bounded_of_ge ((Nat.mul_le_mul_right microsecondsPerHour hunits).trans le_microsOf)
  exact ⟨days, hdays, (ofHours_of_form hx).trans herror⟩

theorem Failure.Explains.not_lt {f : Failure} {v : ℚ} (h : f.Explains x) (hv : x.value? = some v) :
    ¬ v < tooManyHours := by
  rw [Binary64.value?] at hv
  cases f with
  | notANumber =>
    rw [h] at hv
    cases hv
  | infinite =>
    obtain ⟨negative, hform⟩ := h
    rw [hform] at hv
    cases hv
  | tooManyDays days =>
    obtain ⟨-, w, hw, hle⟩ := h
    cases hw.symm.trans hv
    exact hle.not_gt

end Duration

end CronSchedule
