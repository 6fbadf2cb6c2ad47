import CronSchedule.Calendar.IsoText
import CronSchedule.Proofs.Calendar.TimeLine
import CronSchedule.Proofs.Text.Figures
import Mathlib.Data.List.TakeWhile

/-!
Reading the stamps that were written. Main statement: a stamp is read again from its text, with the same clock
and the same offset (`Stamp.ofIso?_isoText`).
-/

namespace CronSchedule

theorem Text.length_padded {w n : Nat} (hw : 0 < w) (h : n < 10 ^ w) : (padded w n).length = w := by
  rw [padded, List.length_leftpad]
  exact Nat.max_eq_left ((Nat.length_toDigits_le_iff (by decide) hw).mpr h)

theorem DecimalText.natValue_padded (w n : Nat) : natValue (Text.padded w n) = n := by
  rw [natValue, ofDigitValues, List.foldl_map, ← Nat.ofDigitChars_eq_foldl, Text.padded, List.leftpad,
    Nat.ofDigitChars_append, Nat.ofDigitChars_replicate_zero, Nat.mul_zero]
  exact Nat.ofDigitChars_ten_toDigits

namespace IsoText

variable {w n k : Nat} {s : List Char} {c : Civil}

theorem digits?_padded (hw : 0 < w) (h : n < 10 ^ w) :
    digits? w (Text.padded w n ++ s) = some (n, s) := by
  have hlength := Text.length_padded hw h
  have hdigits : (Text.padded w n).all Char.isDigit = true :=
    List.all_eq_true.mpr fun _ => Text.isDigit_of_mem_padded
  rw [digits?, List.take_left' hlength, List.drop_left' hlength, DecimalText.natValue_padded]
  exact if_pos ⟨hlength, hdigits⟩

/-! ## Dates -/

theorem monthDay?_padded {d : Date} (h : d.isValid = true) :
    monthDay? true d.year (Text.padded 2 d.month ++ '-' :: (Text.padded 2 d.day ++ s)) = some (d, s) := by
  obtain ⟨-, hmonth, -, hday⟩ := Date.isValid_iff.mp h
  have hlength : d.monthLength ≤ 31 := by
    have hall : ∀ leap, ∀ m < 12, (monthLengths leap).getD m 0 ≤ 31 := by decide
    exact hall _ _ (by omega)
  have hmonth' : d.month < 10 ^ 2 := by omega
  have hday' : d.day < 10 ^ 2 := by omega
  simp only [monthDay?, digits?_padded Nat.two_pos hmonth', digits?_padded Nat.two_pos hday', bind,
    Option.bind, List.head?_cons, List.tail_cons, if_true, if_pos h]

theorem date?_padded {d : Date} (h : d.isValid = true) :
    date? (Text.padded 4 d.year ++ '-' :: (Text.padded 2 d.month ++ '-' :: (Text.padded 2 d.day ++ s))) =
      some (d, s) := by
  have hyear : d.year < 10 ^ 4 := Nat.lt_succ_of_le (Date.isValid_iff.mp h).1.2
  rw [date?, digits?_padded (by decide) hyear]
  -- the month starts with a digit, so this is no week
  cases hmonth : Text.padded 2 d.month with
  | nil => exact absurd hmonth Text.padded_ne_nil
  | cons figure month =>
    have hdigit : figure ≠ 'W' := by
      rintro rfl
      exact absurd (Text.isDigit_of_mem_padded (hmonth ▸ List.mem_cons_self)) (by decide)
    have hrest := monthDay?_padded (s := s) h
    rw [hmonth] at hrest
    simp only [bind, Option.bind, List.cons_append]
    split
    · next heq =>
      cases heq
      exact absurd rfl hdigit
    · next heq =>
      cases heq
      exact hrest
    · next heq => cases heq
    · next hmark _ => exact absurd rfl (hmark _)

/-! ## Times -/

theorem follow_colon (h : s ≠ []) : follow true (':' :: s) = .part s := by
  cases s with
  | nil => exact absurd rfl h
  | cons => rfl

theorem follow_point (h : s ≠ []) : follow true ('.' :: s) = .fraction s := by
  cases s with
  | nil => exact absurd rfl h
  | cons => rfl

theorem fraction?_padded (h : n < microsecondsPerSecond) : fraction? (Text.padded 6 n) = some (n, true) := by
  have hlength : (Text.padded 6 n).length = 6 := Text.length_padded (by decide) h
  have hdigits : ∀ c ∈ Text.padded 6 n, c.isDigit = true := fun _ => Text.isDigit_of_mem_padded
  rw [fraction?, List.take_of_length_le (Nat.le_of_eq hlength), List.rightpad, hlength, Nat.sub_self,
    List.replicate_zero, List.append_nil, DecimalText.natValue_padded, List.dropWhile_eq_nil_iff.mpr hdigits]
  exact if_pos (List.all_eq_true.mpr hdigits)

/-- A part of a second, which is left out if there is none. -/
def fractionText (n : Nat) : List Char :=
  if n = 0 then [] else '.' :: Text.padded 6 n

theorem parts?_fractionText (h : n < microsecondsPerSecond) :
    parts? true k (fractionText n) = some ([], n, true) := by
  rw [fractionText]
  split
  · next hzero =>
    subst hzero
    unfold parts?
    rfl
  · unfold parts?
    rw [follow_point Text.padded_ne_nil]
    simp only [fraction?_padded h, Option.map_some]

theorem parts?_part (h : n < 60) :
    parts? true (k + 1) (':' :: (Text.padded 2 n ++ s)) =
      (parts? true k s).map fun r => (n :: r.1, r.2) := by
  have hlt : n < 10 ^ 2 := Nat.lt_trans h (by decide)
  rw [parts?, follow_colon (List.append_ne_nil_of_left_ne_nil Text.padded_ne_nil s)]
  simp only [digits?_padded Nat.two_pos hlt, bind, Option.bind]
  cases parts? true k s <;> rfl

theorem time?_padded (h : n < 24) :
    time? (Text.padded 2 n ++ ':' :: s) = (parts? true 2 (':' :: s)).map fun r =>
      ⟨n, r.1.getD 0 0, r.1.getD 1 0, r.2.1, r.2.2⟩ := by
  have hlt : n < 10 ^ 2 := Nat.lt_trans h (by decide)
  simp only [time?, digits?_padded Nat.two_pos hlt, bind, Option.bind, List.head?_cons, decide_true]
  cases parts? true 2 (':' :: s) <;> rfl

theorem time?_timeText (h : c.isValid = true) :
    time? c.timeText = some ⟨c.hour, c.minute, c.second, c.microsecond, true⟩ := by
  obtain ⟨-, hhour, hminute, hsecond, hmicro⟩ := Civil.isValid_iff.mp h
  have htext : c.timeText = Text.padded 2 c.hour ++ ':' :: (Text.padded 2 c.minute ++ ':' ::
      (Text.padded 2 c.second ++ fractionText c.microsecond)) := by
    rw [Civil.timeText]
    simp only [List.append_assoc, List.cons_append]
    rfl
  rw [htext, time?_padded hhour, parts?_part hminute, parts?_part hsecond, parts?_fractionText hmicro]
  rfl

/-- The hours and minutes of a length of time, and what is less than a minute if there is any. -/
def lengthText (n : Nat) : List Char :=
  let seconds := n / microsecondsPerSecond
  let micros := n % microsecondsPerSecond
  Text.padded 2 (seconds / 3600) ++ ':' :: (Text.padded 2 (seconds / 60 % 60) ++
    if seconds % 60 = 0 ∧ micros = 0 then []
    else ':' :: (Text.padded 2 (seconds % 60) ++ fractionText micros))

theorem offsetText_eq (offset : Int) :
    Zone.offsetText offset = (if offset < 0 then '-' else '+') :: lengthText offset.natAbs := by
  simp only [Zone.offsetText, lengthText, fractionText, List.append_assoc, List.cons_append]

theorem exists_time?_lengthText (h : n < microsecondsPerDay) :
    ∃ r, time? (lengthText n) = some r ∧ r.micros = n ∧ r.ends = true := by
  have hperSecond : microsecondsPerSecond = 1000000 := rfl
  have hperDay : microsecondsPerDay = 86400000000 := rfl
  have hhour : n / microsecondsPerSecond / 3600 < 24 := by
    rw [hperDay] at h
    rw [hperSecond]
    omega
  have hmicro : n % microsecondsPerSecond < microsecondsPerSecond := Nat.mod_lt _ (by decide)
  have hsixty {m : Nat} : m % 60 < 60 := Nat.mod_lt _ (by decide)
  simp only [lengthText]
  rw [time?_padded hhour, parts?_part hsixty]
  split
  · have hend : parts? true 1 [] = some ([], 0, true) := by
      unfold parts?
      rfl
    rw [hend]
    refine ⟨_, rfl, ?_, rfl⟩
    simp only [Reading.micros, List.getD_cons_zero, List.getD_cons_succ, List.getD_nil]
    rw [hperSecond] at *
    omega
  · rw [parts?_part hsixty, parts?_fractionText hmicro]
    refine ⟨_, rfl, ?_, rfl⟩
    simp only [Reading.micros, List.getD_cons_zero, List.getD_cons_succ]
    rw [hperSecond]
    omega

/-! ## Zones -/

theorem zone?_of_ne {sign : Char} (h : sign ≠ 'Z') :
    zone? (sign :: s) = (time? s).bind fun r => if r.ends then zoneOf? (sign = '-') r else none := by
  rw [zone?.eq_def]
  split
  · next heq => exact absurd (List.cons.inj heq).1 h
  · next heq =>
    cases heq
    rfl
  · next heq => cases heq

/-- An offset of less than a second is taken for none. -/
theorem zoneOf?_of_micros {r : Reading} {offset : Int} (hr : r.micros = offset.natAbs)
    (h : offset = 0 ∨ microsecondsPerSecond ≤ offset.natAbs) (hday : offset.natAbs < microsecondsPerDay) :
    zoneOf? (offset < 0) r = some (Zone.ofOffset offset) := by
  simp only [zoneOf?, hr]
  rcases h with rfl | hsecond
  · rfl
  · rw [if_neg (Nat.not_lt.mpr hsecond), if_pos hday]
    congr 2
    by_cases hneg : offset < 0
    · rw [if_pos (decide_eq_true hneg)]
      omega
    · rw [if_neg fun hlt => hneg (of_decide_eq_true hlt)]
      omega

theorem zone?_offsetText {offset : Int} (h : offset = 0 ∨ microsecondsPerSecond ≤ offset.natAbs)
    (hday : offset.natAbs < microsecondsPerDay) :
    zone? (Zone.offsetText offset) = some (Zone.ofOffset offset) := by
  obtain ⟨r, hr, hmicros, hends⟩ := exists_time?_lengthText hday
  have hzone := zoneOf?_of_micros hmicros h hday
  have hsign : (if offset < 0 then '-' else '+') ≠ 'Z' ∧
      ((if offset < 0 then '-' else '+') = '-' ↔ offset < 0) := by
    split
    · next hneg => exact ⟨by decide, iff_of_true rfl hneg⟩
    · next hneg => exact ⟨by decide, iff_of_false (by decide) hneg⟩
  rw [offsetText_eq, zone?_of_ne hsign.1, hr, Option.bind_some, if_pos hends, decide_eq_decide.mpr hsign.2]
  exact hzone

theorem isZoneSign_of_mem_timeText {x : Char} (h : x ∈ c.timeText) : isZoneSign x = false := by
  have hdigit {x : Char} (hx : x.isDigit = true) : isZoneSign x = false := by
    rw [isZoneSign]
    simp only [Bool.or_eq_false_iff, decide_eq_false_iff_not]
    refine ⟨⟨?_, ?_⟩, ?_⟩ <;> rintro rfl <;> cases hx
  have hpadded {w n : Nat} {x : Char} (hx : x ∈ Text.padded w n) : isZoneSign x = false :=
    hdigit (Text.isDigit_of_mem_padded hx)
  simp only [Civil.timeText, List.mem_append, List.mem_cons] at h
  rcases h with ((h | rfl | h) | rfl | h) | h
  · exact hpadded h
  · rfl
  · exact hpadded h
  · rfl
  · exact hpadded h
  · split at h
    · cases h
    · rcases List.mem_cons.mp h with rfl | h
      · rfl
      · exact hpadded h

theorem timeAndZone?_timeText {offset : Int} (hc : c.isValid = true)
    (h : offset = 0 ∨ microsecondsPerSecond ≤ offset.natAbs) (hday : offset.natAbs < microsecondsPerDay) :
    timeAndZone? (c.timeText ++ Zone.offsetText offset) =
      some (⟨c.hour, c.minute, c.second, c.microsecond, true⟩, some (Zone.ofOffset offset)) := by
  have hzone := zone?_offsetText h hday
  have htime : ∀ x ∈ c.timeText, (!isZoneSign x) = true := fun x hx => by
    rw [isZoneSign_of_mem_timeText hx]
    rfl
  obtain ⟨sign, length, hoffset, hsign⟩ : ∃ sign length, Zone.offsetText offset = sign :: length ∧
      isZoneSign sign = true := by
    refine ⟨_, _, offsetText_eq offset, ?_⟩
    split <;> rfl
  rw [hoffset] at hzone ⊢
  rw [timeAndZone?, List.takeWhile_append_of_pos htime, List.dropWhile_append_of_pos htime]
  simp only [List.takeWhile_cons, List.dropWhile_cons, hsign, Bool.not_true, Bool.false_eq_true, if_false,
    List.append_nil, time?_timeText hc, bind, Option.bind, hzone, Option.map_some]

end IsoText

/-- A stamp is read again from its text. An offset of less than a second is not. -/
theorem Stamp.ofIso?_isoText {m : Moment} {z : Zone}
    (h : z.offset = 0 ∨ microsecondsPerSecond ≤ z.offset.natAbs) (hday : z.offset.natAbs < microsecondsPerDay) :
    ofIso? (isoText ⟨m, some z⟩) = some ⟨m, some (Zone.ofOffset z.offset)⟩ := by
  have hvalid := m.isValid_civil
  have hdate := (Civil.isValid_iff.mp hvalid).1
  rw [ofIso?, isoText, String.toList_ofList, Civil.isoText]
  simp only [List.append_assoc, List.cons_append, Option.map_some, Option.getD_some]
  rw [IsoText.stamp?, IsoText.date?_padded hdate]
  simp only [bind, Option.bind, IsoText.timeAndZone?_timeText hvalid h hday]
  have hclock : Civil.moment? ⟨m.civil.date, m.civil.hour, m.civil.minute, m.civil.second,
      m.civil.microsecond⟩ = some m := m.moment?_civil
  rw [hclock]
  rfl

end CronSchedule
