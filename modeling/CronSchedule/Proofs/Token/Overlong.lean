import CronSchedule.Proofs.Token.Grammar

/-!
The tokens that are not read to the end, for a run of digits that is too long to be a number. Main
statement: reading stops at the first element that cannot be read if it is such a number that is looked
at first, and nowhere else (`Token.elements_eq_overlong_iff`).
-/

namespace CronSchedule

/-- A run of more than `maxDigits` ASCII digits stands somewhere in the text. -/
def HasLongNumber (s : List Char) : Prop :=
  ∃ ds, ds <:+: s ∧ ds.all Char.isDigit = true ∧ maxDigits < ds.length

theorem HasLongNumber.mono {s t : List Char} (h : HasLongNumber s) (hst : s <:+: t) :
    HasLongNumber t := by
  obtain ⟨ds, hds, h⟩ := h
  exact ⟨ds, hds.trans hst, h⟩

theorem not_hasLongNumber {s : List Char} (h : s.length ≤ maxDigits) : ¬ HasLongNumber s := by
  intro hx
  obtain ⟨ds, hds, -, hlong⟩ := hx
  have := hds.length_le
  omega

/-- The text is nothing but digits, and too many of them to be read as a number. -/
structure OverlongNumber.IsWritten (o : OverlongNumber) (s : List Char) : Prop where
  all_isDigit : s.all Char.isDigit = true
  maxDigits_lt : maxDigits < s.length
  digits_eq : s.length = o.digits

/-- The first number of a base that is no numeral of the slot is too long. -/
inductive Base.Stops (b : Bounds) (o : OverlongNumber) : List Char → Prop
  | number {s : List Char} (hs : o.IsWritten s) : Stops b o s
  | first {s rest : List Char} (hs : o.IsWritten s) (hrest : '-' ∉ rest) : Stops b o (s ++ '-' :: rest)
  | last {s : List Char} (first : Numeral) (hfirst : b.low ≤ first.value ∧ first.value ≤ b.high)
    (hs : o.IsWritten s) : Stops b o (first.digits ++ '-' :: s)

/-- An element is stopped at its step, or after that at its base. -/
inductive Element.Stops (b : Bounds) (o : OverlongNumber) : List Char → Prop
  | base {s : List Char} (hslash : '/' ∉ s) (hs : Base.Stops b o s) : Stops b o s
  | step {base s : List Char} (hbase : base ≠ []) (hslash : '/' ∉ base) (hs : o.IsWritten s) :
    Stops b o (base ++ '/' :: s)
  | stepped {s : List Char} (step : Numeral) (hstep : 0 < step.value) (hslash : '/' ∉ s)
    (hs : Base.Stops b o s) : Stops b o (s ++ '/' :: step.digits)

/-- The first element of a token that does not fit is stopped at a number that is too long. -/
def Token.Stops (b : Bounds) (o : OverlongNumber) (token : List Char) : Prop :=
  ∃ before s after, Text.pieces ',' token = before ++ s :: after ∧
    (∀ part ∈ before, ∃ e : Element, e.Fits b ∧ e.text = part) ∧ Element.Stops b o s

namespace OverlongNumber.IsWritten

variable {o : OverlongNumber} {s : List Char}

theorem ne_nil (h : o.IsWritten s) : s ≠ [] := by
  rintro rfl
  exact absurd h.maxDigits_lt (Nat.not_lt_zero _)

theorem notMem (h : o.IsWritten s) {c : Char} (hc : c.isDigit = false) : c ∉ s := by
  intro hs
  have := List.all_eq_true.mp h.all_isDigit c hs
  simp [hc] at this

theorem hasLongNumber (h : o.IsWritten s) : HasLongNumber s :=
  ⟨s, List.infix_rfl, h.all_isDigit, h.maxDigits_lt⟩

theorem maxDigits_lt_digits (h : o.IsWritten s) : maxDigits < o.digits :=
  h.digits_eq ▸ h.maxDigits_lt

theorem replicate {n : Nat} (h : maxDigits < n) : IsWritten ⟨n⟩ (List.replicate n '1') := by
  refine ⟨?_, ?_, List.length_replicate⟩
  · rw [List.all_eq_true]
    intro c hc
    rw [List.eq_of_mem_replicate hc]
    rfl
  · rwa [List.length_replicate]

end OverlongNumber.IsWritten

variable {b : Bounds} {o : OverlongNumber} {token text : List Char}

theorem Numeral.read_eq_overlong_iff : read text = .error (.overlong o) ↔ o.IsWritten text := by
  constructor
  · intro h
    unfold read at h
    split at h
    · next hd =>
      split at h
      · cases h
      · next hl =>
        cases h
        exact ⟨hd.2, Nat.lt_of_not_le hl, rfl⟩
    · cases h
  · intro h
    rw [read, dif_pos ⟨h.ne_nil, h.all_isDigit⟩, dif_neg (Nat.not_le.mpr h.maxDigits_lt), h.digits_eq]

theorem Numeral.readWithin_eq_overlong_iff :
    readWithin b token text = .error (.overlong o) ↔ o.IsWritten text := by
  rw [← read_eq_overlong_iff, readWithin]
  split
  · next ht =>
    subst ht
    constructor <;> intro h <;> cases h
  · split
    · next h => simp [h]
    · next h => simp [h]
    · next h =>
      rw [h]
      split <;> constructor <;> intro h <;> cases h

theorem Numeral.readStep_eq_overlong_iff :
    readStep token text = .error (.overlong o) ↔ o.IsWritten text := by
  rw [← read_eq_overlong_iff, readStep]
  split
  · next h => simp [h]
  · next h => simp [h]
  · next h =>
    rw [h]
    split <;> constructor <;> intro h <;> cases h

theorem Base.readSpan_eq_overlong_iff (hd : '-' ∈ text) :
    readSpan b text = .error (.overlong o) ↔ Stops b o text := by
  constructor
  · intro h
    simp only [readSpan] at h
    split at h
    · next s t hp =>
      have ht := Text.eq_of_pieces_pair hp
      have hdash : '-' ∉ t := Text.notMem_of_mem_pieces (by rw [hp]; simp)
      rcases bind_eq_error.mp h with hstop | ⟨first, hread, hlast⟩
      · exact ht ▸ .first (Numeral.readWithin_eq_overlong_iff.mp hstop) hdash
      · obtain ⟨rfl, hfirst⟩ := Numeral.readWithin_eq_ok_iff.mp hread
        rcases bind_eq_error.mp hlast with hstop | ⟨last, -, hend⟩
        · exact ht ▸ .last first hfirst (Numeral.readWithin_eq_overlong_iff.mp hstop)
        · split at hend <;> cases hend
    · cases h
  · intro h
    cases h with
    | number hs => exact absurd hd (hs.notMem rfl)
    | @first s rest hs hrest =>
      have hp := Text.pieces_pair (hs.notMem (by decide : '-'.isDigit = false)) hrest
      simp only [readSpan, hp]
      exact bind_eq_error.mpr (.inl (Numeral.readWithin_eq_overlong_iff.mpr hs))
    | @last s first hfirst hs =>
      have hp := Text.pieces_pair (first.not_mem_digits (by decide : '-'.isDigit = false))
        (hs.notMem (by decide))
      simp only [readSpan, hp]
      refine bind_eq_error.mpr (.inr ⟨first, Numeral.readWithin_eq_ok_iff.mpr ⟨rfl, hfirst⟩, ?_⟩)
      exact bind_eq_error.mpr (.inl (Numeral.readWithin_eq_overlong_iff.mpr hs))

theorem Base.stops_iff_of_not_dash_mem (hd : '-' ∉ text) : Stops b o text ↔ o.IsWritten text := by
  refine ⟨fun h => ?_, .number⟩
  cases h with
  | number hs => exact hs
  | first hs hrest => simp at hd
  | last first hfirst hs => simp at hd

theorem Base.read_eq_overlong_iff : read b token text = .error (.overlong o) ↔ Stops b o text := by
  rw [read]
  split
  · next ht =>
    subst ht
    refine iff_of_false (fun h => by cases h) fun h => ?_
    have hs := (stops_iff_of_not_dash_mem (by decide)).mp h
    exact absurd (List.mem_singleton_self '*') (hs.notMem (by decide))
  · split
    · next hd => exact readSpan_eq_overlong_iff hd
    · next hd =>
      rw [map_eq_error, Numeral.readWithin_eq_overlong_iff, stops_iff_of_not_dash_mem hd]

theorem Base.Stops.ne_nil (h : Stops b o text) : text ≠ [] := by
  cases h with
  | number hs => exact hs.ne_nil
  | first hs hrest => simp
  | last first hfirst hs => simp

theorem Element.readStepped_eq_overlong_iff (hmem : '/' ∈ text) :
    readStepped b text = .error (.overlong o) ↔ Stops b o text := by
  constructor
  · intro h
    simp only [readStepped] at h
    split at h
    · next s t hp =>
      have ht := Text.eq_of_pieces_pair hp
      have hslash : '/' ∉ s := Text.notMem_of_mem_pieces (by rw [hp]; simp)
      split at h
      · cases h
      · next hbase =>
        rcases bind_eq_error.mp h with hstop | ⟨step, hread, hrest⟩
        · exact ht ▸ .step hbase hslash (Numeral.readStep_eq_overlong_iff.mp hstop)
        · obtain ⟨rfl, hstep⟩ := Numeral.readStep_eq_ok_iff.mp hread
          rcases bind_eq_error.mp hrest with hstop | ⟨base, -, hend⟩
          · exact ht ▸ .stepped step hstep hslash (Base.read_eq_overlong_iff.mp hstop)
          · cases hend
    · cases h
  · intro h
    cases h with
    | base hslash => exact absurd hmem hslash
    | @step base s hbase hslash hs =>
      have hp := Text.pieces_pair hslash (hs.notMem (by decide))
      simp only [readStepped, hp, if_neg hbase]
      exact bind_eq_error.mpr (.inl (Numeral.readStep_eq_overlong_iff.mpr hs))
    | @stepped s step hstep hslash hs =>
      have hp := Text.pieces_pair hslash (step.not_mem_digits (by decide))
      simp only [readStepped, hp, if_neg hs.ne_nil]
      refine bind_eq_error.mpr (.inr ⟨step, Numeral.readStep_eq_ok_iff.mpr ⟨rfl, hstep⟩, ?_⟩)
      exact bind_eq_error.mpr (.inl (Base.read_eq_overlong_iff.mpr hs))

theorem Element.stops_iff_of_not_slash_mem (hs : '/' ∉ text) :
    Stops b o text ↔ Base.Stops b o text := by
  refine ⟨fun h => ?_, .base hs⟩
  cases h with
  | base _ hbase => exact hbase
  | step hbase hslash hstep => simp at hs
  | stepped step hstep hslash hbase => simp at hs

theorem Element.readForm_eq_overlong_iff (hc : ',' ∉ text) :
    readForm b text = .error (.overlong o) ↔ Stops b o text := by
  rw [readForm, if_neg hc]
  split
  · next hs => exact readStepped_eq_overlong_iff hs
  · next hs => rw [map_eq_error, Base.read_eq_overlong_iff, stops_iff_of_not_slash_mem hs]

theorem Element.refuseEmpty_ne_overlong {e : Element} :
    refuseEmpty b token e ≠ .error (.overlong o) := by
  intro h
  cases e with
  | plain base => cases h
  | stepped base step =>
    rw [refuseEmpty] at h
    split at h <;> cases h

theorem Element.read_eq_overlong_iff (hc : ',' ∉ text) :
    read b text = .error (.overlong o) ↔ Stops b o text := by
  rw [read, bind_eq_error, readForm_eq_overlong_iff hc, or_iff_left]
  rintro ⟨e, -, h⟩
  exact refuseEmpty_ne_overlong h

theorem Element.Stops.ne_nil (h : Stops b o text) : text ≠ [] := by
  cases h with
  | base hslash hs => exact hs.ne_nil
  | step hbase hslash hs => simp
  | stepped step hstep hslash hs => simp

theorem Token.readElement_eq_overlong_iff (hc : ',' ∉ text) :
    readElement b token text = .error (.overlong o) ↔ Element.Stops b o text := by
  rw [readElement]
  split
  · next ht => exact iff_of_false (fun h => by cases h) fun h => h.ne_nil ht
  · exact Element.read_eq_overlong_iff hc

/-- Reading a token stops at an element that is stopped, if all elements before it fit. -/
theorem Token.elements_eq_overlong_iff (hb : b.low ≤ b.high) :
    elements b token = .error (.overlong o) ↔ Stops b o token := by
  simp only [elements_eq_mapM, mapM_eq_error_iff, readElement_eq_ok_iff hb]
  have hcomma {before after : List (List Char)} {s : List Char}
      (hp : Text.pieces ',' token = before ++ s :: after) : ',' ∉ s :=
    Text.notMem_of_mem_pieces (by rw [hp]; simp)
  constructor
  · intro h
    obtain ⟨before, s, after, hp, hfits, hs⟩ := h
    exact ⟨before, s, after, hp, hfits, (readElement_eq_overlong_iff (hcomma hp)).mp hs⟩
  · intro h
    obtain ⟨before, s, after, hp, hfits, hs⟩ := h
    exact ⟨before, s, after, hp, hfits, (readElement_eq_overlong_iff (hcomma hp)).mpr hs⟩

theorem OverlongNumber.IsWritten.stops (h : o.IsWritten token) : Token.Stops b o token := by
  have hp : Text.pieces ',' token = [token] := Text.pieces_of_notMem (h.notMem (by decide))
  exact ⟨[], token, [], hp, nofun, .base (h.notMem (by decide)) (.number h)⟩

theorem Base.Stops.exists_isWritten (h : Stops b o text) : ∃ ds, ds <:+: text ∧ o.IsWritten ds := by
  cases h with
  | number hs => exact ⟨_, List.infix_rfl, hs⟩
  | first hs hrest => exact ⟨_, (List.prefix_append ..).isInfix, hs⟩
  | last first hfirst hs =>
    exact ⟨_, ((List.suffix_cons ..).trans (List.suffix_append ..)).isInfix, hs⟩

theorem Element.Stops.exists_isWritten (h : Stops b o text) :
    ∃ ds, ds <:+: text ∧ o.IsWritten ds := by
  cases h with
  | base hslash hs => exact hs.exists_isWritten
  | step hbase hslash hs =>
    exact ⟨_, ((List.suffix_cons ..).trans (List.suffix_append ..)).isInfix, hs⟩
  | stepped step hstep hslash hs =>
    obtain ⟨ds, hds, hs⟩ := hs.exists_isWritten
    exact ⟨ds, hds.trans (List.prefix_append ..).isInfix, hs⟩

/-- The number that a token is stopped at is written in it. -/
theorem Token.Stops.exists_isWritten (h : Stops b o token) :
    ∃ ds, ds <:+: token ∧ o.IsWritten ds := by
  obtain ⟨before, s, after, hp, -, hs⟩ := h
  obtain ⟨ds, hds, hs⟩ := hs.exists_isWritten
  exact ⟨ds, hds.trans (Text.isInfix_of_mem_pieces (by rw [hp]; simp)), hs⟩

theorem Token.Stops.maxDigits_lt_length (h : Stops b o token) : maxDigits < token.length := by
  obtain ⟨ds, hds, hs⟩ := h.exists_isWritten
  exact Nat.lt_of_lt_of_le hs.maxDigits_lt hds.length_le

end CronSchedule
