import CronSchedule.Datum.JsonString
import CronSchedule.Proofs.Text.Figures
import CronSchedule.Proofs.Text.Units
import Mathlib.Tactic.SplitIfs

/-!
Strings of JSON in ASCII. Main statements: such a string is read again as the text that it was written for
(`Json.readString_quotedString`), and it holds printable characters only (`Json.isAsciiLine_quotedString`).
-/

namespace CronSchedule

namespace Text

/-- All characters are printable ones of ASCII, so that there is no line break among them. -/
def IsAsciiLine (s : List Char) : Prop :=
  ∀ c ∈ s, 0x20 ≤ c.toNat ∧ c.toNat ≤ 0x7E

instance (s : List Char) : Decidable (IsAsciiLine s) :=
  List.decidableBAll _ s

section

variable {c : Char} {s t : List Char}

@[simp] theorem isAsciiLine_nil : IsAsciiLine [] :=
  nofun

@[simp] theorem isAsciiLine_cons :
    IsAsciiLine (c :: s) ↔ (0x20 ≤ c.toNat ∧ c.toNat ≤ 0x7E) ∧ IsAsciiLine s :=
  List.forall_mem_cons

theorem IsAsciiLine.append (hs : IsAsciiLine s) (ht : IsAsciiLine t) : IsAsciiLine (s ++ t) :=
  List.forall_mem_append.mpr ⟨hs, ht⟩

theorem IsAsciiLine.flatMap {α : Type} {xs : List α} {f : α → List Char}
    (h : ∀ x ∈ xs, IsAsciiLine (f x)) : IsAsciiLine (xs.flatMap f) := by
  intro c hc
  obtain ⟨x, hx, hc⟩ := List.mem_flatMap.mp hc
  exact h x hx c hc

end

end Text

open Text (IsAsciiLine units isHighUnit isLowUnit)

namespace Json

variable {half : Nat → Char} {c : Char} {n : Nat} {s rest : List Char}

/-! ## Reading -/

theorem hexValue?_digitChar : ∀ n < 16, hexValue? n.digitChar = some n := by
  decide

theorem readCodes_unitEscape (h : n < 0x10000) :
    readCodes (unitEscape n ++ rest) = push n (readCodes rest) := by
  have hunit : unit? (n / 0x1000).digitChar (n / 0x100 % 16).digitChar (n / 0x10 % 16).digitChar
      (n % 16).digitChar = some n := by
    rw [unit?, hexValue?_digitChar _ (by omega), hexValue?_digitChar _ (by omega),
      hexValue?_digitChar _ (by omega), hexValue?_digitChar _ (by omega)]
    simp only [bind, Option.bind, pure, Option.some.injEq]
    omega
  rw [unitEscape, Text.paddedHex_four h]
  simp only [List.cons_append, List.nil_append, readCodes, hunit]

theorem readCodes_codeEscape (c : Char) (rest : List Char) :
    readCodes (codeEscape c ++ rest) = (units c).foldr push (readCodes rest) := by
  have hall {us : List Nat} (h : ∀ n ∈ us, n < 0x10000) :
      readCodes (us.flatMap unitEscape ++ rest) = us.foldr push (readCodes rest) := by
    induction us with
    | nil => rfl
    | cons n us ih =>
      obtain ⟨hn, hus⟩ := List.forall_mem_cons.mp h
      rw [List.flatMap_cons, List.append_assoc, readCodes_unitEscape hn, ih hus, List.foldr_cons]
  exact hall fun n hn => Text.lt_of_mem_units hn

/-- A character is written as an escape of its units or, if it is in ASCII, as an escape of one letter or as
it is. -/
theorem escaped_cases (c : Char) :
    escaped true c = codeEscape c ∨
      (c.toNat < 0x7F ∧ ∃ d, escaped true c = ['\\', d] ∧ d ≠ 'u' ∧ simpleEscape? d = some c) ∨
      (0x20 ≤ c.toNat ∧ c.toNat < 0x7F) ∧ c ≠ '\x22' ∧ c ≠ '\\' ∧ escaped true c = [c] := by
  unfold escaped
  split_ifs with hquote hback _ _ _ _ _ hcode
  any_goals
    subst ‹c = _›
    exact .inr (.inl ⟨by decide, _, rfl, by decide, rfl⟩)
  · exact .inl rfl
  · rw [not_or, not_and] at hcode
    have hhigh := hcode.2 rfl
    exact .inr (.inr ⟨by omega, hquote, hback, rfl⟩)

/-- A character is read as its units, in whichever way it is written. -/
theorem readCodes_escaped (c : Char) (rest : List Char) :
    readCodes (escaped true c ++ rest) = (units c).foldr push (readCodes rest) := by
  rcases escaped_cases c with h | ⟨hc, d, h, hd, hsimple⟩ | ⟨hc, hquote, hback, h⟩
  · rw [h]
    exact readCodes_codeEscape c rest
  · rw [h, Text.units_of_lt (by omega), List.cons_append, List.singleton_append, readCodes]
    · rw [hsimple]
      rfl
    · intro a b x y r hu
      exact absurd hu hd
  · rw [h, Text.units_of_lt (by omega), List.singleton_append, readCodes]
    · rw [if_neg (by omega)]
      rfl
    · exact hquote
    · intro a b x y r hc
      exact absurd hc hback
    · intro d r hc
      exact absurd hc hback

theorem readCodes_flatMap (s rest : List Char) :
    readCodes (s.flatMap (escaped true) ++ '\x22' :: rest) = some (s.flatMap units, rest) := by
  have hpush (us codes : List Nat) : us.foldr push (some (codes, rest)) = some (us ++ codes, rest) := by
    induction us with
    | nil => rfl
    | cons n us ih =>
      rw [List.foldr_cons, ih]
      rfl
  induction s with
  | nil => rfl
  | cons c s ih =>
    rw [List.flatMap_cons, List.flatMap_cons, List.append_assoc, readCodes_escaped, ih, hpush]

/-! ## Characters of codes -/

theorem codeChar_toNat (hhigh : isHighUnit c.toNat = false) (hlow : isLowUnit c.toNat = false) :
    codeChar half c.toNat = c := by
  simp only [codeChar, hhigh, hlow, Bool.or_self, Bool.false_eq_true, if_false, Char.ofNat_toNat]

theorem ofCodes_cons (h : isHighUnit n = false) (codes : List Nat) :
    ofCodes half (n :: codes) = codeChar half n :: ofCodes half codes := by
  cases codes with
  | nil => rfl
  | cons m codes =>
    rw [ofCodes, h, Bool.false_and]
    rfl

theorem pairChar_of_toNat (hn : n < 0x100000) (hc : c.toNat = 0x10000 + n) :
    pairChar (0xD800 + n / 0x400) (0xDC00 + n % 0x400) = c := by
  have hcode : 0x10000 + (0xD800 + n / 0x400 - 0xD800) * 0x400 + (0xDC00 + n % 0x400 - 0xDC00) =
      c.toNat := by
    omega
  rw [pairChar, hcode, Char.ofNat_toNat]

theorem ofCodes_flatMap_units (s : List Char) : ofCodes half (s.flatMap units) = s := by
  induction s with
  | nil => rfl
  | cons c s ih =>
    rw [List.flatMap_cons]
    rcases Text.units_cases c with ⟨-, hhigh, hlow, hunits⟩ | ⟨n, hn, hc, hunits⟩
    · rw [hunits, List.singleton_append, ofCodes_cons hhigh, codeChar_toNat hhigh hlow, ih]
    · have hpair : (isHighUnit (0xD800 + n / 0x400) && isLowUnit (0xDC00 + n % 0x400)) = true := by
        rw [Bool.and_eq_true, Text.isHighUnit_iff, Text.isLowUnit_iff]
        omega
      rw [hunits, List.cons_append, List.singleton_append, ofCodes, if_pos hpair,
        pairChar_of_toNat hn hc, ih]

/-- A string is read again as the text that it was written for. -/
theorem readString_quotedString (s : String) (rest : List Char) :
    ∃ inner, quotedString true s ++ rest = '\x22' :: inner ∧ readString half inner = some (s, rest) := by
  refine ⟨s.toList.flatMap (escaped true) ++ '\x22' :: rest, ?_, ?_⟩
  · rw [quotedString, List.cons_append, List.cons_append, List.append_assoc, List.singleton_append]
  · rw [readString, readCodes_flatMap, Option.map_some]
    simp only [ofCodes_flatMap_units, String.ofList_toList]

/-! ## Characters of strings -/

theorem isAsciiLine_codeEscape (c : Char) : IsAsciiLine (codeEscape c) := by
  have hfigure : ∀ n < 16, 0x20 ≤ n.digitChar.toNat ∧ n.digitChar.toNat ≤ 0x7E := by
    decide
  refine IsAsciiLine.flatMap fun n hn => ?_
  rw [unitEscape, Text.paddedHex_four (Text.lt_of_mem_units hn)]
  have hn' := Text.lt_of_mem_units hn
  simp only [Text.isAsciiLine_cons, Text.isAsciiLine_nil, and_true]
  exact ⟨by decide, by decide, hfigure _ (by omega), hfigure _ (by omega), hfigure _ (by omega),
    hfigure _ (by omega)⟩

theorem isAsciiLine_escaped (c : Char) : IsAsciiLine (escaped true c) := by
  unfold escaped
  split_ifs with _ _ _ _ _ _ _ hcode
  any_goals decide
  · exact isAsciiLine_codeEscape c
  · rw [not_or, not_and] at hcode
    have hhigh := hcode.2 rfl
    exact Text.isAsciiLine_cons.mpr ⟨by omega, Text.isAsciiLine_nil⟩

theorem isAsciiLine_quotedString (s : String) : IsAsciiLine (quotedString true s) := by
  have hinner : IsAsciiLine (s.toList.flatMap (escaped true)) := .flatMap fun c _ => isAsciiLine_escaped c
  exact (Text.isAsciiLine_cons.mpr ⟨by decide, hinner⟩ : IsAsciiLine ('\x22' :: _)).append (by decide)

end Json

end CronSchedule
