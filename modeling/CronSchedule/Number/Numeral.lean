import CronSchedule.Text.Figures

/-!
Numerals: runs of ASCII digits that are short enough to be read as a number.
-/

namespace CronSchedule

/-- The most digits a number may be written with, leading zeros included. -/
def maxDigits : Nat := 4300

/-- A number written with more than `maxDigits` digits. -/
structure OverlongNumber where
  digits : Nat
deriving DecidableEq

def OverlongNumber.message (e : OverlongNumber) : String :=
  "Exceeds the limit (4300 digits) for integer string conversion: value has " ++
    Text.ofNat e.digits ++
    " digits; use sys.set_int_max_str_digits() to increase the limit"

namespace Text

/-- The number is written with at most `maxDigits` figures. -/
def IsShort (n : Int) : Prop :=
  (figures n.natAbs).length ≤ maxDigits

instance (n : Int) : Decidable (IsShort n) :=
  inferInstanceAs (Decidable (_ ≤ _))

end Text

/-- A number with more than `maxDigits` figures, which is not written. -/
structure UnwritableNumber where
  value : Int
deriving DecidableEq

/-- The number that a run of digit values stands for. -/
def ofDigitValues (ds : List Nat) : Nat :=
  ds.foldl (fun n d => 10 * n + d) 0

/-- A non-empty run of ASCII digits, at most `maxDigits` of them. -/
structure Numeral where
  digits : List Char
  digits_ne_nil : digits ≠ []
  all_isDigit : digits.all Char.isDigit = true
  length_le : digits.length ≤ maxDigits
deriving DecidableEq

namespace Numeral

/-- Why a text is no numeral. -/
inductive Refusal where
  | notDigits
  | overlong (e : OverlongNumber)
deriving DecidableEq

def read (s : List Char) : Except Refusal Numeral :=
  if h : s ≠ [] ∧ s.all Char.isDigit = true then
    if hl : s.length ≤ maxDigits then .ok ⟨s, h.1, h.2, hl⟩
    else .error (.overlong ⟨s.length⟩)
  else .error .notDigits

def value (n : Numeral) : Nat :=
  ofDigitValues (n.digits.map fun c => c.toNat - '0'.toNat)

theorem read_digits (n : Numeral) : read n.digits = .ok n := by
  simp [read, n.digits_ne_nil, n.all_isDigit, n.length_le]

theorem digits_of_read {s : List Char} {n : Numeral} (h : read s = .ok n) : n.digits = s := by
  unfold read at h
  split at h
  · split at h
    · exact Except.ok.inj h ▸ rfl
    · simp at h
  · simp at h

end Numeral

end CronSchedule
