import CronSchedule.Number.Binary64
import CronSchedule.Number.Numeral
import CronSchedule.Text.Blank
import CronSchedule.Text.DecimalDigit

/-!
Numbers written in decimal: digits of any script, blanks around them, single underscores between
digits.
-/

namespace CronSchedule.DecimalText

/-- Digits of any script as ASCII digits; all else stays. -/
def plainDigit (c : Char) : Char :=
  match Text.digitValue? c with
  | some n => Nat.digitChar n
  | none => c

/-- The blanks that may stand around a number: all but the four separators of records. -/
def isSurround (c : Char) : Bool :=
  Text.isBlank c && !(0x1C ≤ c.toNat && c.toNat ≤ 0x1F)

/-- The text without blanks around it, in ASCII digits. -/
def plain (s : String) : List Char :=
  (Text.trimBy isSurround s.toList).map plainDigit

/-- The sign in front and the rest. -/
def splitSign : List Char → Bool × List Char
  | '-' :: rest => (true, rest)
  | '+' :: rest => (false, rest)
  | rest => (false, rest)

/-- Takes the underscores out of a text, if each stands between two digits. -/
def dropUnderscores? : List Char → Option (List Char)
  | [] => some []
  | '_' :: _ => none
  | c :: '_' :: d :: rest =>
    if c.isDigit && d.isDigit then (dropUnderscores? (d :: rest)).map (c :: ·) else none
  | [_, '_'] => none
  | c :: rest => (dropUnderscores? rest).map (c :: ·)

def natValue (ds : List Char) : Nat :=
  ofDigitValues (ds.map fun c => c.toNat - '0'.toNat)

/-- Reads an integer of at most `maxDigits` digits. -/
def readInt? (s : String) : Option Int :=
  let (negative, rest) := splitSign (plain s)
  match dropUnderscores? rest with
  | none => none
  | some ds =>
    if ds ≠ [] ∧ ds.all Char.isDigit ∧ ds.length ≤ maxDigits then
      some (if negative then -(natValue ds : Int) else natValue ds)
    else none

/-- The nearest floating-point number to `c * 10 ^ k`, where `c` is written with `digits`. Exponents
that are far out of reach are decided by the number of figures alone. -/
def scaled (negative : Bool) (digits : List Char) (k : Int) : Binary64 :=
  let c := natValue digits
  let figures : Int := (digits.dropWhile (· = '0')).length
  if c = 0 ∨ figures + k < -400 then Binary64.ofRatio negative 0 1
  else if 400 < figures + k then Binary64.infinity negative
  else Binary64.ofRatio negative (c * powerOfTen k.toNat) (powerOfTen (-k).toNat)

/-- The exponent at the end of a number: nothing, or `e` with an integer. -/
def readExponent? : List Char → Option Int
  | [] => some 0
  | c :: rest =>
    let (negative, ds) := splitSign rest
    if (c = 'e' ∨ c = 'E') ∧ ds ≠ [] ∧ ds.all Char.isDigit then
      some (if negative then -(natValue ds : Int) else natValue ds)
    else none

/-- The unsigned number that is written as figures, perhaps a point and more figures, and perhaps
an exponent. -/
def readUnsigned? (negative : Bool) (s : List Char) : Option Binary64 :=
  let whole := s.takeWhile Char.isDigit
  let rest := s.dropWhile Char.isDigit
  let (fraction, tail) :=
    match rest with
    | '.' :: rest => (rest.takeWhile Char.isDigit, rest.dropWhile Char.isDigit)
    | rest => ([], rest)
  if whole ++ fraction = [] then none
  else (readExponent? tail).map fun e => scaled negative (whole ++ fraction) (e - fraction.length)

/-- Reads a floating-point number. -/
def readFloat? (s : String) : Option Binary64 :=
  match dropUnderscores? (plain s) with
  | none => none
  | some s =>
    let (negative, rest) := splitSign s
    readUnsigned? negative rest

end CronSchedule.DecimalText
