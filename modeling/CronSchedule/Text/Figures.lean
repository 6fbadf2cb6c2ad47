/-!
Numbers written in figures.
-/

namespace CronSchedule.Text

/-- A number in decimal figures. -/
def figures (n : Nat) : List Char :=
  Nat.toDigits 10 n

/-- A signed number in decimal figures. -/
def signedFigures : Int → List Char
  | .ofNat n => figures n
  | .negSucc n => '-' :: figures (n + 1)

/-- A number in decimal figures, filled up to `width` with zeros in front. -/
def padded (width n : Nat) : List Char :=
  (figures n).leftpad width '0'

/-- A number in hexadecimal figures, filled up to `width` with zeros in front. -/
def paddedHex (width n : Nat) : List Char :=
  (Nat.toDigits 16 n).leftpad width '0'

/-- A signed number as a text. -/
def ofInt (n : Int) : String :=
  String.ofList (signedFigures n)

/-- A number as a text. -/
def ofNat (n : Nat) : String :=
  String.ofList (figures n)

end CronSchedule.Text
