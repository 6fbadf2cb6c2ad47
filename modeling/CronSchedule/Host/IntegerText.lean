import CronSchedule.Number.DecimalText

/-!
Integers as the options of a command take them. Blanks around the number, a plus, zeros in front,
single underscores and a fraction of zeros do no harm. A minus may also stand after zeros, but not
before them.
-/

namespace CronSchedule.Host.IntegerText

/-- The text without a plus in front, which may not stand before a minus. -/
def withoutPlus? : List Char → Option (List Char)
  | '+' :: '-' :: _ => none
  | '+' :: rest => some rest
  | s => some s

/-- What follows a zero and further zeros and underscores. The last of them stays if the number ends
there or has a point. -/
def afterZeros? (last : Char) : List Char → Option (List Char)
  | [] => some [last]
  | c :: rest =>
    if c = '0' ∨ c = '_' then afterZeros? c rest
    else if c = '.' then some (last :: c :: rest)
    else if c = '-' ∨ c.isDigit then some (c :: rest)
    else none

/-- The number without the zeros in front of it. -/
def withoutZeros? : List Char → Option (List Char)
  | [] => none
  | '0' :: rest => afterZeros? '0' rest
  | c :: rest => if c = '-' ∨ c.isDigit then some (c :: rest) else none

/-- The number without a fraction that is nothing but zeros. -/
def withoutFraction (s : List Char) : List Char :=
  match s.dropWhile (· ≠ '.') with
  | _ :: zero :: zeros =>
    if (zero :: zeros).all (· = '0') then s.takeWhile (· ≠ '.') else s
  | _ => s

/-- Whether two underscores stand side by side. -/
def hasDoubleUnderscore : List Char → Bool
  | '_' :: '_' :: _ => true
  | _ :: rest => hasDoubleUnderscore rest
  | [] => false

/-- The number without its underscores, if they are single and inside of it. -/
def withoutUnderscores (s : List Char) : List Char :=
  if s.head? = some '_' ∨ s.getLast? = some '_' ∨ hasDoubleUnderscore s then s
  else s.filter (· ≠ '_')

/-- Reads figures: a zero stands alone. -/
def readFigures? (s : List Char) : Option Nat :=
  if s = [] ∨ s.head? = some '0' ∧ s ≠ ['0'] ∨ ¬s.all Char.isDigit ∨ maxDigits < s.length then none
  else some (DecimalText.natValue s)

/-- Reads figures with a minus in front of them, or without one. -/
def readSigned? : List Char → Option Int
  | '-' :: rest => (readFigures? rest).map fun n => -(n : Int)
  | s => (readFigures? s).map fun n => (n : Int)

/-- Reads an integer. -/
def read? (s : String) : Option Int := do
  let s ← withoutPlus? (Text.trimBy DecimalText.isSurround s.toList)
  let s ← withoutZeros? s
  readSigned? (withoutUnderscores (withoutFraction s))

end CronSchedule.Host.IntegerText
