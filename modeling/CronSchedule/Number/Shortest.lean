import CronSchedule.Number.Binary64
import CronSchedule.Text.Figures

/-!
The shortest decimal text that reads back as a given floating-point number.
-/

namespace CronSchedule.Binary64

/-- The numbers that round to `mantissa * 2 ^ exponent`, in quarters of a unit in the last place. -/
structure Interval where
  low : Nat
  value : Nat
  high : Nat
  closed : Bool

/-- Below a power of two the neighbour is only half as far. -/
def interval (mantissa : Nat) (exponent : Int) : Interval where
  low := if mantissa = powerOfTwo 52 ∧ -1074 < exponent then 4 * mantissa - 1 else 4 * mantissa - 2
  value := 4 * mantissa
  high := 4 * mantissa + 2
  closed := mantissa % 2 = 0

/-- The multiple of `10 ^ k` that lies in the interval and nearest to the value, if there is one. -/
def onGrid (i : Interval) (exponent k : Int) : Option Nat :=
  let unit := powerOfTwo (exponent - 2).toNat * powerOfTen (-k).toNat
  let grid := powerOfTen k.toNat * powerOfTwo (2 - exponent).toNat
  let inside (c : Nat) : Bool :=
    if i.closed then i.low * unit ≤ c * grid && c * grid ≤ i.high * unit
    else i.low * unit < c * grid && c * grid < i.high * unit
  let a := i.value * unit / grid
  let b := a + 1
  match inside a, inside b with
  | false, false => none
  | true, false => some a
  | false, true => some b
  | true, true => some (roundedDiv (i.value * unit) grid)

/-- The first grid, from coarse to fine, that has a multiple in the interval. -/
def firstGrid (i : Interval) (exponent : Int) : Nat → Int → Option (Nat × Int)
  | 0, _ => none
  | fuel + 1, k =>
    match onGrid i exponent k with
    | some c => some (c, k)
    | none => firstGrid i exponent fuel (k - 1)

/-- The decimal `c * 10 ^ k` with the fewest figures that reads back as the positive number
`mantissa * 2 ^ exponent`. -/
def shortest (mantissa : Nat) (exponent : Int) : Nat × Int :=
  (firstGrid (interval mantissa exponent) exponent 660 309).getD (0, 0)

/-- `c * 10 ^ k` in figures: with a point from `1e-4` to below `1e16`, else with an exponent of at
least two figures. -/
def decimalText (c : Nat) (k : Int) : List Char :=
  let ds := Text.figures c
  let point := k + ds.length
  if -4 < point ∧ point ≤ 16 then
    if point ≤ 0 then '0' :: '.' :: List.replicate (-point).toNat '0' ++ ds
    else if ds.length ≤ point.toNat then
      ds ++ List.replicate (point.toNat - ds.length) '0' ++ ['.', '0']
    else ds.take point.toNat ++ '.' :: ds.drop point.toNat
  else
    let e := point - 1
    let fraction := if ds.length = 1 then [] else '.' :: ds.drop 1
    ds.take 1 ++ fraction ++ 'e' :: (if e < 0 then '-' else '+') :: Text.padded 2 e.natAbs

/-- The number as a text. -/
def text (x : Binary64) : String :=
  match x.form with
  | .nan => "nan"
  | .infinite negative => if negative then "-inf" else "inf"
  | .finite negative m e =>
    let (c, k) := if m = 0 then (0, 0) else shortest m e
    String.ofList ((if negative then ['-'] else []) ++ decimalText c k)

end CronSchedule.Binary64
