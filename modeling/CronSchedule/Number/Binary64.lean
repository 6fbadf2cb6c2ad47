import CronSchedule.Number.Quotient

/-!
Numbers in the 64-bit binary floating-point format, with exact conversions from ratios.
-/

namespace CronSchedule

def powerOfTwo (n : Nat) : Nat :=
  Nat.pow 2 n

def powerOfTen (n : Nat) : Nat :=
  Nat.pow 10 n

/-- The exponent of the greatest power of two that is not above `num / den`. -/
def floorLog2 (num den : Nat) : Int :=
  let e : Int := Nat.log2 num - Nat.log2 den
  if num * powerOfTwo (-e).toNat < den * powerOfTwo e.toNat then e - 1 else e

/-- A floating-point number, as its bits. -/
structure Binary64 where
  bits : UInt64
deriving DecidableEq

namespace Binary64

/-- What the bits stand for; a finite number is `mantissa * 2 ^ exponent`. -/
inductive Form where
  | nan
  | infinite (negative : Bool)
  | finite (negative : Bool) (mantissa : Nat) (exponent : Int)
deriving DecidableEq

def form (x : Binary64) : Form :=
  let n := x.bits.toNat
  let negative := decide (powerOfTwo 63 ≤ n)
  let e : Nat := n / powerOfTwo 52 % powerOfTwo 11
  let f : Nat := n % powerOfTwo 52
  if e = 2047 then if f = 0 then .infinite negative else .nan
  else if e = 0 then .finite negative f (-1074)
  else .finite negative (f + powerOfTwo 52) (e - 1075)

/-- The number with the given sign and bits below it. -/
def ofMagnitude (negative : Bool) (magnitude : Nat) : Binary64 :=
  ⟨UInt64.ofNat ((if negative then powerOfTwo 63 else 0) + magnitude)⟩

def nan : Binary64 :=
  ofMagnitude false (0x7FF8 * powerOfTwo 48)

def infinity (negative : Bool) : Binary64 :=
  ofMagnitude negative (0x7FF * powerOfTwo 52)

/-- The number nearest to `num / den`; a tie goes to the even mantissa, and what is too large
becomes infinite. -/
def ofRatio (negative : Bool) (num den : Nat) : Binary64 :=
  if num = 0 then ofMagnitude negative 0
  else
    let q := max (floorLog2 num den - 52) (-1074)
    let m := roundedDiv (num * powerOfTwo (-q).toNat) (den * powerOfTwo q.toNat)
    let magnitude := (q + 1074).toNat * powerOfTwo 52 + m
    if 0x7FF * powerOfTwo 52 ≤ magnitude then infinity negative else ofMagnitude negative magnitude

/-- The number nearest to an integer; `none` where none is near. -/
def ofInt? (n : Int) : Option Binary64 :=
  let x := ofRatio (n < 0) n.natAbs 1
  match x.form with
  | .finite .. => some x
  | _ => none

def isZero (x : Binary64) : Bool :=
  match x.form with
  | .finite _ m _ => m = 0
  | _ => false

/-- Whether the number lies below zero. -/
def isBelowZero (x : Binary64) : Bool :=
  match x.form with
  | .nan => false
  | .infinite negative => negative
  | .finite negative m _ => negative && m ≠ 0

end Binary64

end CronSchedule
