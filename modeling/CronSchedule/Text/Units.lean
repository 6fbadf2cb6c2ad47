/-!
The units of 16 bits that characters are written with. Two units make a pair, and each of the two tells which of
them it is: neither is a character by itself.
-/

namespace CronSchedule.Text

def isHighUnit (n : Nat) : Bool :=
  0xD800 ≤ n && n < 0xDC00

def isLowUnit (n : Nat) : Bool :=
  0xDC00 ≤ n && n < 0xE000

/-- The units of a character: a pair beyond the basic plane, and else its code. -/
def units (c : Char) : List Nat :=
  if c.toNat < 0x10000 then [c.toNat]
  else
    let n := c.toNat - 0x10000
    [0xD800 + n / 0x400, 0xDC00 + n % 0x400]

end CronSchedule.Text
