/-!
Quotients rounded to whole numbers.
-/

namespace CronSchedule

/-- The quotient rounded to the nearest number; a half goes to the even neighbour. -/
def roundedDiv (num den : Nat) : Nat :=
  let q := num / den
  let r := num % den
  if 2 * r < den ∨ 2 * r = den ∧ q % 2 = 0 then q else q + 1

end CronSchedule
