import CronSchedule.Datum.Json
import CronSchedule.Proofs.Outcome

/-!
How reading JSON fails. Main statement: a number that is refused for its length has more digits than a
number may have, and there is no failure of another kind than those that JSON has (`Json.read_fails`).
-/

namespace CronSchedule

/-- The failure is one that JSON has: no unforeseen one, and a number is called overlong only if it is. -/
def Datum.Unreadable.IsFair : Unreadable → Prop
  | overlong e => maxDigits < e.digits
  | malformed | tooDeep _ => True
  | other _ => False

open Datum.Unreadable (IsFair)

namespace Json

variable {half : Nat → Char} {s : List Char}

theorem readNumber_fails (negative : Bool) (s : List Char) :
    FailsOnly IsFair (readNumber negative s) := by
  rw [readNumber]
  split
  · exact .error trivial
  · simp only
    split
    · split
      · exact .ok _
      · next h => exact .error (Nat.lt_of_not_le h)
    · exact .ok _

theorem readAtom_fails (s : List Char) : FailsOnly IsFair (readAtom s) := by
  rw [readAtom.eq_def]
  simp only
  split
  · exact .ok _
  · split
    · exact readNumber_fails _ _
    · exact readNumber_fails _ _

theorem readers_fail (fuel : Nat) : ∀ (depth : Nat) (s : List Char),
    FailsOnly IsFair (readValue half depth fuel s) ∧ FailsOnly IsFair (readItems half depth fuel s) ∧
      FailsOnly IsFair (readMembers half depth fuel s) := by
  -- each of the three calls the others with less fuel
  induction fuel with
  | zero =>
    intro depth s
    exact ⟨.error trivial, .error trivial, .error trivial⟩
  | succ fuel ih =>
    intro depth s
    refine ⟨?_, ?_, ?_⟩
    · rw [readValue.eq_def]
      simp only
      split
      · split
        · exact .error trivial
        · exact .ok _
      · split
        · exact .error trivial
        · split
          · exact .ok _
          · exact ((ih _ _).2.1).bind fun _ => .ok _
      · split
        · exact .error trivial
        · split
          · exact .ok _
          · exact ((ih _ _).2.2).bind fun _ => .ok _
      · exact readAtom_fails _
    · rw [readItems]
      refine ((ih _ _).1).bind fun r => ?_
      simp only
      split
      · exact .ok _
      · exact ((ih _ _).2.1).bind fun _ => .ok _
      · exact .error trivial
    · rw [readMembers.eq_def]
      simp only
      split
      · split
        · exact .error trivial
        · split
          · refine ((ih _ _).1).bind fun r => ?_
            split
            · exact .ok _
            · exact ((ih _ _).2.2).bind fun _ => .ok _
            · exact .error trivial
          · exact .error trivial
      · exact .error trivial

theorem read_fails (half : Nat → Char) (depth : Nat) (s : String) : FailsOnly IsFair (read half depth s) := by
  rw [read]
  refine ((readers_fail _ _ _).1).bind fun r => ?_
  simp only
  split
  · exact .ok _
  · exact .error trivial

end Json

end CronSchedule
