import CronSchedule.Ascending

/-!
The slots of an expression, and the numbers that each of them takes.
-/

namespace CronSchedule

/-- The numbers from `low` to `high`, both included. -/
structure Bounds where
  low : Int
  high : Int
deriving DecidableEq

namespace Bounds

def toList (b : Bounds) : List Int :=
  (List.range (b.high + 1 - b.low).toNat).map fun k : Nat => b.low + k

def contains (b : Bounds) (n : Int) : Bool :=
  b.low ≤ n && n ≤ b.high

def size (b : Bounds) : Int :=
  b.high - b.low + 1

@[simp] theorem contains_iff {b : Bounds} {n : Int} :
    b.contains n = true ↔ b.low ≤ n ∧ n ≤ b.high := by
  simp [contains]

@[simp] theorem mem_toList {b : Bounds} {n : Int} :
    n ∈ b.toList ↔ b.low ≤ n ∧ n ≤ b.high := by
  simp only [toList, List.mem_map, List.mem_range]
  constructor
  · rintro ⟨k, hk, rfl⟩
    omega
  · intro h
    exact ⟨(n - b.low).toNat, by omega, by omega⟩

end Bounds

/-- The positions of an expression. -/
inductive Slot where
  | second
  | minute
  | hour
  | dayOfMonth
  | month
  | dayOfWeek
  | year
deriving DecidableEq

namespace Slot

def all : List Slot :=
  [second, minute, hour, dayOfMonth, month, dayOfWeek, year]

def name : Slot → String
  | second => "second"
  | minute => "minute"
  | hour => "hour"
  | dayOfMonth => "day_of_month"
  | month => "month"
  | dayOfWeek => "day_of_week"
  | year => "year"

/-- The name in capitals. -/
def title : Slot → String
  | second => "SECOND"
  | minute => "MINUTE"
  | hour => "HOUR"
  | dayOfMonth => "DAY_OF_MONTH"
  | month => "MONTH"
  | dayOfWeek => "DAY_OF_WEEK"
  | year => "YEAR"

def ofName? (name : String) : Option Slot :=
  all.find? (·.name = name)

@[simp] theorem ofName?_name (s : Slot) : ofName? s.name = some s := by
  cases s <;> decide

/-- The numbers that a slot can hold. -/
def bounds : Slot → Bounds
  | second => ⟨0, 59⟩
  | minute => ⟨0, 59⟩
  | hour => ⟨0, 23⟩
  | dayOfMonth => ⟨1, 31⟩
  | month => ⟨1, 12⟩
  | dayOfWeek => ⟨0, 6⟩
  | year => ⟨1970, 2099⟩

/-- The numbers that a token of the slot may be written with: a week may also end on day 7. -/
def accepted (s : Slot) : Bounds :=
  if s = dayOfWeek then ⟨0, 7⟩ else s.bounds

/-- Day 7 of the week is Sunday, as is day 0. -/
def canonical (s : Slot) (n : Int) : Int :=
  if s = dayOfWeek ∧ n = 7 then 0 else n

/-- The set of numbers that the given ones stand for. -/
def normalize (s : Slot) (ns : List Int) : List Int :=
  Ascending.ofList (ns.map s.canonical)

/-- The day slots may be left open with a question mark. -/
def allowsQuestion (s : Slot) : Bool :=
  s = dayOfMonth || s = dayOfWeek

end Slot

end CronSchedule
