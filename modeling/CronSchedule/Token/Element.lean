import CronSchedule.Slot
import CronSchedule.Number.Numeral

/-!
The elements of a token, the text that each is written as, and the numbers that it selects.
-/

namespace CronSchedule

/-- What an element starts from. -/
inductive Base where
  | every
  | single (n : Numeral)
  | span (first last : Numeral)
deriving DecidableEq

/-- One element of a token: a base, and perhaps a step through it. -/
inductive Element where
  | plain (base : Base)
  | stepped (base : Base) (step : Numeral)
deriving DecidableEq

namespace Base

def text : Base → List Char
  | every => ['*']
  | single n => n.digits
  | span first last => first.digits ++ '-' :: last.digits

/-- The numbers that the base itself selects. -/
def values (b : Bounds) : Base → List Int
  | every => b.toList
  | single n => [(n.value : Int)]
  | span first last => Bounds.toList ⟨first.value, last.value⟩

/-- The numbers that a step goes through: a single number starts a run to the upper bound. -/
def candidates (b : Bounds) : Base → List Int
  | single n => Bounds.toList ⟨n.value, b.high⟩
  | base => base.values b

/-- Where the steps are counted from: a single number counts from itself. -/
def anchor (b : Bounds) : Base → Int
  | single n => n.value
  | _ => b.low

end Base

namespace Element

def text : Element → List Char
  | plain base => base.text
  | stepped base step => base.text ++ '/' :: step.digits

/-- The numbers that the element selects within the bounds, in ascending order. -/
def values (b : Bounds) : Element → List Int
  | plain base => base.values b
  | stepped base step =>
    (base.candidates b).filter fun v => (v - base.anchor b) % (step.value : Int) = 0

end Element

end CronSchedule
