import CronSchedule.Token.Reading

/-!
Expanding a token to the numbers that it selects. The range of an element is listed before any number is left
out of it, and there is a limit to what a list holds.
-/

namespace CronSchedule

/-- The most numbers that a list holds. -/
def maxListed : Nat :=
  9223372036854775807

/-- Why a token is not expanded. -/
inductive ExpansionError where
  | fault (f : Fault)
  | overlong (e : OverlongNumber)
  /-- A range has more numbers than a list holds. -/
  | unlistable
deriving DecidableEq

def TokenError.expansionError : TokenError → ExpansionError
  | fault f => .fault f
  | overlong e => .overlong e

namespace Element

/-- The range that is listed for the element. None is for a step through all numbers or from a single one on:
these are gone through one by one. -/
def listed? (b : Bounds) : Element → Option Bounds
  | plain .every => some b
  | plain (.span first last) | stepped (.span first last) _ => some ⟨first.value, last.value⟩
  | plain (.single _) | stepped _ _ => none

/-- The element needs a list that is too long. -/
def isUnlistable (b : Bounds) (e : Element) : Bool :=
  (e.listed? b).any fun range => (maxListed : Int) < range.size

/-- Reads one element, and lists its range once the form is read. -/
def readListed (b : Bounds) (token : List Char) : Except ExpansionError Element := do
  let e ← (readForm b token).mapError TokenError.expansionError
  if e.isUnlistable b then .error .unlistable
  else (refuseEmpty b token e).mapError TokenError.expansionError

end Element

namespace Token

/-- Reads and lists the elements of a token from left to right; the first that cannot be read or listed
decides. -/
def listedElements (b : Bounds) (token : List Char) : Except ExpansionError (List Element) :=
  (Text.pieces ',' token).mapM fun part =>
    if part = [] then .error (.fault (.emptyElement (String.ofList token)))
    else Element.readListed b part

/-- The numbers that a token selects within the bounds. -/
def expand (b : Bounds) (token : String) : Except ExpansionError (List Int) :=
  selection b <$> listedElements b token.toList

end Token

end CronSchedule
