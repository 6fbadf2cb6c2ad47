import CronSchedule.Calendar.Zone
import CronSchedule.Number.DecimalText

/-!
Reading dates and times as they are written by ISO 8601, with or without marks between their parts.
-/

namespace CronSchedule.IsoText

/-- Reads exactly `n` digits. -/
def digits? (n : Nat) (s : List Char) : Option (Nat × List Char) :=
  let ds := s.take n
  if ds.length = n ∧ ds.all Char.isDigit then some (DecimalText.natValue ds, s.drop n) else none

/-! ## Dates -/

/-- The day number of the Monday of the first week of a year, the one with the 4th of January. -/
def firstMonday (year : Nat) : Nat :=
  let n := Date.number ⟨year, 1, 4⟩
  n - n % 7

/-- The date of a day in a numbered week, if the year has such a week. -/
def weekDate? (year week day : Nat) : Option Date :=
  let n := firstMonday year + 7 * (week - 1) + (day - 1)
  if 1 ≤ year ∧ 1 ≤ week ∧ 1 ≤ day ∧ day ≤ 7 ∧
      firstMonday year + 7 * week ≤ firstMonday (year + 1) ∧ n < daysBeforeYear 10000 then
    some (Date.ofNumber n)
  else none

/-- Reads month and day. -/
def monthDay? (marked : Bool) (year : Nat) (s : List Char) : Option (Date × List Char) := do
  let (month, s) ← digits? 2 s
  let s ← if marked then s.head?.bind fun c => if c = '-' then some s.tail else none else some s
  let (day, s) ← digits? 2 s
  let date : Date := ⟨year, month, day⟩
  if date.isValid then some (date, s) else none

/-- What follows a week with marks: a mark and a day, unless two digits after the mark make it the
separator before a time. -/
def markedWeekDay? (s : List Char) : Option (Nat × List Char) :=
  match s with
  | '-' :: rest =>
    if ((rest.drop 1).head?).any Char.isDigit then some (1, s) else digits? 1 rest
  | _ => some (1, s)

/-- What follows a week without marks: a day if the run of digits is odd, because the parts of a
time are written with two digits each. A run that starts right before a separator is a day at
most. -/
def plainWeekDay? (s : List Char) : Option (Nat × List Char) :=
  let run := (s.takeWhile Char.isDigit).length
  if run = 0 ∨ 2 ≤ run ∧ run % 2 = 1 then some (1, s) else digits? 1 s

/-- Reads a date from the start of a text. -/
def date? (s : List Char) : Option (Date × List Char) := do
  let (year, s) ← digits? 4 s
  match s with
  | '-' :: 'W' :: s =>
    let (week, s) ← digits? 2 s
    let (day, s) ← markedWeekDay? s
    let date ← weekDate? year week day
    return (date, s)
  | '-' :: s => monthDay? true year s
  | 'W' :: s =>
    let (week, s) ← digits? 2 s
    let (day, s) ← plainWeekDay? s
    let date ← weekDate? year week day
    return (date, s)
  | s => monthDay? false year s

/-! ## Times -/

/-- Hours, minutes, seconds and microseconds, and whether the text ends with them. -/
structure Reading where
  hour : Nat
  minute : Nat
  second : Nat
  microsecond : Nat
  ends : Bool

def Reading.micros (r : Reading) : Nat :=
  ((r.hour * 60 + r.minute) * 60 + r.second) * microsecondsPerSecond + r.microsecond

/-- Whether a text ends: a null character counts as its end. -/
def atEnd (s : List Char) : Bool :=
  match s.head? with
  | none => true
  | some c => c = '\x00'

/-- A fraction of a second: the digits after the sixth do not count. -/
def fraction? (s : List Char) : Option (Nat × Bool) :=
  let ds := s.take 6
  if ds.all Char.isDigit then
    some (DecimalText.natValue (ds.rightpad 6 '0'), atEnd (s.dropWhile Char.isDigit))
  else none

/-- The texts that a part of a time can go on with: the next part, or a fraction. -/
inductive Follow where
  | nothing
  /-- A single ASCII character, whichever it is but null. -/
  | one
  | part (s : List Char)
  | fraction (s : List Char)
  | wrong

/-- What comes after a part of a time that has colons, or has none. -/
def follow (colons : Bool) : List Char → Follow
  | [] => .nothing
  | [c] => if c = '\x00' then .nothing else if c.toNat < 0x80 then .one else .wrong
  | c :: rest =>
    if colons && c = ':' then .part rest
    else if c = '.' || c = ',' then .fraction rest
    else if colons then .wrong
    else .part (c :: rest)

/-- Reads minutes and seconds, as many of them as are asked for, and a fraction after them or in
place of them. -/
def parts? (colons : Bool) : Nat → List Char → Option (List Nat × Nat × Bool)
  | n, s =>
    match follow colons s with
    | .nothing => some ([], 0, true)
    | .one => some ([], 0, false)
    | .wrong => none
    | .fraction s => (fraction? s).map fun (micros, ends) => ([], micros, ends)
    | .part s =>
      match n with
      | 0 => (fraction? s).map fun (micros, ends) => ([], micros, ends)
      | n + 1 => do
        let (part, s) ← digits? 2 s
        let (rest, micros, ends) ← parts? colons n s
        return (part :: rest, micros, ends)

/-- Reads a time. Whether it has colons is settled after the hours. -/
def time? (s : List Char) : Option Reading := do
  let (hour, s) ← digits? 2 s
  let (parts, micros, ends) ← parts? (s.head? = some ':') 2 s
  return ⟨hour, parts.getD 0 0, parts.getD 1 0, micros, ends⟩

def isZoneSign (c : Char) : Bool :=
  c = '+' || c = '-' || c = 'Z'

/-- The zone of an offset; less than a second of it counts only together with more. -/
def zoneOf? (negative : Bool) (r : Reading) : Option Zone :=
  let n := r.micros
  if n < microsecondsPerSecond then some (Zone.ofOffset 0)
  else if n < microsecondsPerDay then some (Zone.ofOffset (if negative then -(n : Int) else n))
  else none

/-- Reads the zone after a time. -/
def zone? : List Char → Option Zone
  | 'Z' :: s => if atEnd s then some (Zone.ofOffset 0) else none
  | sign :: s => do
    let r ← time? s
    if r.ends then zoneOf? (sign = '-') r else none
  | [] => none

/-- Reads a time and the zone after it. A time without a zone must end with its last part. -/
def timeAndZone? (s : List Char) : Option (Reading × Option Zone) := do
  let r ← time? (s.takeWhile fun c => !isZoneSign c)
  match s.dropWhile fun c => !isZoneSign c with
  | [] => if r.ends then some (r, none) else none
  | zone => (zone? zone).map fun z => (r, some z)

/-- Reads a date, and after any one character a time. -/
def stamp? (s : List Char) : Option Stamp := do
  let (date, rest) ← date? s
  let (r, zone) ← match rest with
    | [] => some (⟨0, 0, 0, 0, true⟩, none)
    | _ :: time => timeAndZone? time
  let clock ← Civil.moment? ⟨date, r.hour, r.minute, r.second, r.microsecond⟩
  return ⟨clock, zone⟩

end CronSchedule.IsoText

namespace CronSchedule

/-- Reads a date, perhaps with a time and a zone. -/
def Stamp.ofIso? (s : String) : Option Stamp :=
  IsoText.stamp? s.toList

end CronSchedule
