import CronSchedule.Description.Sentence
import CronSchedule.Number.DecimalText

/-!
Schedules in words from their tokens alone: each is cut up once more, whatever was read from it before,
and each cut, number, name and placeholder may fail.
-/

namespace CronSchedule

/-- Why a schedule is not told. -/
inductive TellingError where
  | rejected (r : Rejection)
  /-- A text that has to be cut in two falls into fewer or more pieces. -/
  | notTwo (text : List Char)
  | notInteger (text : List Char)
  /-- A value without a name. -/
  | unnamed (slot : Slot) (n : Int)
  | noUnit (slot : Slot)
  | unbound (p : Placeholder)
deriving DecidableEq

/-- A base with the numbers that were read again. -/
inductive BareBase where
  | every
  | single (n : Int)
  | span (first last : Int)
deriving DecidableEq

/-- One part of a token. The step is kept as it was written. -/
inductive BarePart where
  | plain (base : BareBase)
  | stepped (base : BareBase) (step : List Char)
deriving DecidableEq

def BareBase.integer (text : List Char) : Except TellingError Int :=
  match DecimalText.readInt? (String.ofList text) with
  | some n => .ok n
  | none => .error (.notInteger text)

/-- The two texts around a mark. -/
def BareBase.halves (mark : Char) (text : List Char) : Except TellingError (List Char × List Char) :=
  match Text.pieces mark text with
  | [first, last] => .ok (first, last)
  | _ => .error (.notTwo text)

def BareBase.read (text : List Char) : Except TellingError BareBase :=
  if text = ['*'] then .ok .every
  else if '-' ∈ text then do
    let (first, last) ← halves '-' text
    return .span (← integer first) (← integer last)
  else .single <$> integer text

def BarePart.read (text : List Char) : Except TellingError BarePart :=
  if '/' ∈ text then do
    let (base, step) ← BareBase.halves '/' text
    return .stepped (← BareBase.read base) step
  else .plain <$> BareBase.read text

namespace Locale

/-- A message filled in by the names of its placeholders. -/
def tell (l : Locale) (m : Message) (b : Bindings) : Except TellingError String :=
  ((m.template l).fillNamed b.named).mapError .unbound

def tellValue (l : Locale) (slot : Slot) (n : Int) : Except TellingError String :=
  match l.valueOf? slot.name n with
  | some text => .ok text
  | none => .error (.unnamed slot n)

def tellUnit (l : Locale) (slot : Slot) : Except TellingError String :=
  match l.stepUnitOf? slot.name with
  | some text => .ok text
  | none => .error (.noUnit slot)

end Locale

namespace BareBase

def tell (l : Locale) (slot : Slot) : BareBase → Except TellingError String
  | every => do
    let start ← l.tellValue slot slot.bounds.low
    let stop ← l.tellValue slot slot.bounds.high
    l.tell .range [(.start, start), (.stop, stop)]
  | single n => l.tellValue slot n
  | span first last => do
    let start ← l.tellValue slot first
    let stop ← l.tellValue slot last
    l.tell .range [(.start, start), (.stop, stop)]

def tellStep (l : Locale) (slot : Slot) (step : List Char) (base : BareBase) :
    Except TellingError String := do
  let unit ← l.tellUnit slot
  match base with
  | every => l.tell .step [(.step, String.ofList step), (.unit, unit)]
  | single n =>
    let start ← l.tellValue slot n
    l.tell .stepFrom [(.step, String.ofList step), (.unit, unit), (.start, start)]
  | span first last =>
    let start ← l.tellValue slot first
    let stop ← l.tellValue slot last
    l.tell .stepThrough
      [(.step, String.ofList step), (.unit, unit), (.start, start), (.stop, stop)]

end BareBase

namespace BarePart

def tell (l : Locale) (slot : Slot) : BarePart → Except TellingError String
  | plain base => base.tell l slot
  | stepped base step => base.tellStep l slot step

def retell (l : Locale) (slot : Slot) (text : List Char) : Except TellingError String := do
  (← read text).tell l slot

/-- Whether the parts are one number and no more. -/
def isOne : List (List Char) → Bool
  | [text] => '-' ∉ text && text ≠ ['*']
  | _ => false

end BarePart

namespace Field

/-- What is said of the parts of a token that is not a single step. -/
def retellList (l : Locale) (f : Field) (texts : List (List Char)) : Except TellingError String :=
  if f.isWorkingDays then l.tell .onWeekdays []
  else do
    let items ← texts.mapM (BarePart.retell l f.slot)
    l.tell (if BarePart.isOne texts then f.slot.one else f.slot.many) [(.values, l.listing items)]

def retell (l : Locale) (f : Field) : Except TellingError String :=
  match Text.pieces ',' f.token.toList with
  | [text] => if '/' ∈ text then BarePart.retell l f.slot text else f.retellList l [text]
  | texts => f.retellList l texts

end Field

namespace Expression

/-- The sentence put together from what is said of each field that is not open. -/
def recomposed (l : Locale) (e : Expression) : Except TellingError String := do
  let fragments ← (e.written.filter (!·.isUnrestricted)).mapM (·.retell l)
  let fragments ← if fragments = [] then List.singleton <$> l.tell e.everyUnit [] else .ok fragments
  let connector ← l.tell .connector []
  l.tell .sentence [(.body, connector.intercalate fragments)]

/-- An expression in the words of the language that a tag asks for. -/
def retell (tag : Option String) (e : Expression) : Except TellingError String := do
  let _ ← e.requireValid.mapError .rejected
  match e.canned? (Locale.ofTag tag) with
  | some phrase => .ok phrase
  | none => e.recomposed (Locale.ofTag tag)

end Expression

end CronSchedule
