import CronSchedule.Expression.Basic
import CronSchedule.Message.Pattern

/-!
Accounts: a text is read for one language, each fault is put into words on the spot, and any message may
fail to be.
-/

namespace CronSchedule

/-- An issue as it is told in one language. -/
structure Notice where
  kind : String
  slot? : Option Slot
  token : String
  message : String
deriving DecidableEq

/-- A warning as it is told in one language. -/
structure Caution where
  kind : String
  message : String
deriving DecidableEq

/-- What was read from a text, with the fields if there is an expression. -/
structure Account where
  fields? : Option (List Field)
  notices : List Notice
  cautions : List Caution
deriving DecidableEq

inductive AccountError where
  | overlong (e : OverlongNumber)
  | untold (e : PatternError)
deriving DecidableEq

/-- A fault is told in English where it is found, and then told again. -/
def Fault.explain (l : Locale) (f : Fault) : Except PatternError String := do
  let _ ← Locale.en.format f.message f.bindings
  l.format f.message f.bindings

def FieldFault.explain (l : Locale) : FieldFault → Except PatternError String
  | questionNotAllowed => l.format .questionNotAllowed []
  | token f => f.explain l

/-- The explanation of a fault becomes part of a further message. -/
def FieldFault.notice (l : Locale) (slot : Slot) (token : String) (fault : FieldFault) :
    Except PatternError Notice := do
  let reason ← fault.explain l
  let message ← l.format .invalidField
    [(.label, l.labelOf slot.name), (.token, token), (.reason, reason)]
  return ⟨"field_range", slot, token, message⟩

/-- Reads the token of a slot and tells what is wrong with it. -/
def Field.readIn (l : Locale) (slot : Slot) (token : String) :
    Except AccountError (Field × Option Notice) := do
  let f ← (Field.read slot token).mapError .overlong
  match f.fault? with
  | none => return (f, none)
  | some fault =>
    let notice ← (fault.notice l slot token).mapError .untold
    return (f, some notice)

namespace Account

/-- The warning about fields in slot order, if neither of the day fields is left open. -/
def tellCautions (l : Locale) (fields : List Field) : Except PatternError (List Caution) := do
  if fields[3]?.any (!·.isUnrestricted) && fields[5]?.any (!·.isUnrestricted) then
    let message ← l.format .bothDaysRestricted []
    return [⟨"semantic", message⟩]
  else return []

def tellCount (l : Locale) (source : String) (expected actual : Nat) : Except PatternError Notice := do
  let message ← l.format .wrongCount
    [(.expected, Text.ofNat expected), (.actual, Text.ofNat actual)]
  return ⟨"arity", none, String.ofList (Text.trim source.toList), message⟩

/-- Reads the tokens of all slots in order. -/
def ofSlots (l : Locale) (ws : List (Slot × String)) : Except AccountError Account := do
  let read ← ws.mapM fun w => Field.readIn l w.1 w.2
  let cautions ← (tellCautions l (read.map Prod.fst)).mapError .untold
  return ⟨read.map Prod.fst, read.filterMap Prod.snd, cautions⟩

/-- Reads a text for the language that a tag asks for. -/
def ofSource (tag : Option String) (source : String) (mode : Mode) : Except AccountError Account :=
  let l := Locale.ofTag tag
  let tokens := Expression.tokens source
  if tokens.length = mode.size ∨ tokens.length = mode.size + 1 then
    ofSlots l (Slot.all.zip (Expression.slotTokens mode tokens))
  else do
    let notice ← (tellCount l source mode.size tokens.length).mapError .untold
    return ⟨none, [notice], []⟩

def isValid (a : Account) : Bool :=
  a.notices.isEmpty

end Account

end CronSchedule
