import CronSchedule.Message.Catalog

/-!
Messages as they are written in a catalogue, with the placeholders in braces, and how they are filled in.
-/

namespace CronSchedule

/-- Why a pattern is not filled in. -/
inductive PatternError where
  | unbound (name : String)
  /-- A brace that no other one matches. -/
  | loneBrace
  /-- There is more than a name in braces. -/
  | notName (c : Char)
deriving DecidableEq

/-- Fills in the rest of a pattern, or of a name in braces of which these letters were read. Two braces
stand for one. There is only one pass, and what a name stands for is not part of it. -/
def fillPattern (values : List (String × String)) :
    Option (List Char) → List Char → Except PatternError (List Char)
  | none, [] => .ok []
  | none, '\x7b' :: '\x7b' :: rest => ('\x7b' :: ·) <$> fillPattern values none rest
  | none, '\x7d' :: '\x7d' :: rest => ('\x7d' :: ·) <$> fillPattern values none rest
  | none, c :: rest =>
    if c = '\x7b' then fillPattern values (some []) rest
    else if c = '\x7d' then .error .loneBrace
    else (c :: ·) <$> fillPattern values none rest
  | some _, [] => .error .loneBrace
  | some name, c :: rest =>
    if c = '\x7d' then
      match values.lookup (String.ofList name) with
      | some value => (value.toList ++ ·) <$> fillPattern values none rest
      | none => .error (.unbound (String.ofList name))
    else if c.isAlpha then fillPattern values (some (name ++ [c])) rest
    else .error (.notName c)

/-- The message with its placeholders left open. -/
def Message.pattern (m : Message) (l : Locale) : String :=
  m.say l []

/-- A message filled in by the names of its placeholders. If there is nothing to fill in, it is taken as
it is written. -/
def Locale.format (l : Locale) (m : Message) (b : Bindings) : Except PatternError String :=
  if b.isEmpty then .ok (m.pattern l)
  else String.ofList <$> fillPattern b.named none (m.pattern l).toList

end CronSchedule
