import CronSchedule.Host.Substitution

/-!
Sequences of characters by which a terminal is told to change its colours or to move: an escape and
a bracket, then figures and marks between them, and a letter at the end.
-/

namespace CronSchedule.Host

/-- Whether a character stands between the bracket and the letter of a sequence. -/
def isSequenceInner (c : Char) : Bool :=
  c = ';' || c = '?' || c.isDigit

/-- The length of the sequence at the start of a text, and that nothing takes its place. -/
def sequence? : List Char → Option (Nat × List Char)
  | '\x1b' :: '[' :: rest =>
    match rest.dropWhile isSequenceInner with
    | c :: _ =>
      if c.isAlpha then some ((rest.takeWhile isSequenceInner).length + 3, []) else none
    | [] => none
  | _ => none

/-- The text without its control sequences. -/
def withoutSequences (s : String) : String :=
  String.ofList (substitute sequence? s.toList)

end CronSchedule.Host
