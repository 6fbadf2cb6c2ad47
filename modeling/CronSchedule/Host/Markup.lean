import CronSchedule.Host.Picture
import CronSchedule.Text.Pieces

/-!
Markup: a name in brackets asks for a style, unless an odd number of backslashes stands before it.
Text that is to be shown as it is has to be escaped.
-/

namespace CronSchedule.Host.Markup

inductive Segment where
  | plain (s : List Char)
  /-- What stands in brackets, and the backslashes before them. -/
  | tag (backslashes : Nat) (name : List Char)
deriving DecidableEq

/-- Whether a name in brackets starts with a character. -/
def startsName (c : Char) : Bool :=
  c.isLower || c = '#' || c = '/' || c = '@'

/-- The name that a text after a bracket starts with, and what follows its closing bracket. -/
def name? : List Char → Option (List Char × List Char)
  | [] => none
  | c :: s =>
    match s.dropWhile (· ≠ ']') with
    | _ :: rest => if startsName c then some (c :: s.takeWhile (· ≠ ']'), rest) else none
    | [] => none

/-- A text without the backslashes at its end, and how many those are. -/
def splitBackslashes (s : List Char) : List Char × Nat :=
  ((s.reverse.dropWhile (· = '\\')).reverse, (s.reverse.takeWhile (· = '\\')).length)

/-- The segments of a text that goes on with pieces after a bracket each. -/
def segmentsOf (s : List Char) : List (List Char) → List Segment
  | [] => [.plain s]
  | piece :: pieces =>
    match name? piece with
    | none => segmentsOf (s ++ '[' :: piece) pieces
    | some (name, rest) =>
      let (s, backslashes) := splitBackslashes s
      .plain s :: .tag backslashes name :: segmentsOf rest pieces

def segments (s : List Char) : List Segment :=
  match Text.pieces '[' s with
  | [] => []
  | first :: pieces => segmentsOf first pieces

def bracketed (name : List Char) : List Char :=
  '[' :: name ++ [']']

/-! ## Escaping -/

/-- A segment with enough backslashes for it to be shown as it is. -/
def Segment.escaped : Segment → List Char
  | plain s => s
  | tag n name => List.replicate (2 * n + 1) '\\' ++ bracketed name

/-- A backslash more if there is a single one at the end, so that it escapes nothing that follows. -/
def closed (s : List Char) : List Char :=
  match s.reverse with
  | ['\\'] => s ++ ['\\']
  | '\\' :: c :: _ => if c = '\\' then s else s ++ ['\\']
  | _ => s

def escape (s : List Char) : List Char :=
  closed ((segments s).flatMap Segment.escaped)

/-! ## Showing -/

/-- A bracket after a backslash, which takes the place of both. -/
def escapedBracket? : List Char → Option (Nat × List Char)
  | '\\' :: '[' :: _ => some (2, ['['])
  | _ => none

/-- A segment as it is shown: of the backslashes before a tag half are. -/
def Segment.shown : Segment → List Char
  | plain s => withPictures (substitute escapedBracket? s)
  | tag n name =>
    List.replicate (n / 2) '\\' ++ if n % 2 = 1 then withPictures (bracketed name) else []

/-- Whether a character cannot be shown and is left out. -/
def isLeftOut (c : Char) : Bool :=
  c = '\x07' || c = '\x08' || c = '\x0b' || c = '\x0c' || c = '\r'

/-- The text that markup shows. -/
def shown (s : List Char) : List Char :=
  ((segments s).flatMap Segment.shown).filter (!isLeftOut ·)

/-- How a text comes out when it is escaped and then shown. -/
def display (s : String) : String :=
  String.ofList (shown (escape s.toList))

end CronSchedule.Host.Markup
