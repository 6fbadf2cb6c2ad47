import CronSchedule.Text.Blank
import CronSchedule.Host.Cut
import CronSchedule.Text.Pieces

/-!
Breaking a text into lines that fit a width. Lines break between words.
-/

namespace CronSchedule.Host

open Text

/-- What happens to a word that is wider than a line. -/
inductive Overflow where
  /-- It goes on in the next line. -/
  | fold
  /-- It is cut, and a mark shows that. -/
  | shorten
deriving DecidableEq

/-- How far a tab reaches at most. -/
def tabSize : Nat := 8

/-- A piece with a blank after it, and as many more as lead to the next column that a tab reaches. -/
def toTab (p : List Char) : List Char :=
  let p := p ++ [' ']
  p ++ List.replicate ((tabSize - columns p % tabSize) % tabSize) ' '

/-- The pieces between tabs, each but the last with the blanks of the tab after it. -/
def tabbed : List (List Char) → List Char
  | [] => []
  | [p] => p
  | p :: ps => toTab p ++ tabbed ps

/-- The text with blanks in place of its tabs. -/
def expandTabs (s : List Char) : List Char :=
  tabbed (pieces '\t' s)

/-- The words of a text, each with the blanks around it that no other word has: the first word has
those before it too. -/
def paddedWords (s : List Char) : List (List Char) :=
  match s.splitBy fun c d => !isBlank c || isBlank d with
  | first :: second :: rest =>
    if first.all isBlank then (first ++ second) :: rest else first :: second :: rest
  | [only] => if only.all isBlank then [] else [only]
  | [] => []

/-- The lines of a text so far, the last one first, and the columns taken of the last one. -/
structure Filling where
  lines : List (List Char)
  used : Nat

namespace Filling

def extend (f : Filling) (word : List Char) : Filling :=
  match f.lines with
  | [] => ⟨[word], f.used + columns word⟩
  | line :: lines => ⟨(line ++ word) :: lines, f.used + columns word⟩

def newLine (f : Filling) (word : List Char) : Filling :=
  ⟨word :: f.lines, columns word⟩

/-- Adds a word to lines of `n` columns. -/
def add (overflow : Overflow) (n : Nat) (f : Filling) (word : List Char) : Filling :=
  let wanted := columns (trimRight word)
  if f.used + wanted ≤ n then f.extend word
  else if n < wanted ∧ overflow = .fold then (chop n word).foldl newLine f
  else f.newLine word

end Filling

/-- The text broken into lines, which may still have blanks beyond the width. -/
def broken (overflow : Overflow) (n : Nat) (s : List Char) : List (List Char) :=
  match ((paddedWords s).foldl (Filling.add overflow n) ⟨[], 0⟩).lines with
  | [] => [s]
  | lines => lines.reverse

/-- The line without blanks at its end that are more than `n` characters after its start. -/
def withoutExcess (n : Nat) (line : List Char) : List Char :=
  let blanks := (line.reverse.takeWhile isBlank).length
  line.take (line.length - min blanks (line.length - n))

/-- The line made to fit `n` columns. -/
def fitted (overflow : Overflow) (n : Nat) (line : List Char) : List Char :=
  match overflow with
  | .fold => cut n (withoutExcess n line)
  | .shorten => shorten n (withoutExcess n line)

/-- The lines of a text, each at most `n` columns wide. -/
def wrap (overflow : Overflow) (n : Nat) (s : String) : List String :=
  (pieces '\n' s.toList).flatMap fun line =>
    (broken overflow n (expandTabs line)).map fun l => String.ofList (fitted overflow n l)

/-- The lines of a text as they are printed when there are `n` columns. -/
def paragraph (n : Nat) (s : String) : String :=
  String.join ((wrap .fold n s).map (· ++ "\n"))

end CronSchedule.Host
