import CronSchedule.Host.Width

/-!
Cutting a text at a column. A character is never parted from the marks that belong to it.
-/

namespace CronSchedule.Host

/-- A character with the marks that belong to it, and the columns that it takes with them. -/
structure Cluster where
  chars : List Char
  columns : Nat
deriving DecidableEq

/-- The marks at the start of a text, which belong to the character before it, and the clusters
after them. -/
def clustersAfter (last : Option Char) : List Char → Cluster × List Cluster
  | [] => (⟨[], 0⟩, [])
  | [c] =>
    if c = pictureMark then (⟨[c], if last.any isWidened then 1 else 0⟩, [])
    else if charWidth c = 0 then (⟨[c], 0⟩, [])
    else (⟨[], 0⟩, [⟨[c], charWidth c⟩])
  | c :: d :: rest =>
    if c = joiner then
      let (marks, clusters) := clustersAfter last rest
      (⟨c :: d :: marks.chars, marks.columns⟩, clusters)
    else if c = pictureMark then
      let (marks, clusters) := clustersAfter none (d :: rest)
      (⟨c :: marks.chars, marks.columns + if last.any isWidened then 1 else 0⟩, clusters)
    else if charWidth c = 0 then
      let (marks, clusters) := clustersAfter last (d :: rest)
      (⟨c :: marks.chars, marks.columns⟩, clusters)
    else
      let (marks, clusters) := clustersAfter (some c) (d :: rest)
      (⟨[], 0⟩, ⟨c :: marks.chars, charWidth c + marks.columns⟩ :: clusters)

/-- The clusters of a text; marks at its start make one of their own, and a joiner there joins
nothing. -/
def clusters (s : List Char) : List Cluster :=
  let (joiners, s) := if s.head? = some joiner then ([joiner], s.tail) else ([], s)
  let (marks, clusters) := clustersAfter none s
  let marks := { marks with chars := joiners ++ marks.chars }
  if marks.chars = [] then clusters else marks :: clusters

/-- As many clusters as fit into `n` columns; a blank takes the place of half a character. -/
def takeColumns : Nat → List Cluster → List Char
  | _, [] => []
  | n, c :: rest =>
    if c.columns ≤ n then c.chars ++ takeColumns (n - c.columns) rest
    else if n = 0 then [] else [' ']

/-- The text cut after `n` columns. -/
def cut (n : Nat) (s : List Char) : List Char :=
  if columns s ≤ n then s else takeColumns n (clusters s)

/-- The text cut after `n` columns, the last of which shows that something is missing. -/
def shorten (n : Nat) (s : List Char) : List Char :=
  if columns s ≤ n then s else cut (n - 1) s ++ ['…']

/-- The pieces of at most `n` columns that follow a piece of which `line` is known. -/
def chopFrom (n : Nat) (line : Cluster) : List Cluster → List (List Char)
  | [] => if line.columns = 0 then [] else [line.chars]
  | c :: rest =>
    if n < line.columns + c.columns then line.chars :: chopFrom n c rest
    else chopFrom n ⟨line.chars ++ c.chars, line.columns + c.columns⟩ rest

/-- The text in pieces of at most `n` columns. -/
def chop (n : Nat) (s : List Char) : List (List Char) :=
  chopFrom n ⟨[], 0⟩ (clusters s)

end CronSchedule.Host
