import CronSchedule.CommandLine.Passage
import CronSchedule.Host.Wrap
import CronSchedule.Number.Quotient

/-!
Tables and panels drawn with lines. Columns are as wide as their widest cell, with a blank on each
side, unless all together are wider than what they are drawn on: then the widest give way.
-/

namespace CronSchedule.Host

open CommandLine (Column)
open Text

/-- The text filled up to the width of its column. A joiner at its end takes in the first blank after
it, and then another one is needed. -/
def filled (c : Column) (n : Nat) (s : String) : String :=
  if c.isRight then padLeft n s else padRight n (padRight n s)

/-! ## Widths -/

/-- Whether a line ends at a character when it is measured. -/
def isLineEnd (c : Char) : Bool :=
  c = '\n' || c = '\x1c' || c = '\x1d' || c = '\x1e' || c = '\u0085' || c = '\u2028' ||
    c = '\u2029'

/-- The greatest of some numbers, or zero. -/
def greatest (ns : List Nat) : Nat :=
  ns.foldr max 0

def total (ns : List Nat) : Nat :=
  ns.foldr (· + ·) 0

/-- The width of the widest line of a text, in which tabs take no column. -/
def widest (s : String) : Nat :=
  greatest ((pieces '\n' (s.toList.map fun c => if isLineEnd c then '\n' else c)).map columns)

/-- The columns that a table column asks for, its blanks included. -/
def columnWidth (limit : Nat) (title : String) (cells : List String) : Nat :=
  min limit (greatest ((title :: cells).map widest) + 2)

/-- The columns that all table columns ask for; the rows have a cell for each of them. -/
def columnWidths (limit : Nat) : List Column → List (List String) → List Nat
  | [], _ => []
  | c :: cs, rows =>
    columnWidth limit c.title (rows.map fun row => row.headD "") ::
      columnWidths limit cs (rows.map List.tail)

/-- Takes `excess` columns in equal parts, but at most `step` each, from the `count` columns that
have the width `top`. -/
def takeFrom (top step : Nat) : Nat → Nat → List Nat → List Nat
  | _, _, [] => []
  | excess, count, w :: ws =>
    if w = top then
      let part := min step (roundedDiv excess count)
      (w - part) :: takeFrom top step (excess - part) (count - 1) ws
    else w :: takeFrom top step excess count ws

/-- Makes the widest columns narrower, at first until the next narrower ones are as wide, as long as
all together are wider than `limit`; the first argument bounds how often. -/
def narrowed (limit : Nat) : Nat → List Nat → List Nat
  | 0, ws => ws
  | fuel + 1, ws =>
    let excess := total ws - limit
    if excess = 0 then ws
    else
      let top := greatest ws
      let step := min excess (top - greatest (ws.filter (· ≠ top)))
      narrowed limit fuel (takeFrom top step excess (ws.count top) ws)

/-- The widths of the columns of a table for the cells alone, on `limit` columns. -/
def cellWidths (limit : Nat) (columns : List Column) (rows : List (List String)) : List Nat :=
  let inner := limit - (columns.length + 1)
  (narrowed inner (columns.length + 1) (columnWidths inner columns rows)).map (· - 2)

/-! ## Tables -/

/-- A line from left to right through all columns. -/
def rule (left stroke cross right : String) (widths : List Nat) : String :=
  left ++ cross.intercalate (widths.map fun n => String.join (List.replicate (n + 2) stroke)) ++
    right ++ "\n"

/-- One line of cells between bars. -/
def cellLine (bar : String) (columns : List (Column × Nat)) (cells : List String) : String :=
  let fields := columns.zipWith (fun c s => " " ++ filled c.1 c.2 s ++ " ") cells
  bar ++ bar.intercalate fields ++ bar ++ "\n"

/-- The lines of a row, which is as high as its highest cell. -/
def tableRow (bar : String) (columns : List (Column × Nat)) (cells : List String) : String :=
  let cells := columns.zipWith (fun c s => wrap .shorten c.2 s) cells
  let height := greatest (cells.map List.length)
  String.join ((List.range height).map fun i =>
    cellLine bar columns (cells.map fun lines => lines.getD i ""))

/-- A table with a line under its head, drawn on `limit` columns. -/
def table (limit : Nat) (columns : List Column) (rows : List (List String)) : String :=
  let widths := cellWidths limit columns rows
  let sized := columns.zip widths
  rule "┏" "━" "┳" "┓" widths ++ tableRow "┃" sized (columns.map (·.title)) ++
    rule "┡" "━" "╇" "┩" widths ++ String.join (rows.map (tableRow "│" sized)) ++
    rule "└" "─" "┴" "┘" widths

/-! ## Panels -/

/-- A text in the middle of `n` columns of a stroke; the odd one is on the right. -/
def centered (stroke : String) (n : Nat) (s : String) : String :=
  let space := n - width s
  let strokes (k : Nat) := String.join (List.replicate k stroke)
  strokes (space / 2) ++ s ++ strokes (space - space / 2)

/-- Lines in a frame with a title, which is as wide as the widest of them if `limit` columns are
enough for that. -/
def panel (limit : Nat) (title : String) (lines : List String) : String :=
  let title := " " ++ title ++ " "
  let n := min (limit - 4) (greatest (width title :: lines.map widest))
  "╭─" ++ centered "─" n title ++ "─╮\n" ++
    String.join ((lines.flatMap (wrap .fold n)).map fun s => "│ " ++ padRight n s ++ " │\n") ++
    "╰" ++ String.join (List.replicate (n + 2) "─") ++ "╯\n"

end CronSchedule.Host
