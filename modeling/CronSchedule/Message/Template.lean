/-!
Message templates: text with placeholders, and what is put for them.
-/

namespace CronSchedule

/-- What a message leaves open. -/
inductive Placeholder where
  | expected
  | actual
  | label
  | token
  | reason
  | value
  | low
  | high
  | body
  | start
  | stop
  | step
  | unit
  | values
deriving DecidableEq

namespace Placeholder

def name : Placeholder → String
  | expected => "expected"
  | actual => "actual"
  | label => "label"
  | token => "token"
  | reason => "reason"
  | value => "value"
  | low => "min"
  | high => "max"
  | body => "body"
  | start => "start"
  | stop => "end"
  | step => "step"
  | unit => "unit"
  | values => "values"

/-- The placeholder as it stands in a template: its name in braces. -/
def text (p : Placeholder) : String :=
  "\x7b" ++ p.name ++ "\x7d"

end Placeholder

/-- A part of a template. -/
inductive Piece where
  | text (s : String)
  | hole (p : Placeholder)
deriving DecidableEq

abbrev Template := List Piece

/-- What is put for each placeholder. -/
abbrev Bindings := List (Placeholder × String)

/-- What is put for each placeholder, by name. -/
def Bindings.named (b : Bindings) : List (String × String) :=
  b.map fun w => (w.1.name, w.2)

namespace Piece

/-- A placeholder without a binding stays as it is written. -/
def fill (b : Bindings) : Piece → String
  | text s => s
  | hole p => (b.lookup p).getD p.text

/-- The placeholder of a piece that the bindings do not mention. -/
def missing? (b : Bindings) : Piece → Option Placeholder
  | text _ => none
  | hole p => if (b.lookup p).isSome then none else some p

end Piece

namespace Template

/-- The text of a template; what is put in is never looked at for placeholders again. -/
def fill (t : Template) (b : Bindings) : String :=
  t.foldr (fun piece rest => piece.fill b ++ rest) ""

/-- The first placeholder that the bindings do not mention. -/
def missing? (t : Template) (b : Bindings) : Option Placeholder :=
  t.findSome? (·.missing? b)

/-- Fills in a template from named values; with none at all it is returned as it is written. -/
def fillNamed (t : Template) (params : List (String × String)) : Except Placeholder String :=
  let bindings := t.filterMap fun
    | .text _ => none
    | .hole p => (params.lookup p.name).map fun s => (p, s)
  if params.isEmpty then .ok (t.fill [])
  else match t.missing? bindings with
    | some p => .error p
    | none => .ok (t.fill bindings)

@[simp] theorem fill_nil (b : Bindings) : fill [] b = "" := rfl

@[simp] theorem fill_cons (piece : Piece) (t : Template) (b : Bindings) :
    fill (piece :: t) b = piece.fill b ++ fill t b := rfl

end Template

end CronSchedule
