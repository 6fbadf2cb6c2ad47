import CronSchedule.Association
import CronSchedule.Exception
import CronSchedule.Number.Binary64
import CronSchedule.Number.Numeral

/-!
Data as configuration files hold them.
-/

namespace CronSchedule

/-- What a member of a record is called: a text, unless the format of the file has other keys. -/
inductive Key where
  | text (s : String)
  | other (display : String)
deriving DecidableEq

instance : Coe String Key :=
  ⟨Key.text⟩

namespace Key

def text? : Key → Option String
  | text s => some s
  | other _ => none

/-- The key as it is shown between other characters. -/
def display : Key → String
  | text s => s
  | other s => s

end Key

/-- A value of a kind that only some formats have, such as a date. -/
structure OtherValue where
  kind : String
  display : String
  isBlank : Bool
deriving DecidableEq

inductive Datum where
  | null
  | bool (b : Bool)
  | int (n : Int)
  | float (x : Binary64)
  | text (s : String)
  | list (items : List Datum)
  | record (members : List (Key × Datum))
  | other (v : OtherValue)

/-- The members of a record, in the order in which their keys first appeared. -/
abbrev Members := List (Key × Datum)

namespace Datum

/-- What data can be nested in. -/
inductive Bracket where
  | list
  | record
deriving DecidableEq

/-- What a bracket makes, as messages name it. -/
def Bracket.name : Bracket → String
  | list => "array"
  | record => "object"

/-- Why a text could not be read as data. -/
inductive Unreadable where
  /-- The text is not of the format, as the reader says itself. -/
  | malformed
  | overlong (e : OverlongNumber)
  /-- The bracket opens more levels than are read. -/
  | tooDeep (b : Bracket)
  | other (e : Exception)
deriving DecidableEq

/-- The kind of a datum, as messages name it. -/
def kind : Datum → String
  | null => "NoneType"
  | bool _ => "bool"
  | int _ => "int"
  | float _ => "float"
  | text _ => "str"
  | list _ => "list"
  | record _ => "dict"
  | other v => v.kind

/-- Whether a file that holds the datum counts as empty. -/
def isBlank : Datum → Bool
  | null => true
  | bool b => !b
  | int n => n = 0
  | float x => x.isZero
  | text s => s.isEmpty
  | list items => items.isEmpty
  | record members => members.isEmpty
  | other v => v.isBlank

end Datum

end CronSchedule
