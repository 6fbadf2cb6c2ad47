import CronSchedule.Text.Blank
import CronSchedule.Text.LowerCase
import CronSchedule.Host.PictureNames
import CronSchedule.Host.Substitution

/-!
Names between colons that stand for pictures. What stands between two colons without a blank is a
name, and where it is none that is known it stays as it is.
-/

namespace CronSchedule.Host

open Text

/-- The beginning of a text, if it ends like `tail`. -/
def withoutTail? (tail s : List Char) : Option (List Char) :=
  if tail.isSuffixOf s then some (s.take (s.length - tail.length)) else none

/-- A name and the mark for the form that it asks for. -/
def pictureForm (name : List Char) : List Char × List Char :=
  match withoutTail? "-emoji".toList name, withoutTail? "-text".toList name with
  | some name, _ => (name, ['\uFE0F'])
  | none, some name => (name, ['\uFE0E'])
  | none, none => (name, [])

/-- The picture of a name. -/
def picture? (name : List Char) : Option (List Char) :=
  let (name, mark) := pictureForm name
  (pictures.lookup (lower (String.ofList name))).map fun s => s.toList ++ mark

/-- The name at the start of a text with its colons, and what takes its place. -/
def namedPicture? : List Char → Option (Nat × List Char)
  | ':' :: rest =>
    let inner (c : Char) : Bool := c ≠ ':' && !isBlank c
    let name := rest.takeWhile inner
    match rest.dropWhile inner with
    | ':' :: _ => some (name.length + 2, (picture? name).getD (':' :: name ++ [':']))
    | _ => none
  | _ => none

/-- The text with pictures in place of their names. -/
def withPictures (s : List Char) : List Char :=
  substitute namedPicture? s

end CronSchedule.Host
