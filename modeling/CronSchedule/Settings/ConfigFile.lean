import CronSchedule.Datum.Json
import CronSchedule.Text.LowerCase
import CronSchedule.Text.Pieces
import CronSchedule.Text.Quoted

/-!
Settings from files.
-/

namespace CronSchedule

/-- The readers of the formats that files are written in. -/
structure Readers where
  /-- Reads YAML. -/
  yaml : String → Except Datum.Unreadable Datum
  /-- How many brackets may be open at a time where JSON is read. -/
  jsonDepth : Nat
  /-- The character that stands for half of a pair of units where JSON is read. -/
  jsonHalf : Nat → Char

/-- What there is at a path. -/
inductive PathTarget where
  | nothing
  | directory
  /-- The path has a part that no file can be named by. -/
  | unnamable
  /-- What is there cannot be looked at, or is no text. -/
  | broken (e : Exception)
  | file (content : String)
deriving DecidableEq

/-- A file: the path it is named by, the last part of that path, and what there is. -/
structure ConfigFile where
  path : String
  name : String
  target : PathTarget
deriving DecidableEq

/-- Why a file gives no settings. -/
inductive FileError where
  | missing (path : String)
  | unsupported (suffix : String)
  | unreadable (path : String)
  | notMapping (path : String)
  | overlong (e : OverlongNumber)
  | tooDeep (b : Datum.Bracket)
  | isDirectory (path : String)
  | nameTooLong (path : String)
  | other (e : Exception)
deriving DecidableEq

namespace FileError

def message : FileError → String
  | missing path => "Configuration file not found: " ++ path
  | unsupported suffix => "Unsupported file format: " ++ suffix
  | unreadable path => "Failed to load config " ++ path
  | notMapping path => "Config file " ++ path ++ " must contain a mapping"
  | overlong e => e.message
  | tooDeep b =>
    "maximum recursion depth exceeded while decoding a JSON " ++ b.name ++
      " from a unicode string"
  | isDirectory path => "[Errno 21] Is a directory: " ++ Text.quoted path
  | nameTooLong path => "[Errno 36] File name too long: " ++ Text.quoted path
  | other e => e.text

/-- The error as one that no caller is told to expect, unless it is that a file gives no settings. -/
def exception? (e : FileError) : Option Exception :=
  match e with
  | missing _ | unsupported _ | unreadable _ | notMapping _ => none
  | overlong _ => some ⟨"ValueError", e.message⟩
  | tooDeep _ => some ⟨"RecursionError", e.message⟩
  | isDirectory _ => some ⟨"IsADirectoryError", e.message⟩
  | nameTooLong _ => some ⟨"OSError", e.message⟩
  | other e => some e

end FileError

namespace ConfigFile

/-- The parts of a path that lead somewhere. -/
def parts (path : String) : List (List Char) :=
  (Text.pieces '/' path.toList).filter fun part => part ≠ [] ∧ part ≠ ['.']

/-- The path without the parts that lead nowhere. -/
def plainPath (path : String) : String :=
  let inner := Text.joined '/' (parts path)
  let slashes := (path.toList.takeWhile (· = '/')).length
  let root := if slashes = 0 then [] else if slashes = 2 then ['/', '/'] else ['/']
  if root ++ inner = [] then "." else String.ofList (root ++ inner)

/-- The last part of a path. -/
def lastPart (path : String) : String :=
  String.ofList ((parts path).getLast?.getD [])

/-- The file at a path. -/
def ofPath (path : String) (target : PathTarget) : ConfigFile :=
  ⟨plainPath path, lastPart path, target⟩

/-- The last dot of a name and what follows it, unless the dot stands first or last. -/
def suffix (name : String) : String :=
  let cs := name.toList
  let tail := (cs.reverse.takeWhile (· ≠ '.')).reverse
  if tail = [] ∨ cs.length ≤ tail.length + 1 then "" else String.ofList ('.' :: tail)

/-- Reads the content in the format that the suffix asks for. -/
def read (r : Readers) (f : ConfigFile) (content : String) : Except FileError Datum :=
  let refused : Datum.Unreadable → FileError
    | .malformed => .unreadable f.path
    | .overlong e => .overlong e
    | .tooDeep b => .tooDeep b
    | .other e => .other e
  let suffix := Text.lower (suffix f.name)
  if suffix = ".yaml" ∨ suffix = ".yml" then
    ((fun d => if d.isBlank then .record [] else d) <$> r.yaml content).mapError refused
  else if suffix = ".json" then (Json.read r.jsonHalf r.jsonDepth content).mapError refused
  else .error (.unsupported suffix)

/-- The key under which a file may hold its settings. -/
def sectionKey : Key := .text "cronlens"

/-- The settings in a datum: a section of their own, or all of it. -/
def settingsOf (path : String) : Datum → Except FileError Members
  | .record ms =>
    match ms.lookup sectionKey with
    | some (.record inner) => .ok inner
    | _ => .ok ms
  | _ => .error (.notMapping path)

/-- The settings of a file; one that does not exist has none, unless it is required. -/
def members (r : Readers) (f : ConfigFile) (required : Bool) : Except FileError Members :=
  match f.target with
  | .nothing => if required then .error (.missing f.path) else .ok []
  | .directory => .error (.isDirectory f.path)
  | .unnamable => .error (.nameTooLong f.path)
  | .broken e => .error (.other e)
  | .file content => do settingsOf f.path (← f.read r content)

end ConfigFile

end CronSchedule
