import CronSchedule.Datum.Basic
import CronSchedule.Datum.JsonString
import CronSchedule.Number.DecimalText
import CronSchedule.Number.Shortest

/-!
Data as JSON text: two layouts to write, and a reader that also takes the words for what is no
number. Keys and values that JSON has not are written as the text that they are shown as.
-/

namespace CronSchedule

namespace Datum

/-- A number, or one of the words for what is no number. -/
def floatText (x : Binary64) : List Char :=
  match x.form with
  | .nan => "NaN".toList
  | .infinite negative => (if negative then "-Infinity" else "Infinity").toList
  | .finite .. => x.text.toList

mutual

/-- The datum on one line, in ASCII. -/
def lineText : Datum → List Char
  | null => "null".toList
  | bool b => (if b then "true" else "false").toList
  | int n => Text.signedFigures n
  | float x => floatText x
  | text s => Json.quotedString true s
  | list items => '[' :: lineItems items ++ [']']
  | record members => '\x7b' :: lineMembers members ++ ['\x7d']
  | other v => Json.quotedString true v.display

def lineItems : List Datum → List Char
  | [] => []
  | [d] => lineText d
  | d :: rest => lineText d ++ ',' :: ' ' :: lineItems rest

def lineMembers : List (Key × Datum) → List Char
  | [] => []
  | [(key, d)] => Json.quotedString true key.display ++ ':' :: ' ' :: lineText d
  | (key, d) :: rest =>
    Json.quotedString true key.display ++ ':' :: ' ' :: lineText d ++ ',' :: ' ' :: lineMembers rest

end

/-- A new line with the indentation of the given depth. -/
def newLine (depth : Nat) : List Char :=
  '\n' :: List.replicate (2 * depth) ' '

mutual

/-- The datum with one item or member a line, in any characters. -/
def pageText (depth : Nat) : Datum → List Char
  | null => "null".toList
  | bool b => (if b then "true" else "false").toList
  | int n => Text.signedFigures n
  | float x => floatText x
  | text s => Json.quotedString false s
  | list [] => ['[', ']']
  | list items => '[' :: pageItems (depth + 1) items ++ newLine depth ++ [']']
  | record [] => ['\x7b', '\x7d']
  | record members => '\x7b' :: pageMembers (depth + 1) members ++ newLine depth ++ ['\x7d']
  | other v => Json.quotedString false v.display

def pageItems (depth : Nat) : List Datum → List Char
  | [] => []
  | [d] => newLine depth ++ pageText depth d
  | d :: rest => newLine depth ++ pageText depth d ++ ',' :: pageItems depth rest

def pageMembers (depth : Nat) : List (Key × Datum) → List Char
  | [] => []
  | [(key, d)] => newLine depth ++ Json.quotedString false key.display ++ ':' :: ' ' :: pageText depth d
  | (key, d) :: rest =>
    newLine depth ++ Json.quotedString false key.display ++ ':' :: ' ' :: pageText depth d ++
      ',' :: pageMembers depth rest

end

/-- The datum on one line. -/
def line (d : Datum) : String :=
  String.ofList d.lineText

/-- The datum as an indented page. -/
def page (d : Datum) : String :=
  String.ofList (d.pageText 0)

end Datum

namespace Json

def skipSpace (s : List Char) : List Char :=
  s.dropWhile fun c => c = ' ' || c = '\t' || c = '\n' || c = '\r'

/-- What follows `word` at the start of the text. -/
def afterWord? : List Char → List Char → Option (List Char)
  | [], s => some s
  | _ :: _, [] => none
  | w :: word, c :: s => if w = c then afterWord? word s else none

/-- The digits at the start, and the rest. -/
def splitDigits (s : List Char) : List Char × List Char :=
  (s.takeWhile Char.isDigit, s.dropWhile Char.isDigit)

/-- The whole figures of a number: a zero stands alone. -/
def splitWhole : List Char → List Char × List Char
  | '0' :: rest => (['0'], rest)
  | rest => splitDigits rest

/-- The figures after a point, if there are any. -/
def splitFraction : List Char → Option (List Char × List Char)
  | '.' :: rest =>
    match splitDigits rest with
    | ([], _) => none
    | split => some split
  | _ => none

/-- The exponent at the start, if there is one. -/
def splitExponent : List Char → Option (Int × List Char)
  | c :: rest =>
    if c = 'e' ∨ c = 'E' then
      let (negative, rest) := DecimalText.splitSign rest
      match splitDigits rest with
      | ([], _) => none
      | (ds, rest) =>
        let n : Int := DecimalText.natValue ds
        some (if negative then -n else n, rest)
    else none
  | [] => none

/-- Reads a number: an integer, unless it has figures after a point or an exponent. -/
def readNumber (negative : Bool) (s : List Char) : Except Datum.Unreadable (Datum × List Char) :=
  match splitWhole s with
  | ([], _) => .error .malformed
  | (whole, rest) =>
    let fraction := splitFraction rest
    let rest := (fraction.map (·.2)).getD rest
    let exponent := splitExponent rest
    let rest := (exponent.map (·.2)).getD rest
    if fraction.isNone ∧ exponent.isNone then
      if whole.length ≤ maxDigits then
        let n : Int := DecimalText.natValue whole
        .ok (.int (if negative then -n else n), rest)
      else .error (.overlong ⟨whole.length⟩)
    else
      let figures := (fraction.map (·.1)).getD []
      let e := (exponent.map (·.1)).getD 0
      .ok (.float (DecimalText.scaled negative (whole ++ figures) (e - figures.length)), rest)

/-- Reads a word, or a number. -/
def readAtom (s : List Char) : Except Datum.Unreadable (Datum × List Char) :=
  let words : List (String × Datum) :=
    [("null", .null), ("true", .bool true), ("false", .bool false), ("NaN", .float Binary64.nan),
      ("Infinity", .float (Binary64.infinity false)),
      ("-Infinity", .float (Binary64.infinity true))]
  match words.findSome? fun (w, d) => (afterWord? w.toList s).map fun rest => (d, rest) with
  | some r => .ok r
  | none =>
    match s with
    | '-' :: rest => readNumber true rest
    | _ => readNumber false s

section

-- what stands for one unit of a pair, which is no character
variable (half : Nat → Char)

mutual

/-- Reads a value. At most `depth` brackets are open at a time; the second argument bounds how much
text there is. -/
def readValue (depth : Nat) : Nat → List Char → Except Datum.Unreadable (Datum × List Char)
  | 0, _ => .error .malformed
  | fuel + 1, s =>
    match s with
    | '\x22' :: rest =>
      match readString half rest with
      | none => .error .malformed
      | some (t, rest) => .ok (.text t, rest)
    | '[' :: rest =>
      match depth with
      | 0 => .error (.tooDeep .list)
      | depth + 1 =>
        match skipSpace rest with
        | ']' :: rest => .ok (.list [], rest)
        | rest => do
          let (items, rest) ← readItems depth fuel rest
          return (.list items, rest)
    | '\x7b' :: rest =>
      match depth with
      | 0 => .error (.tooDeep .record)
      | depth + 1 =>
        match skipSpace rest with
        | '\x7d' :: rest => .ok (.record [], rest)
        | rest => do
          let (members, rest) ← readMembers depth fuel rest
          return (.record (Association.ofList members), rest)
    | _ => readAtom s

/-- Reads the items of a list up to its closing bracket. -/
def readItems (depth : Nat) : Nat → List Char → Except Datum.Unreadable (List Datum × List Char)
  | 0, _ => .error .malformed
  | fuel + 1, s => do
    let (d, rest) ← readValue depth fuel s
    match skipSpace rest with
    | ']' :: rest => return ([d], rest)
    | ',' :: rest =>
      let (items, rest) ← readItems depth fuel (skipSpace rest)
      return (d :: items, rest)
    | _ => .error .malformed

/-- Reads the members of a record up to its closing brace. -/
def readMembers (depth : Nat) :
    Nat → List Char → Except Datum.Unreadable (Members × List Char)
  | 0, _ => .error .malformed
  | fuel + 1, s =>
    match s with
    | '\x22' :: rest =>
      match readString half rest with
      | none => .error .malformed
      | some (key, rest) =>
        match skipSpace rest with
        | ':' :: rest => do
          let (d, rest) ← readValue depth fuel (skipSpace rest)
          match skipSpace rest with
          | '\x7d' :: rest => return ([(key, d)], rest)
          | ',' :: rest =>
            let (members, rest) ← readMembers depth fuel (skipSpace rest)
            return ((key, d) :: members, rest)
          | _ => .error .malformed
        | _ => .error .malformed
    | _ => .error .malformed

end

/-- Reads a text that holds one value, in which at most `depth` brackets are open at a time. -/
def read (depth : Nat) (s : String) : Except Datum.Unreadable Datum := do
  let cs := s.toList
  let (d, rest) ← readValue half depth (cs.length + 1) (skipSpace cs)
  if skipSpace rest = [] then .ok d else .error .malformed

end

end Json

end CronSchedule
