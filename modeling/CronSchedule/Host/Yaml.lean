import CronSchedule.Datum.Basic
import CronSchedule.Number.DecimalText
import CronSchedule.Text.Pieces

/-!
Data as flat YAML text: a member or an item a line, nested by indentation; lists and records between
brackets hold plain values only. This stands in for a library that reads all of YAML.
-/

namespace CronSchedule.Host.Yaml

open Datum (Unreadable)

/-! ## Values -/

/-- The texts that stand for something else than themselves. -/
def words : List (String × Datum) :=
  [("", .null), ("~", .null), ("null", .null), ("Null", .null), ("NULL", .null),
    ("true", .bool true), ("True", .bool true), ("TRUE", .bool true), ("yes", .bool true),
    ("Yes", .bool true), ("YES", .bool true), ("on", .bool true), ("On", .bool true),
    ("ON", .bool true), ("false", .bool false), ("False", .bool false), ("FALSE", .bool false),
    ("no", .bool false), ("No", .bool false), ("NO", .bool false), ("off", .bool false),
    ("Off", .bool false), ("OFF", .bool false), (".inf", .float (Binary64.infinity false)),
    (".Inf", .float (Binary64.infinity false)), (".INF", .float (Binary64.infinity false)),
    ("+.inf", .float (Binary64.infinity false)), ("+.Inf", .float (Binary64.infinity false)),
    ("+.INF", .float (Binary64.infinity false)), ("-.inf", .float (Binary64.infinity true)), ("-.Inf", .float (Binary64.infinity true)),
    ("-.INF", .float (Binary64.infinity true)), (".nan", .float Binary64.nan),
    (".NaN", .float Binary64.nan), (".NAN", .float Binary64.nan)]

def isFigure (c : Char) : Bool :=
  c.isDigit || c = '_'

/-- The number that figures stand for in a base of at most 16; underscores may stand between. -/
def basedValue? (base : Nat) (s : List Char) : Option Nat :=
  let value (c : Char) := "0123456789abcdef".toList.idxOf c.toLower
  let ds := s.filter (· ≠ '_')
  if ds ≠ [] ∧ ds.all (value · < base) then
    some (ds.foldl (fun n c => base * n + value c) 0)
  else none

/-- A number whose parts count sixtieths of the one before. -/
def sixtieths? (parts : List (List Char)) : Option Nat :=
  let isPart (s : List Char) := s.all Char.isDigit && s ≠ [] && DecimalText.natValue s < 60 &&
    s.length ≤ 2
  match parts with
  | first :: rest =>
    if rest.all isPart then
      some (rest.foldl (fun n s => 60 * n + DecimalText.natValue s) (DecimalText.natValue first))
    else none
  | [] => none

/-- An integer: decimal, perhaps in sixtieths, or in the base that a leading zero announces. -/
def readInt? (s : List Char) : Option (Except Unreadable Datum) :=
  let (negative, figures) := DecimalText.splitSign s
  let signed (n : Nat) : Except Unreadable Datum := .ok (.int (if negative then -(n : Int) else n))
  match figures with
  | ['0'] => some (signed 0)
  | '0' :: 'x' :: rest => (basedValue? 16 rest).map signed
  | '0' :: 'b' :: rest => (basedValue? 2 rest).map signed
  | '0' :: rest => (basedValue? 8 ('0' :: rest)).map signed
  | c :: rest =>
    let whole := (c :: rest.takeWhile isFigure).filter (· ≠ '_')
    if !c.isDigit then none
    else if maxDigits < whole.length then
      if rest.all isFigure then some (.error (.overlong ⟨whole.length⟩)) else none
    else match rest.dropWhile isFigure with
      | [] => some (signed (DecimalText.natValue whole))
      | ':' :: parts => (sixtieths? (whole :: Text.pieces ':' parts)).map signed
      | _ => none
  | [] => none

/-- The exponent after the figures of a number, which has a sign of its own. -/
def isExponent : List Char → Bool
  | [] => true
  | e :: sign :: ds =>
    (e = 'e' || e = 'E') && (sign = '+' || sign = '-') && ds ≠ [] && ds.all Char.isDigit
  | _ => false

/-- A number with a point; one that starts with the point has no sign. -/
def readFloat? (s : List Char) : Option Datum :=
  let (negative, rest) := DecimalText.splitSign s
  let whole := rest.takeWhile isFigure
  match rest.dropWhile isFigure with
  | '.' :: rest =>
    let fraction := rest.takeWhile isFigure
    let tail := rest.dropWhile isFigure
    let starts := whole.head?.any Char.isDigit ||
      s.head? = some '.' && fraction.head?.any Char.isDigit
    if starts && isExponent tail then
      (DecimalText.readUnsigned? negative ((whole ++ '.' :: fraction).filter (· ≠ '_') ++ tail)).map
        Datum.float
    else none
  | _ => none

/-- The characters that a value without quotes cannot start with. -/
def indicators : List Char :=
  ['@', '\x60', '%', '*', '&', '!', '|', '>', ',']

/-- A value without quotes. -/
def readPlain (s : List Char) : Except Unreadable Datum :=
  if s.head?.any indicators.contains || s.take 2 = ['-', ' '] then .error .malformed
  else if s = ['='] ∨ s = ['<', '<'] then .error .malformed
  else
    match words.lookup (String.ofList s) with
    | some d => .ok d
    | none =>
      match readInt? s with
      | some r => r
      | none => .ok ((readFloat? s).getD (.text (String.ofList s)))

/-- The text up to a closing quote, which is written twice inside, and what follows it. -/
def splitSingle : List Char → Option (List Char × List Char)
  | [] => none
  | '\x27' :: '\x27' :: rest => (splitSingle rest).map fun (t, r) => ('\x27' :: t, r)
  | '\x27' :: rest => some ([], rest)
  | c :: rest => (splitSingle rest).map fun (t, r) => (c :: t, r)

/-- The text up to a closing double quote, with simple escapes, and what follows it. -/
def splitDouble : List Char → Option (List Char × List Char)
  | [] => none
  | '\x22' :: rest => some ([], rest)
  | '\\' :: c :: rest =>
    let escaped := if c = 'n' then '\n' else if c = 't' then '\t' else if c = 'r' then '\r' else c
    (splitDouble rest).map fun (t, r) => (escaped :: t, r)
  | c :: rest => (splitDouble rest).map fun (t, r) => (c :: t, r)

/-- The text between the quotes at the start, if there are any, and what follows them. -/
def splitQuoted : List Char → Option (List Char × List Char)
  | '\x27' :: rest => splitSingle rest
  | '\x22' :: rest => splitDouble rest
  | _ => none

def isQuote (c : Char) : Bool :=
  c = '\x27' || c = '\x22'

/-- The key and the value at a colon that ends the line or has a blank after it. -/
def splitColon : List Char → Option (List Char × List Char)
  | [] => none
  | [c] => if c = ':' then some ([], []) else none
  | c :: d :: rest =>
    if c = ':' && d = ' ' then some ([], Text.trim rest)
    else (splitColon (d :: rest)).map fun (k, v) => (c :: k, v)

/-- The key and the value of a member, if the text is one. -/
def splitMember (s : List Char) : Option (List Char × List Char) :=
  if s.head?.any isQuote then do
    let (key, rest) ← splitQuoted s
    match rest with
    | ':' :: value => if value.head?.all (· = ' ') then some (key, Text.trim value) else none
    | _ => none
  else (splitColon s).map fun (key, value) => (Text.trim key, value)

/-- A value with or without quotes. -/
def readScalar (s : List Char) : Except Unreadable Datum :=
  if s.head?.any isQuote then
    match splitQuoted s with
    | some (t, []) => .ok (.text (String.ofList t))
    | _ => .error .malformed
  else if (splitColon s).isSome ||
      s.any fun c => c = '[' || c = ']' || c = '\x7b' || c = '\x7d' then
    .error .malformed
  else readPlain s

/-- The text between an opening bracket, already taken off, and the closing one at the end. -/
def upToLast (close : Char) (s : List Char) : Option (List Char) :=
  if s.getLast? = some close then some (Text.trim s.dropLast) else none

/-- The entries between two brackets. -/
def entries (s : List Char) : List (List Char) :=
  if s = [] then [] else (Text.pieces ',' s).map Text.trim

/-- The value of a member or an item. -/
def readValue : List Char → Except Unreadable Datum
  | '[' :: rest =>
    match upToLast ']' rest with
    | some s => .list <$> (entries s).mapM readScalar
    | none => .error .malformed
  | '\x7b' :: rest =>
    match upToLast '\x7d' rest with
    | some s => do
      let members ← (entries s).mapM fun entry =>
        match splitMember entry with
        | some (key, value) => (Key.text (String.ofList key), ·) <$> readScalar value
        | none => .error .malformed
      return .record (Association.ofList members)
    | none => .error .malformed
  | s => readScalar s

/-! ## Lines -/

/-- A line with something on it, and how far it is indented. -/
structure Line where
  indent : Nat
  text : List Char

/-- The line up to a comment, which starts with a hash after a blank. Inside quotes there is
none. -/
def dropComment (quote : Option Char) (afterBlank : Bool) : List Char → List Char
  | [] => []
  | c :: rest =>
    match quote with
    | some q => c :: dropComment (if c = q then none else some q) false rest
    | none =>
      if c = '#' && afterBlank then []
      else
        let quote := if isQuote c && afterBlank then some c else none
        c :: dropComment quote (c = ' ' || c = '\t') rest

/-- The lines of a text that have something on them. -/
def lines (s : List Char) : List Line :=
  (Text.pieces '\n' s).filterMap fun line =>
    let kept := dropComment none true (line.filter (· ≠ '\r'))
    let text := Text.trim kept
    if text = [] then none else some ⟨(kept.takeWhile (· = ' ')).length, text⟩

/-- What an item of a list holds, if the line is one. -/
def Line.item? (l : Line) : Option (List Char) :=
  match l.text with
  | ['-'] => some []
  | '-' :: ' ' :: rest => some (Text.trim rest)
  | _ => none

/-- Reads the items at one indentation. -/
def readItems (indent : Nat) : List Line → Except Unreadable (List Datum × List Line)
  | [] => .ok ([], [])
  | l :: rest =>
    if l.indent < indent then .ok ([], l :: rest)
    else if indent < l.indent then .error .malformed
    else
      match l.item? with
      | none => .ok ([], l :: rest)
      | some value => do
        let d ← readValue value
        let (items, rest) ← readItems indent rest
        return (d :: items, rest)

mutual

/-- Reads the block that starts at the first line; the number bounds how many blocks follow. -/
def readBlock : Nat → List Line → Except Unreadable (Datum × List Line)
  | 0, _ => .error .malformed
  | _, [] => .ok (.null, [])
  | fuel + 1, l :: rest =>
    if l.item?.isSome then do
      let (items, rest) ← readItems l.indent (l :: rest)
      return (.list items, rest)
    else do
      let (members, rest) ← readMembers fuel l.indent (l :: rest)
      return (.record (Association.ofList members), rest)

/-- Reads the members at one indentation. -/
def readMembers : Nat → Nat → List Line → Except Unreadable (Members × List Line)
  | 0, _, _ => .error .malformed
  | _, _, [] => .ok ([], [])
  | fuel + 1, indent, l :: rest =>
    if l.indent < indent then .ok ([], l :: rest)
    else if indent < l.indent then .error .malformed
    else
      match splitMember l.text with
      | none => .error .malformed
      | some (key, value) => do
        let nested := rest.head?.any fun m =>
          indent < m.indent || m.indent = indent && m.item?.isSome
        let (d, rest) ←
          if value ≠ [] then (·, rest) <$> readValue value
          else if nested then readBlock fuel rest
          else pure (.null, rest)
        let (members, rest) ← readMembers fuel indent rest
        return ((Key.text (String.ofList key), d) :: members, rest)

end

/-- Whether a character may stand in a text. -/
def isAllowed (c : Char) : Bool :=
  c = '\t' || c = '\n' || c = '\r' || c = '\x85' || 0x20 ≤ c.toNat && c.toNat ≤ 0x7E ||
    0xA0 ≤ c.toNat && c.toNat ≠ 0xFFFE && c.toNat ≠ 0xFFFF

/-- Whether some line is indented with a tab. -/
def hasTabIndent (s : List Char) : Bool :=
  (Text.pieces '\n' s).any fun line => (line.dropWhile (· = ' ')).head? = some '\t'

/-- Reads a text that holds one value, perhaps over several lines. -/
def read (s : String) : Except Unreadable Datum :=
  if !s.toList.all isAllowed || hasTabIndent s.toList then .error .malformed
  else match lines s.toList with
  | [] => .ok .null
  | l :: rest =>
    if l.item?.isSome || (splitMember l.text).isSome then
      match readBlock (2 * rest.length + 4) (l :: rest) with
      | .ok (d, []) => .ok d
      | .ok _ => .error .malformed
      | .error e => .error e
    else if rest.any fun m => (splitMember m.text).isSome then .error .malformed
    else readValue (List.intercalate [' '] ((l :: rest).map (·.text)))

end CronSchedule.Host.Yaml
