import CronSchedule.Text.Figures
import CronSchedule.Text.Units

/-!
Strings of JSON: the escapes they are written with, and reading them back.
-/

namespace CronSchedule.Json

/-- The escape of a 16-bit unit. -/
def unitEscape (n : Nat) : List Char :=
  '\\' :: 'u' :: Text.paddedHex 4 n

/-- The escape of a character: one for each of its units. -/
def codeEscape (c : Char) : List Char :=
  (Text.units c).flatMap unitEscape

/-- One character of a string; `ascii` asks for escapes of everything beyond ASCII. -/
def escaped (ascii : Bool) (c : Char) : List Char :=
  if c = '\x22' then ['\\', '\x22']
  else if c = '\\' then ['\\', '\\']
  else if c = '\n' then ['\\', 'n']
  else if c = '\r' then ['\\', 'r']
  else if c = '\t' then ['\\', 't']
  else if c = '\x0c' then ['\\', 'f']
  else if c = '\x08' then ['\\', 'b']
  else if c.toNat < 0x20 ∨ ascii ∧ 0x7F ≤ c.toNat then codeEscape c
  else [c]

/-- A string between double quotes. -/
def quotedString (ascii : Bool) (s : String) : List Char :=
  '\x22' :: s.toList.flatMap (escaped ascii) ++ ['\x22']

def hexValue? (c : Char) : Option Nat :=
  if c.isDigit then some (c.toNat - '0'.toNat)
  else if 'a' ≤ c ∧ c ≤ 'f' then some (c.toNat - 'a'.toNat + 10)
  else if 'A' ≤ c ∧ c ≤ 'F' then some (c.toNat - 'A'.toNat + 10)
  else none

/-- The unit of four hexadecimal figures. -/
def unit? (a b c d : Char) : Option Nat := do
  let a ← hexValue? a
  let b ← hexValue? b
  let c ← hexValue? c
  let d ← hexValue? d
  return ((a * 16 + b) * 16 + c) * 16 + d

/-- The character that two units stand for. -/
def pairChar (high low : Nat) : Char :=
  Char.ofNat (0x10000 + (high - 0xD800) * 0x400 + (low - 0xDC00))

section

-- one unit of a pair is no character; `half` tells what stands for it
variable (half : Nat → Char)

/-- The character that a code stands for. -/
def codeChar (n : Nat) : Char :=
  if Text.isHighUnit n || Text.isLowUnit n then half n else Char.ofNat n

/-- The characters of a list of codes, in which a pair of units makes one character. -/
def ofCodes : List Nat → List Char
  | [] => []
  | [n] => [codeChar half n]
  | high :: low :: rest =>
    if Text.isHighUnit high && Text.isLowUnit low then pairChar high low :: ofCodes rest
    else codeChar half high :: ofCodes (low :: rest)

end

/-- The character of an escape of one letter. -/
def simpleEscape? (c : Char) : Option Char :=
  if c = '\x22' ∨ c = '\\' ∨ c = '/' then some c
  else if c = 'n' then some '\n'
  else if c = 'r' then some '\r'
  else if c = 't' then some '\t'
  else if c = 'f' then some '\x0c'
  else if c = 'b' then some '\x08'
  else none

/-- Adds a code to what was read of a string. -/
def push (n : Nat) (r : Option (List Nat × List Char)) : Option (List Nat × List Char) :=
  r.map fun (codes, rest) => (n :: codes, rest)

/-- Reads the codes of a string after its opening quote, up to its closing quote. -/
def readCodes : List Char → Option (List Nat × List Char)
  | [] => none
  | '\x22' :: rest => some ([], rest)
  | '\\' :: 'u' :: a :: b :: c :: d :: rest =>
    match unit? a b c d with
    | none => none
    | some n => push n (readCodes rest)
  | '\\' :: c :: rest =>
    match simpleEscape? c with
    | none => none
    | some c => push c.toNat (readCodes rest)
  | c :: rest => if c.toNat < 0x20 then none else push c.toNat (readCodes rest)

/-- Reads a string after its opening quote. -/
def readString (half : Nat → Char) (s : List Char) : Option (String × List Char) :=
  (readCodes s).map fun (codes, rest) => (String.ofList (ofCodes half codes), rest)

end CronSchedule.Json
