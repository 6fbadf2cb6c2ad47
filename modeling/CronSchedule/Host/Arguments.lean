/-!
Splitting the arguments of a command into options and plain words.
-/

namespace CronSchedule.Host

/-- An option: its long name, perhaps a letter, and whether a value belongs to it. -/
structure OptionSpec where
  name : String
  letter : Option Char
  takesValue : Bool
deriving DecidableEq

/-- Options with their values, in order, and the words that are left. -/
structure Arguments where
  options : List (String × String)
  words : List String
deriving DecidableEq

/-- What a single argument is. -/
inductive Argument where
  | word
  /-- The mark after which there are no more options. -/
  | mark
  /-- Options, the last of which may still want its value. -/
  | options (given : List (String × String)) (wanting : Option String)
  | wrong
deriving DecidableEq

/-- Reads the letters of joined options; what follows the letter of an option with a value is the
value. -/
def readLetters (specs : List OptionSpec) : List Char → Argument
  | [] => .options [] none
  | c :: rest =>
    match specs.find? (·.letter = some c) with
    | none => .wrong
    | some spec =>
      if spec.takesValue then
        if rest = [] then .options [] spec.name
        else .options [(spec.name, String.ofList rest)] none
      else
        match readLetters specs rest with
        | .options given wanting => .options ((spec.name, "") :: given) wanting
        | other => other

/-- Reads an option by its long name, perhaps with a value after an equals sign. -/
def readLong (spec : OptionSpec) (value : Option String) : Argument :=
  match spec.takesValue, value with
  | true, some v => .options [(spec.name, v)] none
  | true, none => .options [] spec.name
  | false, none => .options [(spec.name, "")] none
  | false, some _ => .wrong

def readArgument (specs : List OptionSpec) (arg : String) : Argument :=
  match arg.toList with
  | ['-', '-'] => .mark
  | '-' :: c :: rest =>
    let text := '-' :: c :: rest
    let name := String.ofList (text.takeWhile (· ≠ '='))
    let value := (text.dropWhile (· ≠ '=')).tail?.map String.ofList
    match specs.find? (·.name = name) with
    | some spec => readLong spec value
    | none => if c = '-' then .wrong else readLetters specs (c :: rest)
  | _ => .word

namespace Arguments

def withOptions (given : List (String × String)) (a : Arguments) : Arguments :=
  { a with options := given ++ a.options }

def withWord (word : String) (a : Arguments) : Arguments :=
  { a with words := word :: a.words }

/-- Reads all arguments; `mixed` tells whether options may stand after words. -/
def read? (specs : List OptionSpec) (mixed : Bool) : List String → Option Arguments
  | [] => some ⟨[], []⟩
  | arg :: args =>
    match readArgument specs arg with
    | .wrong => none
    | .mark => some ⟨[], args⟩
    | .word =>
      if mixed then (read? specs mixed args).map (withWord arg) else some ⟨[], arg :: args⟩
    | .options given none => (read? specs mixed args).map (withOptions given)
    | .options given (some name) =>
      match args with
      | [] => none
      | value :: args => (read? specs mixed args).map (withOptions (given ++ [(name, value)]))

def has (a : Arguments) (name : String) : Bool :=
  a.options.any (·.1 = name)

/-- The value of an option; the last one counts. -/
def value? (a : Arguments) (name : String) : Option String :=
  a.options.reverse.lookup name

end Arguments

end CronSchedule.Host
