import CronSchedule.Text.LowerCase

/-!
The languages that messages and descriptions are written in.
-/

namespace CronSchedule

inductive Locale where
  | en
  | zh
deriving DecidableEq

namespace Locale

def all : List Locale :=
  [en, zh]

def name : Locale → String
  | en => "en"
  | zh => "zh"

/-- The language part of a tag such as `zh-Hans` or `EN_us`, in lower case. -/
def language (tag : String) : String :=
  Text.lower (String.ofList (tag.toList.takeWhile fun c => c ≠ '-' && c ≠ '_'))

/-- The locale that a tag asks for, if there is one. -/
def ofTag? (tag : String) : Option Locale :=
  all.find? (·.name = language tag)

/-- The locale for a tag; English where the tag is missing or names no supported language. -/
def ofTag : Option String → Locale
  | none => en
  | some tag => (ofTag? tag).getD en

/-- The tag, if it names a language that is not supported. -/
def unsupported? : Option String → Option String
  | none => none
  | some tag => if tag = "" ∨ (ofTag? tag).isSome then none else some tag

@[simp] theorem ofTag_none : ofTag none = en := rfl

theorem ofTag?_name (l : Locale) : ofTag? l.name = some l := by
  cases l <;> decide +kernel

end Locale

end CronSchedule
