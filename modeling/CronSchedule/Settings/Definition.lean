import CronSchedule.Datum.Basic
import CronSchedule.Locale
import CronSchedule.Settings.Basic

/-!
Settings as they are defined by data, and what can be wrong with that data.
-/

namespace CronSchedule

/-- What can be wrong with a setting. -/
inductive SettingFault where
  | wrongKind (s : Setting) (found : String)
  | belowOne (s : Setting)
  | negative (s : Setting)
  | unknownHourFormat
  | unknownLocale
deriving DecidableEq

/-- The kind of data that a setting is expected to be. -/
def Setting.kind : Setting → String
  | includeSeconds => "bool"
  | maxIterations => "int"
  | fastFailHours => "int"
  | defaultCount => "int"
  | locale => "str"
  | timezone => "str"
  | hourFormat => "int"

/-- Whether a datum is of a kind that the setting can be. -/
def Setting.accepts : Setting → Datum → Bool
  | includeSeconds, .bool _ => true
  | maxIterations, .int _ => true
  | fastFailHours, .int _ => true
  | fastFailHours, .float _ => true
  | fastFailHours, .null => true
  | defaultCount, .int _ => true
  | locale, .text _ => true
  | timezone, .text _ => true
  | timezone, .null => true
  | hourFormat, .int _ => true
  | _, _ => false

namespace SettingFault

def setting : SettingFault → Setting
  | wrongKind s _ => s
  | belowOne s => s
  | negative s => s
  | unknownHourFormat => .hourFormat
  | unknownLocale => .locale

/-- The fault in words. -/
def message (f : SettingFault) : String :=
  f.setting.name ++ ": " ++
    match f with
    | wrongKind s found => "expected " ++ s.kind ++ ", got " ++ found
    | belowOne _ => "must be at least 1"
    | negative _ => "must not be negative"
    | unknownHourFormat => "must be 12 or 24"
    | unknownLocale => "must be one of " ++ ", ".intercalate (Locale.all.map (·.name))

end SettingFault

/-- The data that settings are defined by, in the order in which they first came up. -/
abbrev Definitions := List (Setting × Datum)

namespace Definitions

/-- The defined integer, or the default. -/
def int (ds : Definitions) (s : Setting) (standard : Int) : Int :=
  match ds.lookup s with
  | some (.int n) => n
  | _ => standard

/-- The defined text, or the default. -/
def text (ds : Definitions) (s : Setting) (standard : String) : String :=
  match ds.lookup s with
  | some (.text t) => t
  | _ => standard

/-- The settings that are not of the right kind. -/
def kindFaults (ds : Definitions) : List SettingFault :=
  ds.filterMap fun (s, d) => if s.accepts d then none else some (.wrongKind s d.kind)

/-- Whether the hours of a window lie below zero. -/
def hasNegativeHours (ds : Definitions) : Bool :=
  match ds.lookup .fastFailHours with
  | some (.int n) => n < 0
  | some (.float x) => x.isBelowZero
  | _ => false

/-- The settings of the right kind that are out of their range. -/
def rangeFaults (ds : Definitions) : List SettingFault :=
  let checks : List (Bool × SettingFault) :=
    [(decide (ds.int .maxIterations 1 < 1), .belowOne .maxIterations),
      (decide (ds.int .defaultCount 1 < 1), .belowOne .defaultCount),
      (ds.hasNegativeHours, .negative .fastFailHours),
      (decide (ds.int .hourFormat 24 ≠ 12 ∧ ds.int .hourFormat 24 ≠ 24), .unknownHourFormat),
      ((Locale.ofTag? (ds.text .locale "en")).isNone, .unknownLocale)]
  checks.filterMap fun (fails, fault) => if fails then some fault else none

/-- Everything that is wrong with the definitions; ranges are looked at once all kinds are right. -/
def faults (ds : Definitions) : List SettingFault :=
  if ds.kindFaults = [] then ds.rangeFaults else ds.kindFaults

/-- The settings that the definitions make, with defaults for what is not defined. -/
def settings (ds : Definitions) : Settings where
  includeSeconds :=
    match ds.lookup .includeSeconds with
    | some (.bool b) => b
    | _ => Settings.standard.includeSeconds
  maxIterations := ds.int .maxIterations Settings.standard.maxIterations
  fastFailHours :=
    match ds.lookup .fastFailHours with
    | none => Settings.standard.fastFailHours
    | some (.float x) => some x
    | some _ => none
  defaultCount := ds.int .defaultCount Settings.standard.defaultCount
  locale := ds.text .locale Settings.standard.locale
  timezone :=
    match ds.lookup .timezone with
    | some (.text t) => some t
    | _ => none
  hourFormat := ds.int .hourFormat Settings.standard.hourFormat

/-- Hours that are given as an integer as a floating-point number, if one is near. -/
def withFloatHours? (ds : Definitions) : Option Definitions :=
  match ds.lookup .fastFailHours with
  | some (.int n) => (Binary64.ofInt? n).map fun x => Association.set .fastFailHours (.float x) ds
  | _ => some ds

end Definitions

/-- The key as messages name it. -/
def Key.quoted : Key → String
  | .text s => Text.quoted s
  | .other display => display

/-- The setting of a key, if it is one. -/
def Setting.ofKey? (key : Key) : Option Setting :=
  key.text?.bind ofName?

/-- Checks a record of settings; a key that is none is returned instead. -/
def checkSettings (ms : Members) : Except Key (List SettingFault) :=
  Definitions.faults <$> ms.mapM fun (key, d) =>
    match Setting.ofKey? key with
    | some s => .ok (s, d)
    | none => .error key

end CronSchedule
