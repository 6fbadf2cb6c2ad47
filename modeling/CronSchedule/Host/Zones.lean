import CronSchedule.Calendar.Zone

/-!
Zones that never change their offset, by the keys that they have. They stand in for a database of all zones.
-/

namespace CronSchedule.Host

/-- The zone some hours ahead of universal time. -/
def hoursAhead (hours : Int) (name : String) : Zone :=
  ⟨hours * 3600 * microsecondsPerSecond, name⟩

/-- The keys of universal time. -/
def universalKeys : List String :=
  ["UTC", "UCT", "Universal", "Zulu", "Etc/UTC", "Etc/UCT", "Etc/Universal", "Etc/Zulu"]

/-- The keys of the time at Greenwich. -/
def greenwichKeys : List String :=
  ["GMT", "GMT0", "GMT+0", "GMT-0", "Greenwich", "Etc/GMT", "Etc/GMT0", "Etc/GMT+0", "Etc/GMT-0",
    "Etc/Greenwich"]

/-- The zones that are named by whole hours. The sign in a key is reversed. -/
def hourZones : List (String × Zone) :=
  let two (n : Nat) := String.ofList (Text.padded 2 n)
  let behind := (List.range' 1 12).map fun n =>
    ("Etc/GMT+" ++ Text.ofNat n, hoursAhead (-n) ("-" ++ two n))
  let ahead := (List.range' 1 14).map fun n =>
    ("Etc/GMT-" ++ Text.ofNat n, hoursAhead n ("+" ++ two n))
  behind ++ ahead

def knownZones : List (String × Zone) :=
  universalKeys.map (·, hoursAhead 0 "UTC") ++ greenwichKeys.map (·, hoursAhead 0 "GMT") ++
    hourZones ++ [("EST", hoursAhead (-5) "EST"), ("MST", hoursAhead (-7) "MST"),
      ("HST", hoursAhead (-10) "HST")]

def zones (key : String) : Except ZoneFailure ZoneRules :=
  match knownZones.lookup key with
  | some zone => .ok (.fixed zone)
  | none => .error .unknown

end CronSchedule.Host
