import CronSchedule.Calendar.Zone

/-!
Clocks that tell the present time.
-/

namespace CronSchedule

/-- The present moment by universal time, and by the local time of the machine. -/
structure Clock where
  universal : Moment
  here : Moment
deriving DecidableEq

/-- The present time in a zone, or without one as the machine shows it; `none` if it is off the time
line of the zone. -/
def Clock.now? (c : Clock) : Option ZoneRules → Option Stamp
  | none => some ⟨c.here, none⟩
  | some rules => Stamp.inZone? ⟨c.universal, some (Zone.ofOffset 0)⟩ rules

/-- A stamp as it is shown to a reader, with 12 or 24 hours a day. -/
def Stamp.display (s : Stamp) (hours : Int) : String :=
  let c := s.clock.civil
  let two (n : Nat) := String.ofList (Text.padded 2 n)
  let day := Text.ofNat c.date.year ++ "-" ++ two c.date.month ++ "-" ++ two c.date.day
  let clock (hour : Nat) := two hour ++ ":" ++ two c.minute ++ ":" ++ two c.second
  let time :=
    if hours = 12 then
      clock ((c.hour + 11) % 12 + 1) ++ (if c.hour < 12 then " AM" else " PM")
    else clock c.hour
  day ++ " " ++ time ++ ((s.zone.map fun z => " " ++ z.name).getD "")

end CronSchedule
