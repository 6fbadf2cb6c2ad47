import CronSchedule.Proofs.Calendar.IsoText

/-!
Instants, and what the clocks of zones show at them. Main statements: the clock of a zone is set by the instant
alone, whichever clock told it (`Zone.resolves_inZone?`), and each instant has its text in every zone
(`Stamp.denotes_isoText`).
-/

namespace CronSchedule

/-- The instant of a clock with a zone, in microseconds of universal time since the start of year 1. It lies
before that start if it is early in the year on a clock that is ahead. -/
def Stamp.instant? (s : Stamp) : Option Int :=
  s.zone.map fun z => s.clock.ticks - z.offset

theorem Stamp.inZone?_of_zone {s : Stamp} {own : Zone} (rules : ZoneRules) (h : s.zone = some own) :
    s.inZone? rules = (s.clock.shift? (-own.offset)).bind fun universal =>
      (universal.shift? (rules.atInstant universal).offset).map fun clock =>
        ⟨clock, rules.atInstant universal⟩ := by
  simp only [inZone?, h, Option.map_eq_bind]
  rfl

/-- Whatever its rules are, the clock of a zone is set by the instant alone. -/
theorem Stamp.inZone?_congr {s s' : Stamp} {i : Int} (h : s.instant? = some i) (h' : s'.instant? = some i)
    (rules : ZoneRules) : s.inZone? rules = s'.inZone? rules := by
  obtain ⟨own, hown, hi⟩ := Option.map_eq_some_iff.mp h
  obtain ⟨own', hown', hi'⟩ := Option.map_eq_some_iff.mp h'
  have huniversal : s.clock.shift? (-own.offset) = s'.clock.shift? (-own'.offset) := by
    have hsum : (s.clock.ticks : Int) + -own.offset = s'.clock.ticks + -own'.offset := hi.trans hi'.symm
    simp only [Moment.shift?, hsum]
  rw [inZone?_of_zone rules hown, inZone?_of_zone rules hown', huniversal]

/-- The text is a date and time with an offset, which stand for the instant. -/
def Denotes (text : String) (i : Int) : Prop :=
  ∃ s, Stamp.ofIso? text = some s ∧ s.instant? = some i

namespace Zone

/-- A clock of the zone shows a date and time at an instant. -/
structure Shows (z : Zone) (i : Int) (c : Civil) : Prop where
  isValid : c.isValid = true
  ticks_eq : (c.ticks : Int) = i + z.offset

/-- What becomes of an instant on the clock of a zone. Both the instant and what the clock shows have to lie on
the time line. -/
inductive Resolves (z : Zone) (i : Int) : Option Stamp → Prop where
  | shown {m : Moment} (hi : OnTimeLine i) (h : z.Shows i m.civil) : Resolves z i (some ⟨m, z⟩)
  | offLine (h : ¬ (OnTimeLine i ∧ OnTimeLine (i + z.offset))) : Resolves z i none

variable {z : Zone} {i : Int}

theorem Shows.unique {c c' : Civil} (h : z.Shows i c) (h' : z.Shows i c') : c = c' := by
  have hticks : c.ticks = c'.ticks := by
    have := h.ticks_eq.trans h'.ticks_eq.symm
    omega
  rw [← Civil.ofTicks_ticks h.isValid, hticks, Civil.ofTicks_ticks h'.isValid]

theorem shows_civil_iff {m : Moment} : z.Shows i m.civil ↔ (m.ticks : Int) = i + z.offset := by
  constructor
  · intro h
    rw [← m.ticks_civil]
    exact h.ticks_eq
  · intro h
    rw [← m.ticks_civil] at h
    exact ⟨m.isValid_civil, h⟩

theorem Shows.onTimeLine {m : Moment} (h : z.Shows i m.civil) : OnTimeLine (i + z.offset) :=
  shows_civil_iff.mp h ▸ m.onTimeLine

theorem Resolves.unique {r r' : Option Stamp} (h : z.Resolves i r) (h' : z.Resolves i r') : r = r' := by
  cases h with
  | shown hi h =>
    cases h' with
    | shown _ h' =>
      have hticks := (shows_civil_iff.mp h).trans (shows_civil_iff.mp h').symm
      rw [Moment.ext_ticks (Int.ofNat_inj.mp hticks)]
    | offLine hoff => exact absurd ⟨hi, h.onTimeLine⟩ hoff
  | offLine hoff =>
    cases h' with
    | shown hi h' => exact absurd ⟨hi, h'.onTimeLine⟩ hoff
    | offLine _ => rfl

/-- A clock with a zone is set to another zone over the instant that it tells. -/
theorem resolves_inZone? {s : Stamp} (h : s.instant? = some i) : z.Resolves i (s.inZone? (.fixed z)) := by
  obtain ⟨own, hown, hi⟩ := Option.map_eq_some_iff.mp h
  have hinstant : (s.clock.ticks : Int) + -own.offset = i := hi
  rw [Stamp.inZone?_of_zone _ hown, ZoneRules.fixed]
  -- the way leads over universal time, and off the time line if either of its two ends is off it
  cases huniversal : s.clock.shift? (-own.offset) with
  | none =>
    rw [Moment.shift?_eq_none_iff, hinstant] at huniversal
    exact .offLine fun hon => huniversal hon.1
  | some universal =>
    rw [Moment.shift?_eq_some_iff, hinstant] at huniversal
    rw [Option.bind_some]
    cases hclock : universal.shift? z.offset with
    | none =>
      rw [Moment.shift?_eq_none_iff, huniversal] at hclock
      exact .offLine fun hon => hclock hon.2
    | some clock =>
      rw [Moment.shift?_eq_some_iff, huniversal] at hclock
      exact .shown (huniversal ▸ universal.onTimeLine) (shows_civil_iff.mpr hclock)

end Zone

/-- Each clock with a zone has a text for the instant that it tells. -/
theorem Stamp.denotes_isoText {m : Moment} {z : Zone}
    (h : z.offset = 0 ∨ microsecondsPerSecond ≤ z.offset.natAbs) (hday : z.offset.natAbs < microsecondsPerDay) :
    Denotes (isoText ⟨m, z⟩) (m.ticks - z.offset) :=
  ⟨_, ofIso?_isoText h hday, rfl⟩

/-- Early in year 1, a clock that is ahead tells an instant before the time line. -/
example : Denotes "0001-01-01T00:30+01:00" (-1800000000) :=
  ⟨⟨⟨1800000000, by decide⟩, Zone.ofOffset 3600000000⟩, by decide +kernel, by decide +kernel⟩

/-- The text of what a clock shows at an instant stands for the instant again. -/
theorem Zone.Resolves.denotes {z : Zone} {i : Int} {s : Stamp} (hs : z.Resolves i (some s))
    (h : z.offset = 0 ∨ microsecondsPerSecond ≤ z.offset.natAbs) (hday : z.offset.natAbs < microsecondsPerDay) :
    Denotes s.isoText i := by
  cases hs with
  | @shown m _ hshows =>
    obtain rfl : (m.ticks : Int) - z.offset = i := by
      have hticks := shows_civil_iff.mp hshows
      omega
    exact Stamp.denotes_isoText h hday

end CronSchedule
