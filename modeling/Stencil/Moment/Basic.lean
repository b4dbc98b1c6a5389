import Stencil.Moment.Calendar

/-!
# Moments

A second of universal time. A leap second shares the count of the second before it.
-/

namespace Stencil

/-- A second: its count since 1970 without leap seconds, and whether it is the leap
second after it. -/
structure Moment where
  seconds : Int
  leap : Bool
deriving DecidableEq, Repr

namespace Moment

/-- The seconds of a day. -/
def daySeconds : Nat := 86400

/-- The number of the day. -/
def dayNumber (m : Moment) : Int := m.seconds / daySeconds

/-- The day. -/
def date (m : Moment) : Date := Date.ofNumber m.dayNumber

/-- The seconds since midnight. -/
def secondOfDay (m : Moment) : Nat := (m.seconds % daySeconds).toNat

/-- The hour of the day. -/
def hour (m : Moment) : Nat := m.secondOfDay / 3600

/-- The minute of the hour. -/
def minute (m : Moment) : Nat := m.secondOfDay / 60 % 60

/-- The second of the minute, which is 60 for a leap second. -/
def second (m : Moment) : Nat := m.secondOfDay % 60 + (if m.leap then 1 else 0)

/-- The moment that many seconds after the beginning of 1970, if its year is one. -/
def ofSeconds? (seconds : Int) : Option Moment :=
  let m : Moment := ⟨seconds, false⟩
  if Date.isYear m.date.year then some m else none

/-- The moment of a time on a day. The second 60 is the leap second after the second 59. -/
def ofFields? (d : Date) (hour minute second : Nat) : Option Moment :=
  if d.isValid && hour < 24 && minute < 60 && second ≤ 60 then
    let leap := second == 60
    let inDay := 3600 * hour + 60 * minute + (if leap then 59 else second)
    some ⟨d.number * daySeconds + inDay, leap⟩
  else none

/-- The moment that many seconds earlier. -/
def earlier (m : Moment) (seconds : Int) : Moment := { m with seconds := m.seconds - seconds }

theorem secondOfDay_lt (m : Moment) : m.secondOfDay < daySeconds := by
  unfold secondOfDay daySeconds
  omega

theorem hour_lt (m : Moment) : m.hour < 24 := by
  have := m.secondOfDay_lt
  unfold daySeconds at this
  unfold hour
  omega

end Moment

end Stencil
