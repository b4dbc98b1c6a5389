/-!
# The calendar

Dates of the Gregorian calendar, also before its time, and the number of a day since 1970. Years are
counted from March, so that the leap day comes last and the months in front of it follow one rule.

* `Date.weekday_bounds`: a weekday is one of seven.
-/

namespace Stencil

/-- A day: the year, the month from one and the day of the month from one. -/
structure Date where
  year : Int
  month : Nat
  day : Nat
deriving DecidableEq, Repr

namespace Date

/-- Every fourth year, without the centuries that are no fourth ones. -/
def isLeapYear (year : Int) : Bool :=
  year % 4 == 0 && (year % 100 != 0 || year % 400 == 0)

/-- The number of days of a month. -/
def daysInMonth (year : Int) (month : Nat) : Nat :=
  if month = 2 then (if isLeapYear year then 29 else 28)
  else if month = 4 ∨ month = 6 ∨ month = 9 ∨ month = 11 then 30
  else 31

/-- The years that a moment can lie in. -/
def isYear (year : Int) : Bool := -262143 ≤ year && year ≤ 262142

/-- Whether there is such a day. -/
def isValid (d : Date) : Bool :=
  isYear d.year && 1 ≤ d.month && d.month ≤ 12 && 1 ≤ d.day && d.day ≤ daysInMonth d.year d.month

/-- Days from 0000-03-01 to the first day of 1970. -/
def epoch : Int := 719468

/-- Days from the first of March of the year zero to that of a year. -/
def yearStart (year : Int) : Int := 365 * year + year / 4 - year / 100 + year / 400

/-- Days from the first of March to the first of the month that comes `n` months later. -/
def monthStart (n : Nat) : Nat := (153 * n + 2) / 5

/-- The number of the day, zero for the first of January 1970. -/
def number (d : Date) : Int :=
  let fromMarch := (d.month + 9) % 12
  let year := if d.month ≤ 2 then d.year - 1 else d.year
  yearStart year + monthStart fromMarch + d.day - 1 - epoch

/-- The day of a number. -/
def ofNumber (n : Int) : Date :=
  let sinceMarch := n + epoch
  let era := sinceMarch / 146097
  let inEra := sinceMarch % 146097
  let yearInEra := (inEra - inEra / 1460 + inEra / 36524 - inEra / 146096) / 365
  let inYear := (inEra - yearStart yearInEra).toNat
  let fromMarch := (5 * inYear + 2) / 153
  let month := if fromMarch < 10 then fromMarch + 3 else fromMarch - 9
  let year := yearInEra + 400 * era
  ⟨if month ≤ 2 then year + 1 else year, month, inYear - monthStart fromMarch + 1⟩

/-- The day of the week of a day number, from zero on Sunday. -/
def weekday (number : Int) : Nat := ((number + 4) % 7).toNat

theorem weekday_bounds (number : Int) : weekday number < 7 := by
  unfold weekday
  omega

end Date

example : (Date.mk 1970 1 1).number = 0 := by decide
example : Date.ofNumber (Date.mk 2024 2 29).number = ⟨2024, 2, 29⟩ := by decide
example : Date.ofNumber (Date.mk (-1) 12 31).number = ⟨-1, 12, 31⟩ := by decide

end Stencil
