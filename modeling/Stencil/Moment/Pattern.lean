import Stencil.Decimal.Layout
import Stencil.Moment.Basic

/-!
# Patterns of moments

In a pattern a percent sign and the mark behind it stand for a field of the moment, and two percent
signs stand for one. All other characters stand for themselves. A percent sign in front of anything
else means nothing, and with such a sign in it a pattern is not written at all.
-/

namespace Stencil.Moment

open Stencil.Decimal

/-- A field of a moment. -/
inductive Field where
  | day (padded : Bool)
  | weekdayName (short : Bool)
  | weekday (fromMonday : Bool)
  | month (padded : Bool)
  | monthName (short : Bool)
  | year
  | yearOfCentury
  | hour (padded : Bool)
  | halfDayHour (padded : Bool)
  | minute
  | second
  | half (upper : Bool)
  | timestamp
  | offset (colon : Bool)
deriving DecidableEq, Repr

/-- The field of a mark of one letter. -/
def Field.ofMark? : Char → Option Field
  | 'd' => some (day true)
  | 'a' => some (weekdayName true)
  | 'A' => some (weekdayName false)
  | 'u' => some (weekday true)
  | 'w' => some (weekday false)
  | 'm' => some (month true)
  | 'b' => some (monthName true)
  | 'B' => some (monthName false)
  | 'Y' => some year
  | 'y' => some yearOfCentury
  | 'H' => some (hour true)
  | 'I' => some (halfDayHour true)
  | 'M' => some minute
  | 'S' => some second
  | 'p' => some (half true)
  | 'P' => some (half false)
  | 's' => some timestamp
  | 'z' => some (offset false)
  | _ => none

/-- The field of a letter with a minus sign in front, which is written without a zero in front. -/
def Field.ofUnpadded? : Char → Option Field
  | 'd' => some (day false)
  | 'm' => some (month false)
  | 'H' => some (hour false)
  | 'I' => some (halfDayHour false)
  | _ => none

/-- A part of a pattern. -/
inductive Part where
  | field (f : Field)
  | literal (c : Char)
deriving DecidableEq, Repr

/-- The parts of a pattern, if every percent sign in it means something. -/
def parts? : List Char → Option (List Part)
  | [] => some []
  | '%' :: '%' :: rest => (parts? rest).map (.literal '%' :: ·)
  | '%' :: '-' :: c :: rest =>
      (Field.ofUnpadded? c).bind fun f => (parts? rest).map (.field f :: ·)
  | '%' :: ':' :: 'z' :: rest => (parts? rest).map (.field (.offset true) :: ·)
  | '%' :: c :: rest => (Field.ofMark? c).bind fun f => (parts? rest).map (.field f :: ·)
  | c :: rest => if c = '%' then none else (parts? rest).map (.literal c :: ·)

/-- The names of the days of the week from Sunday. -/
def weekdayNames : List String :=
  ["Sunday", "Monday", "Tuesday", "Wednesday", "Thursday", "Friday", "Saturday"]

/-- The names of the months. -/
def monthNames : List String :=
  ["January", "February", "March", "April", "May", "June", "July", "August", "September", "October",
    "November", "December"]

/-- A name of the list, or its first three letters. -/
def nameAt (names : List String) (short : Bool) (i : Nat) : List Char :=
  let name := (names[i]?.getD "").toList
  if short then name.take 3 else name

/-- A number with zeros in front up to a width. -/
def paddedTo (width n : Nat) : List Char :=
  let digits := decimalDigits n
  zeros (width - digits.length) ++ digits

/-- A number of two digits, or without the zero in front. -/
def twoDigits (padded : Bool) (n : Nat) : List Char :=
  if padded then paddedTo 2 n else decimalDigits n

/-- A year has four digits, and outside of these a sign. -/
def yearText (year : Int) : List Char :=
  let digits := paddedTo 4 year.natAbs
  if year < 0 then '-' :: digits else if 9999 < year then '+' :: digits else digits

/-- The hour of a half day, from one to twelve. -/
def toHalfDay (hour : Nat) : Nat := if hour % 12 = 0 then 12 else hour % 12

/-- The offset of universal time. -/
def offsetText (colon : Bool) : List Char :=
  if colon then ['+', '0', '0', ':', '0', '0'] else ['+', '0', '0', '0', '0']

/-- The text of a field. -/
def writeField (m : Moment) : Field → List Char
  | .day padded => twoDigits padded m.date.day
  | .weekdayName short => nameAt weekdayNames short (Date.weekday m.dayNumber)
  | .weekday fromMonday =>
      let n := Date.weekday m.dayNumber
      decimalDigits (if fromMonday && n == 0 then 7 else n)
  | .month padded => twoDigits padded m.date.month
  | .monthName short => nameAt monthNames short (m.date.month - 1)
  | .year => yearText m.date.year
  | .yearOfCentury => paddedTo 2 (m.date.year % 100).toNat
  | .hour padded => twoDigits padded m.hour
  | .halfDayHour padded => twoDigits padded (toHalfDay m.hour)
  | .minute => paddedTo 2 m.minute
  | .second => paddedTo 2 m.second
  | .half upper =>
      if upper then [if m.hour < 12 then 'A' else 'P', 'M']
      else [if m.hour < 12 then 'a' else 'p', 'm']
  | .timestamp => (ofInt m.seconds).toList
  | .offset colon => offsetText colon

/-- The text of a part of a pattern. -/
def writePart (m : Moment) : Part → List Char
  | .field f => m.writeField f
  | .literal c => [c]

/-- The moment in a pattern, if all of the pattern means something. -/
def write? (m : Moment) (pattern : List Char) : Option (List Char) :=
  (parts? pattern).map fun parts => parts.flatMap m.writePart

example : (Moment.mk 0 false).write? "%Y-%-m%% %:z".toList = some "1970-1% +00:00".toList := by
  decide +kernel
example : (Moment.mk 0 false).write? "100%".toList = none := by decide +kernel

end Stencil.Moment
