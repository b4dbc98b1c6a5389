import Stencil.Decimal.Numeral
import Stencil.Moment.Basic
import Stencil.Text.Blank
import Stencil.Text.Find

/-!
# Reading moments

Two notations. The strict one has fields of fixed width, a fraction of the second if wanted, and an
offset: `2024-01-02T03:04:05.6+07:00`. The lenient one has no offset and needs no time; its fields
may be shorter and have blanks in front: `2024-1-2  3:04:05`.
-/

namespace Stencil.Moment

open Stencil.Text
open Stencil.Decimal

/-- Reads a row of digits: at least `least`, at most `most`. -/
def readDigits (least most : Nat) (cs : List Char) : Option (Nat × List Char) :=
  let digits := (cs.take most).takeWhile isDigit
  if digits.length < least then none else some (digitsValue digits, cs.drop digits.length)

/-- The rest behind one of the characters. -/
def readOne (marks : List Char) : List Char → Option (List Char)
  | [] => none
  | c :: rest => if marks.contains c then some rest else none

/-- Drops the fraction of a second: a point and at least one digit. -/
def dropFraction : List Char → Option (List Char)
  | '.' :: rest =>
      if rest.head?.any isDigit then some (rest.dropWhile isDigit) else none
  | cs => some cs

/-- Reads an offset up to the end of the text, in seconds east. -/
def readOffset : List Char → Option Int
  | [] => none
  | sign :: rest =>
      if sign = 'Z' || sign = 'z' then if rest.isEmpty then some 0 else none
      else if sign = '+' || sign = '-' || sign = '\u2212' then do
        let (hours, rest) ← readDigits 2 2 rest
        let rest ← readOne [':'] rest
        let (minutes, rest) ← readDigits 2 2 rest
        let seconds : Int := 3600 * hours + 60 * minutes
        if rest.isEmpty && hours < 24 && minutes < 60 then
          return if sign = '+' then seconds else -seconds
        else none
      else none

/-- The moment that a text of the strict notation names. -/
def ofStrict? (cs : List Char) : Option Moment := do
  let (year, cs) ← readDigits 4 4 cs
  let cs ← readOne ['-'] cs
  let (month, cs) ← readDigits 2 2 cs
  let cs ← readOne ['-'] cs
  let (day, cs) ← readDigits 2 2 cs
  let cs ← readOne ['T', 't', ' '] cs
  let (hour, cs) ← readDigits 2 2 cs
  let cs ← readOne [':'] cs
  let (minute, cs) ← readDigits 2 2 cs
  let cs ← readOne [':'] cs
  let (second, cs) ← readDigits 2 2 cs
  let cs ← dropFraction cs
  let offset ← readOffset cs
  let clock ← ofFields? ⟨year, month, day⟩ hour minute second
  return clock.earlier offset

/-- Reads a field of one or two digits after blanks. -/
def readField (cs : List Char) : Option (Nat × List Char) := readDigits 1 2 (dropBlanks cs)

/-- Reads a year after blanks. With a sign it may have any number of digits. -/
def readYear (cs : List Char) : Option (Int × List Char) :=
  let cs := dropBlanks cs
  match cs with
  | '-' :: rest => (readDigits 1 rest.length rest).map fun (n, rest) => (-n, rest)
  | '+' :: rest => (readDigits 1 rest.length rest).map fun (n, rest) => (n, rest)
  | _ => (readDigits 1 4 cs).map fun (n, rest) => (n, rest)

/-- Reads a day of the lenient notation. -/
def readDate (cs : List Char) : Option (Date × List Char) := do
  let (year, cs) ← readYear cs
  let cs ← readOne ['-'] cs
  let (month, cs) ← readField cs
  let cs ← readOne ['-'] cs
  let (day, cs) ← readField cs
  return (⟨year, month, day⟩, cs)

/-- The moment on a day that a time of the lenient notation names, with nothing behind it. -/
def ofTime? (d : Date) (cs : List Char) : Option Moment := do
  let (hour, cs) ← readField cs
  let cs ← readOne [':'] cs
  let (minute, cs) ← readField cs
  let cs ← readOne [':'] cs
  let (second, cs) ← readField cs
  if cs.isEmpty then ofFields? d hour minute second else none

/-- The moment that a text of the lenient notation names. Without a time it is midnight. -/
def ofLenient? (cs : List Char) : Option Moment := do
  let (day, rest) ← readDate cs
  match rest with
  | [] => ofFields? day 0 0 0
  | 'T' :: time => ofTime? day time
  | _ => ofTime? day rest

/-- The moment that a text names. -/
def ofText? (cs : List Char) : Option Moment :=
  let cs := trimmed cs
  (ofStrict? cs).or (ofLenient? cs)

example : ofText? "1970-01-01T01:00:00+01:00".toList = some ⟨0, false⟩ := by decide +kernel
example : ofText? "1970-1-1 0:0:60".toList = some ⟨59, true⟩ := by decide +kernel
example : ofText? "1970-01-02".toList = some ⟨86400, false⟩ := by decide +kernel

end Stencil.Moment
