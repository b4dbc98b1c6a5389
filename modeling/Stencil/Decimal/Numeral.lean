import Stencil.Decimal.Binary
import Stencil.Text.Letter

/-!
# Reading numbers

Texts of digits to whole numbers, and the texts of decimal fractions to the nearest double.

* `digitsValue_append`: a row of digits is worth its parts, the left one shifted.
-/

namespace Stencil.Decimal

open Stencil.Text

/-- The value of one digit. -/
def digitValue (c : Char) : Nat := c.toNat - '0'.toNat

/-- The value of a row of digits that continues the number `start`. -/
def digitsFrom (start : Nat) (cs : List Char) : Nat :=
  cs.foldl (fun n c => 10 * n + digitValue c) start

/-- The value of a row of digits. -/
def digitsValue (cs : List Char) : Nat := digitsFrom 0 cs

theorem digitsValue_append (cs : List Char) (c : Char) :
    digitsValue (cs ++ [c]) = 10 * digitsValue cs + digitValue c := by
  simp [digitsValue, digitsFrom]

/-- The value of a text of digits that is below the limit. -/
def natural? (limit : Nat) (cs : List Char) : Option Nat :=
  if cs.isEmpty || !cs.all isDigit then none
  else
    let n := digitsValue cs
    if n < limit then some n else none

theorem lt_of_natural? {limit n : Nat} {cs : List Char} (h : natural? limit cs = some n) :
    n < limit := by
  simp only [natural?] at h
  split at h
  · cases h
  · split at h
    · next fits =>
      cases h
      exact fits
    · cases h

/-- The limit of 64-bit words. -/
def wordLimit : Nat := 0x10000000000000000

/-- A 64-bit word, with a plus sign or without. -/
def word? (cs : List Char) : Option Nat :=
  match cs with
  | '+' :: rest => natural? wordLimit rest
  | _ => natural? wordLimit cs

/-- The double nearest to `digits · 10 ^ exponent`. -/
def nearest (digits : Nat) (exponent : Int) : Float :=
  let size : Int := digits.log2 * 30103 / 100000 + exponent
  if digits = 0 then 0.0
  else if 400 < size then infinity
  else if size < -400 then 0.0
  else Float.ofScientific digits (exponent < 0) exponent.natAbs

/-- The value of an exponent: a sign and digits to the end of the text. -/
def exponent? (cs : List Char) : Option Int :=
  let value (digits : List Char) : Option Int :=
    if digits.isEmpty || !digits.all isDigit then none else some (digitsValue digits)
  match cs with
  | '-' :: rest => (value rest).map fun n => -n
  | '+' :: rest => value rest
  | _ => value cs

/-- A number without a sign: digits with at most one point and at least one digit,
then an exponent. -/
def fraction? (cs : List Char) : Option Float :=
  let whole := cs.takeWhile isDigit
  let rest := cs.dropWhile isDigit
  let (places, rest) :=
    match rest with
    | '.' :: tail => (tail.takeWhile isDigit, tail.dropWhile isDigit)
    | _ => ([], rest)
  if whole.isEmpty && places.isEmpty then none
  else
    let value (exponent : Int) : Float :=
      nearest (digitsValue (whole ++ places)) (exponent - places.length)
    match rest with
    | [] => some (value 0)
    | c :: tail => if c = 'e' || c = 'E' then (exponent? tail).map value else none

/-- A number without a sign, or one of the names of what is not finite, in any case. -/
def magnitude? (cs : List Char) : Option Float :=
  let name := String.ofList (cs.map Char.toLower)
  if name = "inf" || name = "infinity" then some infinity
  else if name = "nan" then some notANumber
  else fraction? cs

/-- The double that a text stands for. -/
def double? (cs : List Char) : Option Float :=
  match cs with
  | '-' :: rest => (magnitude? rest).map fun x => -x
  | '+' :: rest => magnitude? rest
  | _ => magnitude? cs

end Stencil.Decimal
