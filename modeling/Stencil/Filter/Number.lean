import Stencil.Filter.Basic

/-!
# Filters for numbers

* `ungroup_group`: without the commas a grouped number is the number.
-/

namespace Stencil.Filter

open Stencil.Decimal

/-- The magnitude of a 64-bit integer. That of the least one does not fit, the
greatest stands in. -/
def integerMagnitude (n : Int64) : Int64 :=
  if n = Int64.minValue then Int64.maxValue else if n < 0 then -n else n

/-- The number without its sign. -/
def abs : Filter := fun v _ =>
  match v with
  | .int n => .int (integerMagnitude n)
  | _ => (v.number?.map fun x => Value.float (magnitude x)).getD .null

/-- The double nearest to a number of places, halves away from zero. -/
def roundTo (places : Int) (x : Float) : Float :=
  let factor := powerOfTen places
  roundHalfAway (x * factor) / factor

/-- The number rounded to a number of places. An integer has none to lose. -/
def round : Filter := fun v args =>
  let places := ((numberAt? args 0).map toInt32).getD 0
  match v, decide (0 ≤ places) with
  | .int n, true => .int n
  | _, _ => (v.number?.map fun x => Value.float (roundTo places x)).getD .null

/-- Puts a comma in front of every third digit from the right, except for the first digit. -/
def group : List Char → List Char
  | [] => []
  | c :: rest =>
      if rest.length % 3 = 0 && !rest.isEmpty then c :: ',' :: group rest else c :: group rest

/-- The whole part and, from the point on, the rest. -/
def splitPoint (cs : List Char) : List Char × List Char :=
  (cs.takeWhile (· != '.'), cs.dropWhile (· != '.'))

/-- A number with a fixed number of places and commas in the whole part. What rounds to zero has no
sign. -/
def grouped (places : Nat) (x : Float) : String :=
  let text := fixed places x
  let (whole, fraction) := splitPoint text
  let negative := x < 0.0 && text.any fun c => Stencil.Text.isDigit c && c != '0'
  String.ofList (signed negative (group whole ++ fraction))

/-- The most places that a number is written with. -/
def mostPlaces : Int := 20

/-- The number with as many places as the first argument says and with commas. -/
def numberFormat : Filter := fun v args =>
  let places := (clamp 0 mostPlaces ((integerAt? args 0).getD 0)).toNat
  (v.number?.map fun x => Value.string (grouped places x)).getD .null

theorem ungroup_group (cs : List Char) (h : ',' ∉ cs) :
    (group cs).filter (· != ',') = cs := by
  induction cs with
  | nil => rfl
  | cons c rest ih =>
      simp only [List.mem_cons, not_or] at h
      have first : c ≠ ',' := fun same => h.1 same.symm
      simp only [group]
      split <;> simp [first, ih h.2]

example : group ['1', '2', '3', '4', '5', '6', '7'] =
    ['1', ',', '2', '3', '4', ',', '5', '6', '7'] := by decide

end Stencil.Filter
