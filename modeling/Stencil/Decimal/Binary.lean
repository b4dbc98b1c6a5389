/-!
# Doubles as whole numbers

Every finite double is `± mantissa · 2 ^ exponent` with a whole mantissa. This module takes a double
apart and rounds it to whole numbers exactly.

* `clamp_bounds`: a clamped number lies between the bounds.
-/

namespace Stencil.Decimal

/-- A finite double: its sign and `mantissa · 2 ^ exponent`. `narrow` holds when the next smaller
double is only half as far away as the next larger one. -/
structure Binary where
  negative : Bool
  mantissa : Nat
  exponent : Int
  narrow : Bool

/-- What a double stands for. -/
inductive Reading where
  | finite (value : Binary)
  | infinite (negative : Bool)
  | notANumber

/-- Takes a double apart. -/
def read (x : Float) : Reading :=
  let bits := x.toBits.toNat
  let negative := bits >>> 63 == 1
  let exponent : Nat := (bits >>> 52) % 0x800
  let fraction := bits % 0x10000000000000
  if exponent = 2047 then
    if fraction = 0 then .infinite negative else .notANumber
  else if exponent = 0 then .finite ⟨negative, fraction, -1074, false⟩
  else
    .finite ⟨negative, fraction + 0x10000000000000, exponent - 1075, fraction == 0 && exponent > 1⟩

/-- `n · 2 ^ exponent` as a fraction of whole numbers. -/
def scaleTwo (n : Nat) (exponent : Int) : Nat × Nat :=
  if 0 ≤ exponent then (n * Nat.pow 2 exponent.toNat, 1) else (n, Nat.pow 2 (-exponent).toNat)

/-- The magnitude as a fraction. -/
def Binary.scaled (b : Binary) : Nat × Nat := scaleTwo b.mantissa b.exponent

theorem scaleTwo_denominator_pos (n : Nat) (exponent : Int) : 0 < (scaleTwo n exponent).2 := by
  unfold scaleTwo
  split
  · exact Nat.one_pos
  · exact Nat.pow_pos (by decide)

/-- The magnitude without its fraction. -/
def Binary.whole (b : Binary) : Nat := b.scaled.1 / b.scaled.2

/-- The whole number toward zero. -/
def Binary.truncated (b : Binary) : Int := if b.negative then -b.whole else b.whole

/-- The greatest whole number that is not above the value. -/
def Binary.floored (b : Binary) : Int :=
  if b.negative then -((b.scaled.1 + b.scaled.2 - 1) / b.scaled.2 : Nat) else b.whole

/-- The nearest whole number to the magnitude, halves upward. -/
def Binary.nearest (b : Binary) : Nat := (2 * b.scaled.1 + b.scaled.2) / (2 * b.scaled.2)

/-- The number, or the nearer of two bounds. -/
def clamp (low high n : Int) : Int := if n < low then low else if high < n then high else n

/-- Rounds by `round` and keeps the result between the bounds. What is not a number
counts as zero. -/
def saturate (round : Binary → Int) (low high : Int) (x : Float) : Int :=
  match read x with
  | .finite b => clamp low high (round b)
  | .infinite negative => if negative then low else high
  | .notANumber => 0

theorem clamp_bounds {low high n : Int} (h : low ≤ high) :
    low ≤ clamp low high n ∧ clamp low high n ≤ high := by
  unfold clamp
  split
  · omega
  · split <;> omega

/-- The whole part as a 64-bit number. -/
def toInt64 (x : Float) : Int :=
  saturate Binary.truncated (-0x8000000000000000) 0x7FFFFFFFFFFFFFFF x

/-- The whole part as a 32-bit number. -/
def toInt32 (x : Float) : Int := saturate Binary.truncated (-0x80000000) 0x7FFFFFFF x

/-- The floor as a 64-bit number. -/
def floorInt64 (x : Float) : Int :=
  saturate Binary.floored (-0x8000000000000000) 0x7FFFFFFFFFFFFFFF x

/-- Without the sign. -/
def magnitude (x : Float) : Float := Float.ofBits (x.toBits &&& 0x7FFFFFFFFFFFFFFF)

/-- The nearest whole double, halves away from zero, with the sign of `x`. -/
def roundHalfAway (x : Float) : Float :=
  match read x with
  | .finite b =>
      if b.exponent ≥ 0 then x
      else
        let rounded := Float.ofNat b.nearest
        if b.negative then -rounded else rounded
  | _ => x

/-- `base` to a whole power by squaring: each step squares the base and halves the power. -/
def powerBySquaring (base : Float) (power : Nat) : Float :=
  go base 1.0 power 64
where
  /-- Multiplies `acc` by `base` to the `power`. -/
  go (base acc : Float) (power : Nat) : Nat → Float
    | 0 => acc
    | steps + 1 =>
        let acc := if power % 2 = 1 then acc * base else acc
        if power < 2 then acc else go (base * base) acc (power / 2) steps

/-- A power of ten, the reciprocal for negative powers. -/
def powerOfTen (power : Int) : Float :=
  let positive := powerBySquaring 10.0 power.natAbs
  if power < 0 then 1.0 / positive else positive

/-- Positive infinity. -/
def infinity : Float := Float.ofBits 0x7FF0000000000000

/-- The value of no number. -/
def notANumber : Float := Float.ofBits 0x7FF8000000000000

end Stencil.Decimal
