import Stencil.Decimal.Binary

/-!
# Shortest digits

The decimal with the fewest digits among those that read back as the same double, and among these
the nearest. A point of the grid of multiples of `10 ^ k` that lies in the interval of reals
rounding to the double is the value's lower or upper neighbour on that grid or lies beyond one of
them, so the two neighbours decide whether the grid has a point in the interval. Where both are
equally near, `Halves` says which one it is.
-/

namespace Stencil.Decimal

/-- Which of two whole numbers stands for the middle between them. -/
inductive Halves where
  | toEven
  | up
deriving DecidableEq, Repr

/-- The whole number for the middle between `below` and the next. -/
def Halves.settle : Halves → Nat → Nat
  | toEven, below => if below % 2 = 0 then below else below + 1
  | up, below => below + 1

/-- `digits · 10 ^ exponent`. -/
structure Scientific where
  digits : Nat
  exponent : Int
deriving DecidableEq, Repr

/-- Four times the value and the ends of the interval that rounds to it, over one denominator. -/
structure Interval where
  low : Nat
  value : Nat
  high : Nat
  denominator : Nat
  closed : Bool

/-- The interval of reals that round to the magnitude of `b`. -/
def Binary.interval (b : Binary) : Interval :=
  let low := 4 * b.mantissa - (if b.narrow then 1 else 2)
  let scale := scaleTwo 1 (b.exponent - 2)
  ⟨low * scale.1, 4 * b.mantissa * scale.1, (4 * b.mantissa + 2) * scale.1, scale.2,
    b.mantissa % 2 == 0⟩

/-- The interval measured in steps of `10 ^ k`. -/
def Interval.inSteps (i : Interval) (k : Int) : Interval :=
  if 0 ≤ k then { i with denominator := i.denominator * Nat.pow 10 k.toNat }
  else
    let factor := Nat.pow 10 (-k).toNat
    { i with low := i.low * factor, value := i.value * factor, high := i.high * factor }

/-- Whether the whole number `n` lies in the interval. -/
def Interval.holds (i : Interval) (n : Nat) : Bool :=
  let point := n * i.denominator
  if i.closed then i.low ≤ point && point ≤ i.high else i.low < point && point < i.high

/-- The whole number in the interval that is nearest to the value. -/
def Interval.pick (i : Interval) (halves : Halves) : Option Nat :=
  let below := i.value / i.denominator
  let remainder := 2 * (i.value % i.denominator)
  let nearer :=
    if remainder < i.denominator then below
    else if i.denominator < remainder then below + 1
    else halves.settle below
  match i.holds below, i.holds (below + 1) with
  | true, true => some nearer
  | true, false => some below
  | false, true => some (below + 1)
  | false, false => none

/-- Tries the grids from `10 ^ k` down to finer ones. -/
def Interval.search (i : Interval) (halves : Halves) : Nat → Int → Scientific
  | 0, _ => ⟨0, 0⟩
  | steps + 1, k =>
      match (i.inSteps k).pick halves with
      | some digits => ⟨digits, k⟩
      | none => i.search halves steps (k - 1)

/-- A power of ten above the magnitude: the coarsest grid worth a try. -/
def Binary.ceilingExponent (b : Binary) : Int :=
  (b.mantissa.log2 + b.exponent + 1) * 30103 / 100000 + 1

/-- The fewest digits that read back as the magnitude of `b`. Zero has the digit zero. -/
def Binary.shortest (b : Binary) (halves : Halves) : Scientific :=
  if b.mantissa = 0 then ⟨0, 0⟩ else b.interval.search halves 24 b.ceilingExponent

end Stencil.Decimal
