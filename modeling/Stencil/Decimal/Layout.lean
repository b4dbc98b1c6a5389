import Stencil.Decimal.Shortest

/-!
# Numbers as text

Three ways to write a double: in plain digits without an exponent, as JSON has it, and with a fixed
number of places.

* `decimalDigits_ne_nil`: a whole number has at least one digit.
-/

namespace Stencil.Decimal

/-- The decimal digits of a whole number. -/
def decimalDigits (n : Nat) : List Char := Nat.toDigits 10 n

/-- The decimal text of an integer. -/
def ofInt (n : Int) : String := toString n

/-- A row of zeros. -/
def zeros (n : Nat) : List Char := List.replicate n '0'

/-- How a text chooses between two equally near digits, where it has an exponent, and how whole
numbers end in it. -/
structure Layout where
  /-- The digits of a value in the middle. -/
  halves : Halves
  /-- The greatest number of digits before the point that is still written out. -/
  mostWhole : Option Nat
  /-- The greatest number of zeros after the point that is still written out. -/
  mostZeros : Option Nat
  /-- What follows the digits of a whole number. -/
  wholeEnd : List Char

/-- Digits only, however long. Halves go up. -/
def plain : Layout := ⟨.up, none, none, []⟩

/-- Plain digits from `1e-5` up to below `1e16`, and a point in every number. Halves go to the even
digit. -/
def json : Layout := ⟨.toEven, some 16, some 4, ['.', '0']⟩

/-- Whether `n` does not pass the limit. -/
def within (n : Nat) : Option Nat → Bool
  | none => true
  | some limit => n ≤ limit

/-- The exponent with its sign. -/
def exponentText (n : Int) : List Char :=
  (if n < 0 then '-' else '+') :: decimalDigits n.natAbs

/-- The digits with the point at its place, or with an exponent where the layout wants one. -/
def Layout.place (layout : Layout) (s : Scientific) : List Char :=
  let digits := decimalDigits s.digits
  let point := digits.length + s.exponent
  if 0 ≤ s.exponent ∧ within point.toNat layout.mostWhole then
    digits ++ zeros s.exponent.toNat ++ layout.wholeEnd
  else if s.exponent < 0 ∧ 0 < point then
    digits.take point.toNat ++ '.' :: digits.drop point.toNat
  else if point ≤ 0 ∧ within (-point).toNat layout.mostZeros then
    ['0', '.'] ++ zeros (-point).toNat ++ digits
  else
    let fraction := digits.drop 1
    digits.take 1 ++ (if fraction.isEmpty then [] else '.' :: fraction) ++
      'e' :: exponentText (point - 1)

/-- A minus sign in front of a negative number. -/
def signed (negative : Bool) (cs : List Char) : List Char := if negative then '-' :: cs else cs

/-- The text of a finite double. -/
def Layout.write (layout : Layout) (b : Binary) : List Char :=
  signed b.negative (layout.place (b.shortest layout.halves))

/-- The double in plain digits. -/
def toPlain (x : Float) : String :=
  match read x with
  | .finite b => String.ofList (plain.write b)
  | .infinite negative => if negative then "-inf" else "inf"
  | .notANumber => "NaN"

/-- The double as JSON has it. JSON has no text for what is not finite. -/
def toJson? (x : Float) : Option String :=
  match read x with
  | .finite b => some (String.ofList (json.write b))
  | _ => none

/-- The quotient rounded to the nearest whole number, halves to the even one. -/
def divideToEven (n d : Nat) : Nat :=
  let quotient := n / d
  let remainder := 2 * (n % d)
  if remainder < d then quotient
  else if d < remainder then quotient + 1
  else Halves.toEven.settle quotient

/-- The digits of `n` with a point in front of the last `places`. -/
def withPlaces (n places : Nat) : List Char :=
  let digits := decimalDigits n
  let padded := zeros (places + 1 - digits.length) ++ digits
  let whole := padded.take (padded.length - places)
  if places = 0 then whole else whole ++ '.' :: padded.drop (padded.length - places)

/-- The magnitude with a fixed number of places, rounded exactly. -/
def fixed (places : Nat) (x : Float) : List Char :=
  match read x with
  | .finite b => withPlaces (divideToEven (b.scaled.1 * Nat.pow 10 places) b.scaled.2) places
  | .infinite _ => ['i', 'n', 'f']
  | .notANumber => ['N', 'a', 'N']

/-- Rounding errs by half a unit at most. -/
theorem divideToEven_near {n d : Nat} (h : 0 < d) :
    2 * n ≤ 2 * (divideToEven n d * d) + d ∧ 2 * (divideToEven n d * d) ≤ 2 * n + d := by
  have whole := Nat.div_add_mod n d
  have small := Nat.mod_lt n h
  have comm : d * (n / d) = n / d * d := Nat.mul_comm _ _
  have succ : (n / d + 1) * d = n / d * d + d := Nat.succ_mul _ _
  unfold divideToEven
  simp only [Halves.settle]
  split
  · omega
  · split
    · rw [succ]
      omega
    · split
      · omega
      · rw [succ]
        omega

theorem decimalDigits_ne_nil (n : Nat) : decimalDigits n ≠ [] := by
  unfold decimalDigits
  exact Nat.toDigits_ne_nil

end Stencil.Decimal
