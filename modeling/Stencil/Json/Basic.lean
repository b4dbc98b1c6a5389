/-!
# JSON values

A value as it stands in a text. An object keeps its members in the order and number in which they
are written, since a repeated name means different things to different readers.
-/

namespace Stencil

/-- A JSON value. `integer` is a number without point and exponent that fits 64 bits, with a sign or
without; every other number is a double. -/
inductive Json where
  | null
  | bool (b : Bool)
  | integer (n : Int)
  | float (x : Float)
  | string (s : String)
  | array (items : List Json)
  | object (members : List (String × Json))
deriving Inhabited

namespace Json

/-- The last member of that name. -/
def member? (members : List (String × Json)) (name : String) : Option Json :=
  (members.filter fun member => member.1 == name).getLast?.map Prod.snd

/-- Whether some name stands twice. -/
def hasRepeats (members : List (String × Json)) : Bool :=
  match members with
  | [] => false
  | (name, _) :: rest => rest.any (fun member => member.1 == name) || hasRepeats rest

/-- The text of a string value. -/
def string? : Json → Option String
  | string s => some s
  | _ => none

/-- The whole number of a value that is one, from zero up to the limit. -/
def natural? (limit : Nat) : Json → Option Nat
  | integer n => if 0 ≤ n ∧ n < limit then some n.toNat else none
  | _ => none

theorem lt_of_natural? {limit n : Nat} {j : Json} (h : j.natural? limit = some n) : n < limit := by
  cases j with
  | integer i =>
      rw [natural?] at h
      split at h
      · next bounds =>
        cases h
        omega
      · cases h
  | _ => cases h

end Json

end Stencil
