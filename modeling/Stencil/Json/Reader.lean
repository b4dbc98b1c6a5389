import Stencil.Decimal.Numeral
import Stencil.Json.Skip

/-!
# Reading JSON

A strict reader: no comments, no trailing commas, no lone surrogates, at most 127 arrays and objects
inside each other. Each step returns the rest of the text; the number of steps is bounded by the
length of the text.

A reader may want only some members of an object. The others are passed over and left out.

A number with a point or an exponent gathers its digits into a 64-bit significand. Digits that do
not fit any more only count. The value is the significand as a double, multiplied or divided by one
power of ten.
-/

namespace Stencil.Json

open Stencil.Decimal
open Stencil.Text

/-- How many arrays and objects may stand inside each other. -/
def depthLimit : Nat := 127

/-! ## Strings -/

/-- Reads on inside a string, after `seen` in reverse, to the closing quote. -/
def readString (seen : List Char) : List Char → Option (String × List Char)
  | '"' :: rest => some (String.ofList seen.reverse, rest)
  | '\\' :: 'u' :: a :: b :: c :: d :: '\\' :: 'u' :: e :: f :: g :: h :: rest => do
      let high ← unit? a b c d
      match single? high with
      | some char => readString (char :: seen) ('\\' :: 'u' :: e :: f :: g :: h :: rest)
      | none =>
          let low ← unit? e f g h
          let char ← paired? high low
          readString (char :: seen) rest
  | '\\' :: 'u' :: a :: b :: c :: d :: rest => do
      let n ← unit? a b c d
      let char ← single? n
      readString (char :: seen) rest
  | '\\' :: c :: rest => do
      let char ← escaped? c
      readString (char :: seen) rest
  | c :: rest => if c.toNat < 0x20 || c = '\\' then none else readString (c :: seen) rest
  | [] => none

/-! ## Numbers -/

/-- Takes digits up as long as the significand fits 64 bits. Gives the significand, the number of
digits taken, and the rest. -/
def gather (significand count : Nat) : List Char → Nat × Nat × List Char
  | [] => (significand, count, [])
  | c :: rest =>
      if isDigit c ∧ significand * 10 + digitValue c < wordLimit then
        gather (significand * 10 + digitValue c) (count + 1) rest
      else (significand, count, c :: rest)

/-- Divides by `10 ^ 308` until the rest of the power is a table entry away. -/
def scaleDown (f : Float) (power : Nat) : Nat → Float
  | 0 => 0.0
  | steps + 1 =>
      if power ≤ 308 then f / Float.ofScientific 1 false power
      else if f == 0.0 then f
      else scaleDown (f / Float.ofScientific 1 false 308) (power - 308) steps

/-- The significand as a double times a power of ten, unless that is too large. -/
def scaled? (significand : Nat) (power : Int) : Option Float :=
  let f := Float.ofNat significand
  if power < 0 then some (scaleDown f power.natAbs 4)
  else if power ≤ 308 then
    let scaled := f * Float.ofScientific 1 false power.toNat
    if scaled == infinity then none else some scaled
  else if significand = 0 then some f
  else none

/-- The double of that sign. -/
def withSign (negative : Bool) (x : Float) : Json := .float (if negative then -x else x)

/-- Reads an exponent, after the `e`, of a number with `power` so far. -/
def readExponent (negative : Bool) (significand : Nat) (power : Int) (cs : List Char) :
    Option (Json × List Char) :=
  let (down, digits) :=
    match cs with
    | '+' :: rest => (false, rest)
    | '-' :: rest => (true, rest)
    | _ => (false, cs)
  let rest := digits.dropWhile isDigit
  let digits := digits.takeWhile isDigit
  let value := digitsValue digits
  if digits.isEmpty then none
  else if 0x80000000 ≤ value then
    if significand ≠ 0 ∧ !down then none else some (withSign negative 0.0, rest)
  else
    let power : Int := clamp (-0x80000000) 0x7FFFFFFF (if down then power - value else power + value)
    (scaled? significand power).map fun x => (withSign negative x, rest)

/-- Ends a fraction, or goes on with its exponent. -/
def readPower (negative : Bool) (significand : Nat) (power : Int) (cs : List Char) :
    Option (Json × List Char) :=
  match cs with
  | 'e' :: rest => readExponent negative significand power rest
  | 'E' :: rest => readExponent negative significand power rest
  | _ => (scaled? significand power).map fun x => (withSign negative x, cs)

/-- Reads the digits after the point. -/
def readPlaces (negative : Bool) (significand : Nat) (power : Int) (cs : List Char) :
    Option (Json × List Char) :=
  if cs.head?.any isDigit then
    let (significand, count, rest) := gather significand 0 cs
    readPower negative significand (power - count) (rest.dropWhile isDigit)
  else none

/-- An integer of that sign, as far as it fits 64 bits. -/
def wholeNumber (negative : Bool) (n : Nat) : Json :=
  if !negative then .integer n
  else if n = 0 ∨ 0x8000000000000000 < n then .float (-(Float.ofNat n))
  else .integer (-n)

/-- Reads a number after its sign. -/
def readNumber (negative : Bool) (cs : List Char) : Option (Json × List Char) :=
  let digits := cs.takeWhile isDigit
  if digits.isEmpty || (1 < digits.length && digits.head? == some '0') then none
  else
    let (significand, _, excess) := gather 0 0 cs
    let power : Int := (excess.takeWhile isDigit).length
    let rest := excess.dropWhile isDigit
    match rest with
    | '.' :: places => readPlaces negative significand power places
    | _ =>
        if power = 0 then
          match rest with
          | 'e' :: tail => readExponent negative significand power tail
          | 'E' :: tail => readExponent negative significand power tail
          | _ => some (wholeNumber negative significand, rest)
        else readPower negative significand power rest

/-! ## Values -/

/-- What a reader wants of a value: the whole of it, or what is wanted of certain members of an
object, whose other members are read whole or passed over. An array in place of the object has the
values of these members in their order. -/
inductive Demand where
  | whole
  | members (named : List (String × Demand)) (others : Bool)
deriving Inhabited

/-- What is wanted of the member of that name, unless it is passed over. -/
def Demand.of? (name : String) : Demand → Option Demand
  | whole => some whole
  | members named others => (named.lookup name).or (if others then some whole else none)

/-- What is wanted of the first items of an array. All others are read whole. -/
def Demand.items : Demand → List Demand
  | whole => []
  | members named _ => named.map Prod.snd

/-- The demand for the members with these names and no others. -/
def Demand.only (names : List String) : Demand :=
  members (names.map fun name => (name, whole)) false

mutual
/-- Reads what is wanted of one value. `depth` more arrays and objects may be opened. -/
def readValue : Nat → Nat → Demand → List Char → Option (Json × List Char)
  | 0, _, _, _ => none
  | steps + 1, depth, demand, cs =>
      match skipSpace cs with
      | 'n' :: 'u' :: 'l' :: 'l' :: rest => some (.null, rest)
      | 't' :: 'r' :: 'u' :: 'e' :: rest => some (.bool true, rest)
      | 'f' :: 'a' :: 'l' :: 's' :: 'e' :: rest => some (.bool false, rest)
      | '"' :: rest => (readString [] rest).map fun (s, rest) => (.string s, rest)
      | '-' :: rest => readNumber true rest
      | '[' :: rest =>
          match depth with
          | 0 => none
          | depth + 1 =>
              match skipSpace rest with
              | ']' :: rest => some (.array [], rest)
              | _ => readItems steps depth demand.items [] rest
      | '\x7b' :: rest =>
          match depth with
          | 0 => none
          | depth + 1 =>
              match skipSpace rest with
              | '\x7d' :: rest => some (.object [], rest)
              | _ => readMembers steps depth demand [] rest
      | cs => readNumber false cs

/-- Reads the items of an array after `seen` in reverse. -/
def readItems : Nat → Nat → List Demand → List Json → List Char → Option (Json × List Char)
  | 0, _, _, _, _ => none
  | steps + 1, depth, demands, seen, cs =>
      match readValue steps depth (demands.headD .whole) cs with
      | none => none
      | some (item, rest) =>
          match skipSpace rest with
          | ',' :: rest => readItems steps depth demands.tail (item :: seen) rest
          | ']' :: rest => some (.array (item :: seen).reverse, rest)
          | _ => none

/-- Reads what is wanted of one member, or passes over it, in front of the members `seen`. -/
def readMember : Nat → Nat → Demand → String → List (String × Json) → List Char →
    Option (List (String × Json) × List Char)
  | 0, _, _, _, _, _ => none
  | steps + 1, depth, demand, name, seen, cs =>
      match demand.of? name with
      | none => (skipValue steps cs).map fun rest => (seen, rest)
      | some inner =>
          (readValue steps depth inner cs).map fun (value, rest) => ((name, value) :: seen, rest)

/-- Reads the members of an object after `seen` in reverse. -/
def readMembers : Nat → Nat → Demand → List (String × Json) → List Char →
    Option (Json × List Char)
  | 0, _, _, _, _ => none
  | steps + 1, depth, demand, seen, cs =>
      match skipSpace cs with
      | '"' :: rest =>
          match readString [] rest with
          | none => none
          | some (name, rest) =>
              match skipSpace rest with
              | ':' :: rest =>
                  match readMember steps depth demand name seen rest with
                  | none => none
                  | some (seen, rest) =>
                      match skipSpace rest with
                      | ',' :: rest => readMembers steps depth demand seen rest
                      | '\x7d' :: rest => some (.object seen.reverse, rest)
                      | _ => none
              | _ => none
      | _ => none
end

/-- What is wanted of the value that the characters spell. -/
def readAll (demand : Demand) (cs : List Char) : Option Json :=
  match readValue (3 * cs.length + 3) depthLimit demand cs with
  | some (value, rest) => if (skipSpace rest).isEmpty then some value else none
  | none => none

/-- The value that the text spells. -/
def read (s : String) : Option Json := readAll .whole s.toList

/-- What is wanted of the value that the text spells. -/
def readOnly (demand : Demand) (s : String) : Option Json := readAll demand s.toList

example : readOnly (.only ["a"]) "\x7b\"b\": 1e999\x7d" matches some (.object []) := by
  decide +kernel

end Stencil.Json
