import Stencil.Decimal.Layout
import Stencil.Decimal.Numeral
import Stencil.Json.Writer
import Stencil.Table
import Stencil.Text.Blank

/-!
# Values

What a variable can hold: JSON data with 64-bit integers apart from doubles, and maps that keep the
order of their entries.

* `Value.ofJson`, `Value.toJson`: from and to JSON.
* `Value.compare`: the order of sorting.
-/

namespace Stencil

open Stencil.Decimal
open Stencil.Text

/-- The value of a variable. -/
inductive Value where
  | null
  | bool (b : Bool)
  | int (n : Int64)
  | float (x : Float)
  | string (s : String)
  | list (items : List Value)
  | map (entries : List (String × Value))
deriving Inhabited

/-- One step of a path into a value: a key or an index. -/
inductive Segment where
  | key (name : String)
  | index (n : Nat)
deriving DecidableEq, Repr

namespace Value

/-- An integer that is known to fit. -/
def ofNat (n : Nat) : Value := .int (Int64.ofNat n)

/-- The text of an integer. -/
def intText (n : Int64) : String := ofInt n.toInt

/-! ## From and to JSON -/

/-- The integer if it fits 64 bits with a sign, else the nearest double. -/
def ofInteger (n : Int) : Value :=
  if -0x8000000000000000 ≤ n ∧ n < 0x8000000000000000 then .int (Int64.ofInt n)
  else .float (Float.ofInt n)

mutual
/-- The value that JSON data stands for. Of members with one name the last one counts, at the place
of the first. -/
def ofJson : Json → Value
  | .null => .null
  | .bool b => .bool b
  | .integer n => ofInteger n
  | .float x => .float x
  | .string s => .string s
  | .array items => .list (ofJsonItems items)
  | .object members => .map (ofJsonMembers [] members)

/-- The values of a row of items. -/
def ofJsonItems : List Json → List Value
  | [] => []
  | item :: rest => ofJson item :: ofJsonItems rest

/-- The entries of a row of members, entered into `seen`. -/
def ofJsonMembers (seen : Table Value) : List (String × Json) → Table Value
  | [] => seen
  | (name, value) :: rest => ofJsonMembers (Table.set seen name (ofJson value)) rest
end

/-- A double as JSON has it: null where it is not finite. -/
def finiteJson (x : Float) : Json :=
  match Decimal.read x with
  | .finite _ => .float x
  | _ => .null

mutual
/-- The value as JSON data. -/
def toJson : Value → Json
  | null => .null
  | bool b => .bool b
  | int n => .integer n.toInt
  | float x => finiteJson x
  | string s => .string s
  | list items => .array (toJsonItems items)
  | map entries => .object (toJsonMembers entries)

/-- The items as JSON data. -/
def toJsonItems : List Value → List Json
  | [] => []
  | item :: rest => toJson item :: toJsonItems rest

/-- The entries as JSON data. -/
def toJsonMembers : List (String × Value) → List (String × Json)
  | [] => []
  | (name, value) :: rest => (name, toJson value) :: toJsonMembers rest
end

/-! ## Views -/

/-- The text that stands for the value in output: nothing for null, JSON for lists and maps. -/
def render : Value → String
  | null => ""
  | bool b => if b then "true" else "false"
  | int n => intText n
  | float x => toPlain x
  | string s => s
  | v => (toJson v).compact

/-- Whether the value counts as true in a condition. -/
def truthy : Value → Bool
  | null => false
  | bool b => b
  | int n => n != 0
  | float x => !(x == 0.0)
  | string s => s != "" && s != "0"
  | list items => !items.isEmpty
  | map entries => !entries.isEmpty

/-- The number that the value stands for, if any. A text stands for the number it spells. -/
def number? : Value → Option Float
  | int n => some (Float.ofInt n.toInt)
  | float x => some x
  | bool b => some (if b then 1.0 else 0.0)
  | string s => double? (trimmed s.toList)
  | _ => none

/-- The number of items, or of characters in the rendered text. -/
def length : Value → Nat
  | null => 0
  | list items => items.length
  | map entries => entries.length
  | v => v.render.length

/-- The part of the value at a segment. Maps have keys and lists indices; a row of digits serves as
either. -/
def get? : Value → Segment → Option Value
  | map entries, .key name => Table.get? entries name
  | map entries, .index n => Table.get? entries (toString n)
  | list items, .index n => items[n]?
  | list items, .key name => (word? name.toList).bind fun n => items[n]?
  | _, _ => none

/-- The part of the value at the end of a path. -/
def at? (v : Value) : List Segment → Option Value
  | [] => some v
  | segment :: path =>
      match v.get? segment with
      | some part => part.at? path
      | none => none

/-! ## Order and equality -/

/-- The number that orders the value, if it is one. -/
def orderKey? : Value → Option Float
  | int n => some (Float.ofInt n.toInt)
  | float x => some x
  | _ => none

/-- Numbers by size, all else by the rendered text. -/
def compare (a b : Value) : Ordering :=
  match a.orderKey?, b.orderKey? with
  | some x, some y => if x < y then .lt else if y < x then .gt else .eq
  | _, _ => Ord.compare a.render b.render

mutual
/-- Equality of values: an integer is no double, and maps have the same entries in one order. -/
def same : Value → Value → Bool
  | null, null => true
  | bool a, bool b => a == b
  | int a, int b => a == b
  | float a, float b => a == b
  | string a, string b => a == b
  | list a, list b => sameItems a b
  | map a, map b => sameEntries a b
  | _, _ => false

/-- Equality of items, one by one. -/
def sameItems : List Value → List Value → Bool
  | [], [] => true
  | a :: as, b :: bs => same a b && sameItems as bs
  | _, _ => false

/-- Equality of entries, one by one. -/
def sameEntries : List (String × Value) → List (String × Value) → Bool
  | [], [] => true
  | (m, a) :: as, (n, b) :: bs => m == n && same a b && sameEntries as bs
  | _, _ => false
end

instance : BEq Value := ⟨same⟩

theorem at?_append (v : Value) (p q : List Segment) :
    v.at? (p ++ q) = (v.at? p).bind fun part => part.at? q := by
  induction p generalizing v with
  | nil => simp [at?]
  | cons segment path ih =>
      simp only [List.cons_append, at?]
      cases v.get? segment with
      | none => rfl
      | some part => exact ih part

end Value

end Stencil
