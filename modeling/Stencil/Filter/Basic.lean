import Stencil.Value

/-!
# Filters

A filter makes a value of a value and some arguments. Those for texts work on the rendered text.

* `sorted_perm`: sorting keeps every item.
* `bounds_within`: the bounds of a slice lie in the sequence, the lower one first.
-/

namespace Stencil

/-- A filter: the result for a value and the arguments. -/
abbrev Filter := Value → List Value → Value

namespace Filter

open Stencil.Decimal

/-- The filter that maps the rendered text. -/
def onText (f : String → String) : Filter := fun v _ => .string (f v.render)

/-- The argument at a place as a number. -/
def numberAt? (args : List Value) (place : Nat) : Option Float := args[place]?.bind Value.number?

/-- The argument at a place as an integer. -/
def integerAt? (args : List Value) (place : Nat) : Option Int := (numberAt? args place).map toInt64

/-! ## Collections -/

/-- The items of a list or a map. -/
def items? : Value → Option (List Value)
  | .list items => some items
  | .map entries => some (entries.map Prod.snd)
  | _ => none

/-- The first item of a collection. -/
def first : Filter := fun v _ => ((items? v).bind List.head?).getD .null

/-- The last item of a collection. -/
def last : Filter := fun v _ => ((items? v).bind List.getLast?).getD .null

/-- The number of items, or of characters. -/
def length : Filter := fun v _ => .ofNat v.length

/-- The items backwards, or the text. -/
def reverse : Filter := fun v _ =>
  match v with
  | .list items => .list items.reverse
  | _ => .string (String.ofList v.render.toList.reverse)

/-- The rendered items with the first argument between them. -/
def join : Filter := fun v args =>
  match items? v with
  | some items =>
      .string (((args.head?.map Value.render).getD "").intercalate (items.map Value.render))
  | none => v

/-- The keys of a map, the indices of a list. -/
def keys : Filter := fun v _ =>
  match v with
  | .map entries => .list (entries.map fun entry => .string entry.1)
  | .list items => .list ((List.range items.length).map .ofNat)
  | _ => .list []

/-- The items of a collection. -/
def values : Filter := fun v _ => .list ((items? v).getD [])

/-- Puts an item behind the last one that is not greater. The items stand in falling order. -/
def insertSorted (item : Value) : List Value → List Value
  | [] => [item]
  | top :: rest =>
      if item.compare top == .lt then top :: insertSorted item rest else item :: top :: rest

/-- The items in rising order. Items that compare as equal keep their order. -/
def sorted (items : List Value) : List Value :=
  (items.foldl (fun done item => insertSorted item done) []).reverse

/-- The items of a list in rising order. -/
def sort : Filter := fun v _ =>
  match v with
  | .list items => .list (sorted items)
  | _ => v

/-! ## Slices -/

/-- The lower and the upper bound of a slice. A negative start counts from the end, and a negative
count leaves that many items at the end out. -/
def bounds (length : Nat) (start : Int) (count : Option Int) : Nat × Nat :=
  let lower := (if start < 0 then max (length + start) 0 else min start length).toNat
  match count with
  | none => (lower, length)
  | some n => (lower, (if n < 0 then max (length + n) lower else min (lower + n) length).toNat)

/-- The items between the bounds. -/
def between {α : Type} (range : Nat × Nat) (items : List α) : List α :=
  (items.drop range.1).take (range.2 - range.1)

/-- A part of a list, of a map or of a text. -/
def slice : Filter := fun v args =>
  let range (length : Nat) := bounds length ((integerAt? args 0).getD 0) (integerAt? args 1)
  match v with
  | .list items => .list (between (range items.length) items)
  | .map entries => .map (between (range entries.length) entries)
  | _ =>
      let cs := v.render.toList
      .string (String.ofList (between (range cs.length) cs))

/-! ## Any value -/

/-- The value, or the argument in place of one that does not count as true. -/
def orDefault : Filter := fun v args => if v.truthy then v else args.head?.getD (.string "")

/-- The value as JSON text. -/
def json : Filter := fun v _ => .string v.toJson.compact

theorem insertSorted_perm (item : Value) (items : List Value) :
    (insertSorted item items).Perm (item :: items) := by
  induction items with
  | nil => exact .refl _
  | cons top rest ih =>
      simp only [insertSorted]
      split
      · exact (ih.cons top).trans (.swap item top rest)
      · exact .refl _

theorem sorted_perm (items : List Value) : (sorted items).Perm items := by
  have grown : ∀ (more done : List Value),
      (more.foldl (fun done item => insertSorted item done) done).Perm (done ++ more) := by
    intro more
    induction more with
    | nil => intro done; simp
    | cons item more ih =>
        intro done
        refine (ih _).trans ?_
        refine ((insertSorted_perm item done).append_right more).trans ?_
        exact List.perm_middle.symm
  exact (List.reverse_perm _).trans (by simpa using grown items [])

theorem bounds_within (length : Nat) (start : Int) (count : Option Int) :
    (bounds length start count).1 ≤ (bounds length start count).2 ∧
      (bounds length start count).2 ≤ length := by
  unfold bounds
  cases count with
  | none => dsimp only; omega
  | some n => dsimp only; omega

end Filter

end Stencil
