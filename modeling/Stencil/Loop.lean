import Stencil.Evaluation

/-!
# Loops

What a loop goes through: one table of bindings for every round, and the scope of each round. The
variable `loop` counts the rounds.

* `Loop.scopes_length`: there is one scope for every round.
-/

namespace Stencil.Loop

/-- The variable `loop` in one of `length` rounds. -/
def counter (index length : Nat) : Value :=
  .map [("index", .ofNat (index + 1)), ("index0", .ofNat index), ("first", .bool (index == 0)),
    ("last", .bool (index + 1 == length)), ("length", .ofNat length)]

/-- The items of a value with their keys. What is no collection has none. -/
def items : Value → List (Value × Value)
  | .list items => items.zipIdx.map fun (item, i) => (.ofNat i, item)
  | .map entries => entries.map fun (key, item) => (.string key, item)
  | _ => []

/-- The integers from one bound to the other, upward or downward. -/
def integers (first last : Int) : List Value :=
  (List.range ((last - first).natAbs + 1)).map fun (i : Nat) =>
    .int (Int64.ofInt (if first ≤ last then first + i else first - i))

/-- How many integers that is, in a 64-bit word that stays at its largest value. -/
def count (first last : Int) : Nat := min ((last - first).natAbs + 1) 0xFFFFFFFFFFFFFFFF

/-- The scope of each round: the bindings of the round and the counter, inside of `scope`. -/
def scopes (scope : Scope) (rounds : List (Table Value)) : List Scope :=
  let length := rounds.length
  rounds.zipIdx.map fun (bindings, i) =>
    let inner := bindings.foldl (fun s binding => s.bind binding.1 binding.2) scope.child
    inner.bind "loop" (counter i length)

/-- The rounds of a loop over keys and items. -/
def foreachRounds (rules : Rules) (template : String) (scope : Scope) (text : String) :
    Except RenderError (List (Table Value)) := do
  let header ← Rules.reading template text (ForeachHeader.parse text)
  let source ← rules.evaluate ⟨template, none⟩ scope header.source
  return (items source).map fun (key, item) =>
    match header.key with
    | some name => [(name, key), (header.item, item)]
    | none => [(header.item, item)]

/-- The rounds of a loop with one variable. A range of more integers than the limit is an error. -/
def forRounds (rules : Rules) (limit : Nat) (template : String) (scope : Scope) (text : String) :
    Except RenderError (List (Table Value)) := do
  let header ← Rules.reading template text (ForHeader.parse text)
  match header.source with
  | .range first last =>
      let first ← rules.bound template text scope first
      let last ← rules.bound template text scope last
      if limit < count first last then .error (.loopLimit template limit)
      else return (integers first last).map fun n => [(header.name, n)]
  | .items source =>
      let source ← rules.evaluate ⟨template, none⟩ scope source
      return (items source).map fun (_, item) => [(header.name, item)]

theorem scopes_length (scope : Scope) (rounds : List (Table Value)) :
    (scopes scope rounds).length = rounds.length := by
  simp [scopes]

theorem integers_length (first last : Int) :
    (integers first last).length = (last - first).natAbs + 1 := by
  simp [integers]

end Stencil.Loop
