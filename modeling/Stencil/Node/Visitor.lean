import Stencil.Node.Basic

/-!
# Visitors

A visitor changes a tree from the top down and back up, and may leave notes about what it saw. What
it has seen it remembers, in this tree and in those after it.
-/

namespace Stencil

/-- Goes through a tree down to a depth. A node is entered, the nodes below what that gives are gone
through, and the result is left. -/
def Node.visitWithin {σ : Type} (enter leave : Node → StateM σ Node) :
    Nat → Node → StateM σ Node
  | 0, node => return node
  | depth + 1, node => do
      let entered ← enter node
      let below ← entered.children.mapM (visitWithin enter leave depth)
      leave (entered.withChildren below)

/-- A value and the notes left while it was made. -/
structure Noted (α : Type) where
  value : α
  notes : List String

/-- A node that a visitor was given, before or after the nodes below it were visited. -/
inductive Sight where
  | entered (node : Node)
  | left (node : Node)

/-- Two changes of a node, one before and one after the nodes below it are visited. Both may depend
on all that the visitor has seen before, the latest first, and so on whatever state it keeps. Of
several visitors the one with the highest priority runs first. -/
structure Visitor where
  priority : Int
  enter : List Sight → Node → Noted Node
  leave : List Sight → Node → Noted Node
  seen : List Sight

/-- A value that visitors had a part in, and the visitors as they are by then. -/
structure Visited (α : Type) extends Noted α where
  visitors : List Visitor

namespace Visitor

/-- How deep a visit goes. A visitor that puts a node of the same kind below each node it enters
would never come to an end. -/
def depthLimit : Nat := 1000000

/-- Gives a node to a visitor at work, which keeps in mind that it has seen it. -/
def give (change : Visitor → List Sight → Node → Noted Node) (sight : Node → Sight)
    (node : Node) : StateM (Noted Visitor) Node := fun ⟨v, notes⟩ =>
  let changed := change v v.seen node
  (changed.value, ⟨{ v with seen := sight node :: v.seen }, notes ++ changed.notes⟩)

/-- Visits a tree. -/
def visit (v : Visitor) (node : Node) : Node × Noted Visitor :=
  (Node.visitWithin (give enter .entered) (give leave .left) depthLimit node).run ⟨v, []⟩

/-- Visits a tree with one visitor after the other. -/
def visitAll : List Visitor → Node → Visited Node
  | [], node => ⟨⟨node, []⟩, []⟩
  | v :: rest, node =>
      let (tree, after) := v.visit node
      let last := visitAll rest tree
      ⟨⟨last.value, after.notes ++ last.notes⟩, after.value :: last.visitors⟩

/-- The visitors by falling priority. Those of one priority keep their order. -/
def ordered (vs : List Visitor) : List Visitor :=
  vs.mergeSort fun a b => b.priority ≤ a.priority

end Visitor

end Stencil
