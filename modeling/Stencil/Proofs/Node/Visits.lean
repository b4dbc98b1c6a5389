import Mathlib.Data.List.FinRange
import Mathlib.Logic.Function.Basic
import Stencil.Node.Visitor

/-!
# Visits

What a visitor does at a node depends on what it has been given before, so that a visitor with a
state of its own, of whatever kind, needs no other memory: its state is what these nodes have made
of the first one. A visit changes nothing else of a visitor.

1. `Node.Alike.visitWithin`: traversals that keep pace at each node give the same tree.
2. `Visitor.fresh_visit`: a visitor after a visit, up to its memory.
3. `Visitor.visit_ofState`: a visitor with a state.
4. `Visitor.visitAll_forgetful`: visitors whose memory does not matter.
5. `Visitor.visitAll_places`: each visitor of a row keeps what it has become at its place.
-/

namespace Stencil

namespace Node

/-! ## Traversals side by side -/

/-- Whether two computations with states in a relation give the same, and states in the relation. -/
def Alike {σ τ α : Type} (related : σ → τ → Prop) (first : StateM σ α) (second : StateM τ α) :
    Prop :=
  ∀ s t, related s t →
    (first.run s).1 = (second.run t).1 ∧ related (first.run s).2 (second.run t).2

namespace Alike

variable {σ τ α β : Type} {related : σ → τ → Prop}

theorem pure (a : α) : Alike related (pure a : StateM σ α) (pure a : StateM τ α) :=
  fun _ _ before => ⟨rfl, before⟩

theorem bind {first : StateM σ α} {second : StateM τ α} {next : α → StateM σ β}
    {next' : α → StateM τ β} (h : Alike related first second)
    (rest : ∀ a, Alike related (next a) (next' a)) :
    Alike related (first >>= next) (second >>= next') := by
  intro s t before
  obtain ⟨same, after⟩ := h s t before
  have done := rest (first.run s).1 _ _ after
  have last : ((next' (first.run s).1).run (second.run t).2) =
      ((next' (second.run t).1).run (second.run t).2) := by rw [same]
  rw [last] at done
  exact done

theorem mapM {f : α → StateM σ β} {g : α → StateM τ β} (h : ∀ a, Alike related (f a) (g a))
    (items : List α) : Alike related (items.mapM f) (items.mapM g) := by
  induction items with
  | nil => exact pure []
  | cons a rest ih =>
      rw [List.mapM_cons, List.mapM_cons]
      exact (h a).bind fun b => ih.bind fun more => pure (b :: more)

/-- Traversals that keep pace where a node is entered and where it is left keep pace. -/
theorem visitWithin {enter leave : Node → StateM σ Node} {enter' leave' : Node → StateM τ Node}
    (entering : ∀ node, Alike related (enter node) (enter' node))
    (leaving : ∀ node, Alike related (leave node) (leave' node)) (depth : Nat) (node : Node) :
    Alike related (node.visitWithin enter leave depth) (node.visitWithin enter' leave' depth) := by
  induction depth generalizing node with
  | zero => exact pure node
  | succ depth ih =>
      rw [Node.visitWithin, Node.visitWithin]
      refine (entering node).bind fun entered => (mapM ih entered.children).bind fun below => ?_
      exact leaving (entered.withChildren below)

end Alike

end Node

namespace Visitor

/-- The visitor as if it had seen nothing. -/
def fresh (v : Visitor) : Visitor := { v with seen := [] }

theorem eq_of_fresh {v w : Visitor} (same : w.fresh = v.fresh) :
    w.priority = v.priority ∧ w.enter = v.enter ∧ w.leave = v.leave := by
  obtain ⟨samePriority, sameEnter, sameLeave, -⟩ := Visitor.mk.inj same
  exact ⟨samePriority, sameEnter, sameLeave⟩

/-! ## One visit -/

/-- A visit changes nothing of a visitor but what it has seen. -/
theorem fresh_visit (v : Visitor) (node : Node) : (v.visit node).2.value.fresh = v.fresh := by
  have step (change : Visitor → List Sight → Node → Noted Node) (sight : Node → Sight)
      (node : Node) : Node.Alike (fun s t => s = t ∧ s.value.fresh = v.fresh)
        (give change sight node) (give change sight node) := by
    rintro s _ ⟨rfl, same⟩
    exact ⟨rfl, rfl, same⟩
  exact ((Node.Alike.visitWithin (step enter .entered) (step leave .left) depthLimit node)
    ⟨v, []⟩ ⟨v, []⟩ ⟨rfl, rfl⟩).2.2

/-! ### Visitors with a state -/

section States

variable {σ : Type} (enter leave : Node → StateM σ (Noted Node))

/-- What the nodes that a visitor has been given have made of the state in which it began. -/
def stateAfter (start : σ) : List Sight → σ
  | [] => start
  | .entered node :: earlier => ((enter node).run (stateAfter start earlier)).2
  | .left node :: earlier => ((leave node).run (stateAfter start earlier)).2

/-- A visitor that goes from state to state. -/
def ofState (priority : Int) (start : σ) : Visitor where
  priority := priority
  enter seen node := ((enter node).run (stateAfter enter leave start seen)).1
  leave seen node := ((leave node).run (stateAfter enter leave start seen)).1
  seen := []

/-- A change that goes from state to state, with its notes put behind the earlier ones. -/
def noting (change : Node → StateM σ (Noted Node)) (node : Node) : StateM (σ × List String) Node :=
  fun (state, notes) =>
    let (changed, next) := (change node).run state
    (changed.value, next, notes ++ changed.notes)

/-- A visit by a visitor with a state is the traversal that hands the state on from node to node. -/
theorem visit_ofState (priority : Int) (start : σ) (seen : List Sight) (node : Node) :
    let v := { ofState enter leave priority start with seen := seen }
    let done := (node.visitWithin (noting enter) (noting leave) depthLimit).run
      (stateAfter enter leave start seen, [])
    (v.visit node).1 = done.1 ∧ (v.visit node).2.notes = done.2.2 ∧
      stateAfter enter leave start (v.visit node).2.value.seen = done.2.1 := by
  intro v done
  let inStep (s : Noted Visitor) (t : σ × List String) : Prop :=
    s.value.fresh = v.fresh ∧ stateAfter enter leave start s.value.seen = t.1 ∧ s.notes = t.2
  have entering (node : Node) :
      Node.Alike inStep (give Visitor.enter .entered node) (noting enter node) := by
    rintro s ⟨_, _⟩ ⟨same, rfl, rfl⟩
    have changed : s.value.enter s.value.seen node = v.enter s.value.seen node := by
      rw [(eq_of_fresh same).2.1]
    exact ⟨congrArg Noted.value changed, same, rfl,
      congrArg (fun changed : Noted Node => s.notes ++ changed.notes) changed⟩
  have leaving (node : Node) :
      Node.Alike inStep (give Visitor.leave .left node) (noting leave node) := by
    rintro s ⟨_, _⟩ ⟨same, rfl, rfl⟩
    have changed : s.value.leave s.value.seen node = v.leave s.value.seen node := by
      rw [(eq_of_fresh same).2.2]
    exact ⟨congrArg Noted.value changed, same, rfl,
      congrArg (fun changed : Noted Node => s.notes ++ changed.notes) changed⟩
  obtain ⟨sameTree, -, sameState, sameNotes⟩ :=
    (Node.Alike.visitWithin entering leaving depthLimit node) ⟨v, []⟩
      (stateAfter enter leave start seen, []) ⟨rfl, rfl, rfl⟩
  exact ⟨sameTree, sameNotes, sameState⟩

end States

/-! ### Visitors whose memory does not matter -/

/-- Whether what a visitor does at a node does not depend on what it has seen. -/
structure Forgetful (v : Visitor) : Prop where
  entering : ∀ seen seen' node, v.enter seen node = v.enter seen' node
  leaving : ∀ seen seen' node, v.leave seen node = v.leave seen' node

theorem forgetful_nil : ∀ v ∈ ([] : List Visitor), v.Forgetful :=
  fun _ member => absurd member List.not_mem_nil

theorem visit_forgetful {v w : Visitor} (forgets : v.Forgetful) (same : w.fresh = v.fresh)
    (node : Node) :
    (w.visit node).1 = (v.visit node).1 ∧ (w.visit node).2.notes = (v.visit node).2.notes := by
  let inStep (s t : Noted Visitor) : Prop :=
    s.value.fresh = v.fresh ∧ t.value.fresh = v.fresh ∧ s.notes = t.notes
  have step (change : Visitor → List Sight → Node → Noted Node) (sight : Node → Sight)
      (steady : ∀ {a b : Visitor}, a.fresh = v.fresh → b.fresh = v.fresh → ∀ node,
        change a a.seen node = change b b.seen node) (node : Node) :
      Node.Alike inStep (give change sight node) (give change sight node) := by
    rintro s t ⟨first, second, notes⟩
    have changed := steady first second node
    exact ⟨congrArg Noted.value changed, first, second,
      congrArg₂ (· ++ ·) notes (congrArg Noted.notes changed)⟩
  have entering := step enter .entered fun {a b} first second node => by
    rw [(eq_of_fresh first).2.1, (eq_of_fresh second).2.1]
    exact forgets.entering a.seen b.seen node
  have leaving := step leave .left fun {a b} first second node => by
    rw [(eq_of_fresh first).2.2, (eq_of_fresh second).2.2]
    exact forgets.leaving a.seen b.seen node
  obtain ⟨sameTree, -, -, sameNotes⟩ := (Node.Alike.visitWithin entering leaving depthLimit node)
    ⟨w, []⟩ ⟨v, []⟩ ⟨same, rfl, rfl⟩
  exact ⟨sameTree, sameNotes⟩

/-! ## Rows of visits -/

theorem visitAll_cons (v : Visitor) (rest : List Visitor) (node : Node) :
    visitAll (v :: rest) node =
      let first := v.visit node
      let done := visitAll rest first.1
      ⟨⟨done.value, first.2.notes ++ done.notes⟩, first.2.value :: done.visitors⟩ := rfl

theorem fresh_visitAll (vs : List Visitor) (node : Node) :
    (visitAll vs node).visitors.map fresh = vs.map fresh := by
  induction vs generalizing node with
  | nil => rfl
  | cons v rest ih => exact congrArg₂ List.cons (fresh_visit v node) (ih _)

theorem visitAll_forgetful {vs ws : List Visitor} (forget : ∀ v ∈ vs, v.Forgetful)
    (same : ws.map fresh = vs.map fresh) (node : Node) :
    (visitAll ws node).toNoted = (visitAll vs node).toNoted := by
  induction vs generalizing ws node with
  | nil =>
      obtain rfl := List.map_eq_nil_iff.1 same
      rfl
  | cons v rest ih =>
      obtain ⟨w, others, rfl, sameFirst, sameRest⟩ := List.map_eq_cons_iff.1 same
      obtain ⟨sameTree, sameNotes⟩ := visit_forgetful (forget v List.mem_cons_self) sameFirst node
      have later := ih (fun u member => forget u (List.mem_cons_of_mem v member)) sameRest
        (v.visit node).1
      rw [visitAll_cons, visitAll_cons]
      dsimp only
      rw [sameTree, sameNotes, later]

/-! ### Visitors at their places -/

variable {n : Nat}

/-- Visits a tree with the visitors at some places of a row, one after the other. What a visitor has
become by its visit is kept at its place. -/
def visitPlaces : List (Fin n) → (Fin n → Visitor) → Node → Noted Node × (Fin n → Visitor)
  | [], now, node => (⟨node, []⟩, now)
  | i :: rest, now, node =>
      let (tree, after) := (now i).visit node
      let (last, later) := visitPlaces rest (Function.update now i after.value) tree
      (⟨last.value, after.notes ++ last.notes⟩, later)

theorem visitPlaces_of_notMem {order : List (Fin n)} {i : Fin n} (absent : i ∉ order)
    (now : Fin n → Visitor) (node : Node) : (visitPlaces order now node).2 i = now i := by
  induction order generalizing now node with
  | nil => rfl
  | cons j rest ih =>
      obtain ⟨other, later⟩ := List.ne_and_not_mem_of_not_mem_cons absent
      exact (ih later _ _).trans (Function.update_of_ne other _ _)

/-- Visits leave every visitor at its place, up to its memory. -/
theorem fresh_visitPlaces (order : List (Fin n)) (now : Fin n → Visitor) (node : Node)
    (i : Fin n) : ((visitPlaces order now node).2 i).fresh = (now i).fresh := by
  induction order generalizing now node with
  | nil => rfl
  | cons j rest ih =>
      refine (ih _ _).trans ?_
      by_cases isPlace : i = j
      · subst isPlace
        rw [Function.update_self]
        exact fresh_visit _ node
      · rw [Function.update_of_ne isPlace]

theorem visitPlaces_cons (i : Fin n) (rest : List (Fin n)) (now : Fin n → Visitor) (node : Node) :
    visitPlaces (i :: rest) now node =
      let first := (now i).visit node
      let done := visitPlaces rest (Function.update now i first.2.value) first.1
      (⟨done.1.value, first.2.notes ++ done.1.notes⟩, done.2) := rfl

/-- A row of visits, as long as no visitor stands in the row twice, is one by visitors at their
places. -/
theorem visitAll_places {order : List (Fin n)} (once : order.Nodup) (now : Fin n → Visitor)
    (node : Node) :
    visitAll (order.map now) node =
      ⟨(visitPlaces order now node).1, order.map (visitPlaces order now node).2⟩ := by
  induction order generalizing now node with
  | nil => rfl
  | cons i rest ih =>
      obtain ⟨absent, onceLater⟩ := List.nodup_cons.1 once
      have untouched (v : Visitor) : rest.map now = rest.map (Function.update now i v) := by
        refine List.map_congr_left fun j member => (Function.update_of_ne ?_ _ _).symm
        rintro rfl
        exact absent member
      have kept (v : Visitor) (node : Node) :
          (visitPlaces rest (Function.update now i v) node).2 i = v :=
        (visitPlaces_of_notMem absent _ _).trans (Function.update_self _ _ _)
      rw [visitPlaces_cons, List.map_cons, List.map_cons, visitAll_cons]
      dsimp only
      rw [kept, untouched (((now i).visit node).2.value), ih onceLater]

end Visitor

end Stencil
