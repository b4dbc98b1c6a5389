import Mathlib.Data.List.Induction
import Stencil.Filter.Basic
import Stencil.Proofs.Filter.Doubles

/-!
# Sorting

Values are compared by size where both are numbers, and by their texts where not. Each of the two is an
order, and both together are none: a text can stand between two numbers in the order of texts that stand
the other way round in that of sizes. What is sorted is a row of items among which there is no such
circle.

1. `Value.compare_swap`: a comparison read the other way round.
2. `Consistent`, `consistent_of_numbers`, `consistent_of_texts`: rows of items in which the comparison is
   an order.
3. `Sorts`, `Sorts.perm`, `Sorts.ordered`, `Sorts.unique`: what a sorted row is.
4. `sort_sorts_iff`: what can be sorted is sorted, and nothing else.
-/

namespace Stencil

open Stencil.Decimal

namespace Value

theorem compare_of_numbers {a b : Value} {x y : Float} (ha : a.orderKey? = some x)
    (hb : b.orderKey? = some y) :
    a.compare b = if x < y then .lt else if y < x then .gt else .eq := by
  rw [Value.compare, ha, hb]

theorem compare_of_text {a b : Value} (h : a.orderKey? = none ∨ b.orderKey? = none) :
    a.compare b = Ord.compare a.render b.render := by
  unfold Value.compare
  split
  · next x y ha hb =>
    rw [ha, hb] at h
    rcases h with h | h <;> cases h
  · rfl

theorem compare_swap (a b : Value) : (a.compare b).swap = b.compare a := by
  cases ha : a.orderKey? with
  | none => rw [compare_of_text (.inl ha), compare_of_text (.inr ha), ← Std.OrientedCmp.eq_swap]
  | some x =>
      cases hb : b.orderKey? with
      | none => rw [compare_of_text (.inr hb), compare_of_text (.inl hb), ← Std.OrientedCmp.eq_swap]
      | some y =>
          rw [compare_of_numbers ha hb, compare_of_numbers hb ha]
          by_cases less : x < y
          · rw [if_pos less, if_neg (lt_asymm less), if_pos less]
            rfl
          · rw [if_neg less, if_neg less]
            split <;> rfl

theorem compare_self (a : Value) : a.compare a = .eq := by
  have same := compare_swap a a
  cases h : a.compare a <;> rw [h] at same <;> cases same

theorem compare_ne_gt_iff {a b : Value} : a.compare b ≠ .gt ↔ b.compare a ≠ .lt := by
  rw [← compare_swap b a, Ne, Ne, Ordering.swap_eq_gt]

end Value

namespace Filter

/-! ## Rows in which the comparison is an order -/

/-- Among the items, what is not greater than one that is not greater than a third is not greater than
the third. -/
def Consistent (items : List Value) : Prop :=
  ∀ a ∈ items, ∀ b ∈ items, ∀ c ∈ items,
    a.compare b ≠ .gt → b.compare c ≠ .gt → a.compare c ≠ .gt

theorem Consistent.of_perm {items row : List Value} (h : Consistent items) (perm : row.Perm items) :
    Consistent row :=
  fun a ha b hb c hc =>
    h a (perm.mem_iff.1 ha) b (perm.mem_iff.1 hb) c (perm.mem_iff.1 hc)

theorem Consistent.mono {items more : List Value} (h : Consistent more) (subset : items ⊆ more) :
    Consistent items :=
  fun a ha b hb c hc => h a (subset ha) b (subset hb) c (subset hc)

/-- Whether the value is an integer, or a double that is a number. -/
def IsNumber : Value → Prop
  | .int _ => True
  | .float x => x.isNaN = false
  | _ => False

theorem IsNumber.exists_key {v : Value} (h : IsNumber v) :
    ∃ x, v.orderKey? = some x ∧ x.isNaN = false := by
  cases v with
  | int n => exact ⟨_, rfl, isNaN_ofInt _⟩
  | float x => exact ⟨x, rfl, h⟩
  | _ => cases h

theorem consistent_of_numbers {items : List Value} (numbers : ∀ v ∈ items, IsNumber v) :
    Consistent items := by
  have sizes : ∀ {a b : Value} {x y : Float}, a.orderKey? = some x → b.orderKey? = some y →
      x.isNaN = false → y.isNaN = false →
      (a.compare b ≠ .gt ↔ rank x.toModel.unpack ≤ rank y.toModel.unpack) := by
    intro a b x y ha hb hx hy
    rw [← not_lt, ← lt_iff_rank hy hx, Value.compare_of_numbers ha hb]
    by_cases less : x < y
    · simp [less, lt_asymm less]
    · simp [less]
  intro a ha b hb c hc
  obtain ⟨x, isX, hx⟩ := (numbers a ha).exists_key
  obtain ⟨y, isY, hy⟩ := (numbers b hb).exists_key
  obtain ⟨z, isZ, hz⟩ := (numbers c hc).exists_key
  rw [sizes isX isY hx hy, sizes isY isZ hy hz, sizes isX isZ hx hz]
  exact le_trans

theorem consistent_of_texts {items : List Value} (texts : ∀ v ∈ items, v.orderKey? = none) :
    Consistent items := by
  intro a ha b hb c hc
  rw [Value.compare_of_text (.inl (texts a ha)), Value.compare_of_text (.inl (texts b hb)),
    Value.compare_of_text (.inl (texts a ha))]
  intro first second
  exact Ordering.isLE_iff_ne_gt.1 (Std.TransCmp.isLE_trans (Ordering.isLE_iff_ne_gt.2 first)
    (Ordering.isLE_iff_ne_gt.2 second))

/-! ## Sorted rows -/

/-- An item, with its place before sorting, may stand somewhere in front of another one: that one is not
less, and comes later of the two if they compare as equal. -/
def Precedes (earlier later : Value × Nat) : Prop :=
  later.1.compare earlier.1 ≠ .lt ∧ (earlier.1.compare later.1 = .eq → earlier.2 < later.2)

/-- The row holds the items, each in front of all that are greater or equal and come later. -/
def Sorts (items row : List Value) : Prop :=
  ∃ placed : List (Value × Nat),
    placed.Perm items.zipIdx ∧ placed.Pairwise Precedes ∧ placed.map Prod.fst = row

theorem Precedes.antisymm {a b : Value × Nat} (h : Precedes a b) : ¬Precedes b a := by
  intro back
  have same : a.1.compare b.1 = .eq := by
    have swapped := Value.compare_swap a.1 b.1
    cases isOrder : a.1.compare b.1 with
    | eq => rfl
    | lt => exact absurd isOrder back.1
    | gt =>
        rw [isOrder] at swapped
        exact absurd swapped.symm h.1
  have same' : b.1.compare a.1 = .eq := by rw [← Value.compare_swap, same]; rfl
  exact absurd (h.2 same) (Nat.lt_asymm (back.2 same'))

theorem Sorts.unique {items row row' : List Value} (h : Sorts items row) (h' : Sorts items row') :
    row = row' := by
  obtain ⟨placed, perm, ordered, rfl⟩ := h
  obtain ⟨placed', perm', ordered', rfl⟩ := h'
  rw [(perm.trans perm'.symm).eq_of_pairwise (fun a b _ _ forth back => absurd back forth.antisymm)
    ordered ordered']

/-- A sorted row holds the same items. -/
theorem Sorts.perm {items row : List Value} (h : Sorts items row) : row.Perm items := by
  obtain ⟨placed, perm, -, rfl⟩ := h
  simpa using perm.map Prod.fst

/-- In a sorted row no item is less than one in front of it. -/
theorem Sorts.ordered {items row : List Value} (h : Sorts items row) :
    row.Pairwise fun earlier later => later.compare earlier ≠ .lt := by
  obtain ⟨placed, -, ordered, rfl⟩ := h
  exact List.pairwise_map.2 (ordered.imp And.left)

/-! ## Sorting -/

/-- An item is put in behind all that are greater, in a row in falling order. -/
theorem insertSorted_split (item : Value) (falling : List Value) :
    ∃ front back, falling = front ++ back ∧ insertSorted item falling = front ++ item :: back ∧
      (∀ t ∈ front, item.compare t = .lt) ∧ ∀ top ∈ back.head?, item.compare top ≠ .lt := by
  induction falling with
  | nil => exact ⟨[], [], rfl, rfl, List.forall_mem_nil _, nofun⟩
  | cons top rest ih =>
      rw [insertSorted]
      by_cases less : item.compare top = .lt
      · obtain ⟨front, back, rfl, inserted, greater, notLess⟩ := ih
        rw [if_pos (beq_iff_eq.2 less), inserted]
        exact ⟨top :: front, back, rfl, rfl, List.forall_mem_cons.2 ⟨less, greater⟩, notLess⟩
      · rw [if_neg (mt beq_iff_eq.1 less)]
        exact ⟨[], top :: rest, rfl, rfl, List.forall_mem_nil _, by rintro t ⟨⟩; exact less⟩

/-- One more item is put in between those that are greater and one that it is not less than. -/
theorem sorted_concat (items : List Value) (item : Value) :
    ∃ front back, sorted items = front ++ back ∧ sorted (items ++ [item]) = front ++ item :: back ∧
      (∀ t ∈ back, item.compare t = .lt) ∧ ∀ top ∈ front.getLast?, item.compare top ≠ .lt := by
  obtain ⟨front, back, whole, inserted, greater, notLess⟩ :=
    insertSorted_split item (items.foldl (fun done item => insertSorted item done) [])
  refine ⟨back.reverse, front.reverse, ?_, ?_, ?_, ?_⟩
  · rw [sorted, whole, List.reverse_append]
  · rw [sorted, List.foldl_append, List.foldl_cons, List.foldl_nil, inserted]
    simp
  · simpa using greater
  · simpa using notLess

/-- What is not less than the last of a row in rising order is not less than any. -/
theorem Consistent.not_lt_of_last {row : List Value} {item : Value}
    (consistent : Consistent (item :: row))
    (ordered : row.Pairwise fun earlier later => later.compare earlier ≠ .lt)
    (last : ∀ top ∈ row.getLast?, item.compare top ≠ .lt) : ∀ t ∈ row, item.compare t ≠ .lt := by
  intro t member
  rcases List.eq_nil_or_concat row with rfl | ⟨init, top, rfl⟩
  · cases member
  · have notTop : item.compare top ≠ .lt := last top (by simp)
    have topIsItem := consistent t (List.mem_cons_of_mem _ member) top (by simp) item (by simp)
    rw [List.concat_eq_append] at ordered member
    rcases List.mem_append.1 member with early | isTop
    · have step := (List.pairwise_append.1 ordered).2.2 t early top List.mem_cons_self
      exact Value.compare_ne_gt_iff.1
        (topIsItem (Value.compare_ne_gt_iff.2 step) (Value.compare_ne_gt_iff.2 notTop))
    · cases List.mem_singleton.1 isTop
      exact notTop

/-- A sorted row stays sorted when one more item is put in behind all that are not greater. -/
theorem sorts_concat {items front back : List Value} {item : Value}
    (consistent : Consistent (items ++ [item])) (h : Sorts items (front ++ back))
    (greater : ∀ t ∈ back, item.compare t = .lt)
    (notLess : ∀ top ∈ front.getLast?, item.compare top ≠ .lt) :
    Sorts (items ++ [item]) (front ++ item :: back) := by
  have notLessThan : ∀ t ∈ front, item.compare t ≠ .lt := by
    refine Consistent.not_lt_of_last (consistent.mono ?_) (List.pairwise_append.1 h.ordered).1 notLess
    intro t member
    rcases List.mem_cons.1 member with rfl | member
    · simp
    · exact List.mem_append_left _ (h.perm.mem_iff.1 (List.mem_append_left _ member))
  obtain ⟨placed, perm, ordered, isRow⟩ := h
  obtain ⟨before, after, rfl, rfl, rfl⟩ := List.map_eq_append_iff.1 isRow
  refine ⟨before ++ (item, items.length) :: after, ?_, ?_, by simp⟩
  · rw [List.zipIdx_append]
    refine List.perm_middle.trans ((perm.cons _).trans ?_)
    simpa using (List.perm_append_singleton _ _).symm
  · rw [List.pairwise_append] at ordered
    have above : ∀ t ∈ after, Precedes (item, items.length) t := by
      intro t member
      have less := greater t.1 (List.mem_map_of_mem member)
      refine ⟨?_, fun same => ?_⟩
      · rw [← Value.compare_swap, less]
        decide
      · rw [less] at same
        cases same
    have below : ∀ t ∈ before, Precedes t (item, items.length) := by
      intro t member
      obtain ⟨-, place, -⟩ := List.mem_zipIdx (perm.mem_iff.1 (List.mem_append_left _ member))
      exact ⟨notLessThan t.1 (List.mem_map_of_mem member), fun _ => by simpa using place⟩
    refine List.pairwise_append.2 ⟨ordered.1, List.pairwise_cons.2 ⟨above, ordered.2.1⟩, ?_⟩
    intro t member u later
    rcases List.mem_cons.1 later with rfl | later
    · exact below t member
    · exact ordered.2.2 t member u later

theorem sorts_sorted {items : List Value} (consistent : Consistent items) :
    Sorts items (sorted items) := by
  induction items using List.reverseRec with
  | nil => exact ⟨[], .refl _, .nil, rfl⟩
  | append_singleton items item ih =>
      obtain ⟨front, back, whole, inserted, greater, notLess⟩ := sorted_concat items item
      rw [inserted]
      refine sorts_concat consistent ?_ greater notLess
      rw [← whole]
      exact ih (consistent.mono (List.subset_append_left _ _))

/-! ## Circles -/

/-- Three members of a row that exclude each other in a circle cannot be put in order. -/
theorem not_pairwise_of_circle {α : Type} {R : α → α → Prop} {row : List α} {x y z : α}
    (hx : x ∈ row) (hy : y ∈ row) (hz : z ∈ row) (notYX : ¬R y x) (notZY : ¬R z y) (notXZ : ¬R x z)
    (zx : z ≠ x) : ¬row.Pairwise R := by
  intro ordered
  induction row with
  | nil => cases hx
  | cons first row ih =>
      rw [List.pairwise_cons] at ordered
      rw [List.mem_cons] at hx hy hz
      -- The one that stands first would stand in front of the one that excludes it.
      rcases hx with rfl | hx
      · exact notXZ (ordered.1 z (hz.resolve_left zx))
      · rcases hy with rfl | hy
        · exact notYX (ordered.1 x hx)
        · rcases hz with rfl | hz
          · exact notZY (ordered.1 y hy)
          · exact ih hx hy hz ordered.2

/-- A circle of three items, listed in this order, has no sorted row. -/
theorem not_sorts_of_circle {a b c : Value} (rest : List Value) (ab : a.compare b ≠ .gt)
    (bc : b.compare c ≠ .gt) (ac : a.compare c = .gt) :
    ¬∃ row, Sorts (a :: b :: c :: rest) row := by
  rintro ⟨_, placed, perm, ordered, -⟩
  have notBack {u v : Value} {m n : Nat} (forth : u.compare v ≠ .gt) (first : m < n) :
      ¬Precedes (v, n) (u, m) := by
    intro back
    have same : u.compare v = .eq := by
      cases isOrder : u.compare v with
      | lt => exact absurd isOrder back.1
      | eq => rfl
      | gt => exact absurd isOrder forth
    rw [← Value.compare_swap v u, Ordering.swap_eq_eq] at same
    exact absurd (back.2 same) (Nat.lt_asymm first)
  have member {t : Value × Nat} (isItem : t ∈ (a :: b :: c :: rest).zipIdx) : t ∈ placed :=
    perm.mem_iff.2 isItem
  refine not_pairwise_of_circle (x := (a, 0)) (y := (b, 1)) (z := (c, 2)) (member ?_) (member ?_)
    (member ?_) (notBack ab (by decide)) (notBack bc (by decide)) ?_ (by simp) ordered
  · simp
  · simp
  · simp
  · intro back
    refine back.1 ?_
    rw [← Value.compare_swap, ac]
    rfl

theorem exists_perm_cons {α : Type} {a : α} {row : List α} (h : a ∈ row) :
    ∃ rest, (a :: rest).Perm row := by
  obtain ⟨before, after, rfl⟩ := List.append_of_mem h
  exact ⟨before ++ after, List.perm_middle.symm⟩

/-- Items among which the comparison is no order can be listed so that there is no sorted row. -/
theorem exists_not_sorts {items : List Value} (circular : ¬Consistent items) :
    ∃ list, list.Perm items ∧ ¬∃ row, Sorts list row := by
  simp only [Consistent, not_forall, not_not] at circular
  obtain ⟨a, ha, b, hb, c, hc, ab, bc, ac⟩ := circular
  have notAB : a ≠ b := by
    rintro rfl
    exact bc ac
  have notBC : b ≠ c := by
    rintro rfl
    exact ab ac
  have notAC : a ≠ c := by
    rintro rfl
    rw [Value.compare_self] at ac
    cases ac
  obtain ⟨others, permA⟩ := exists_perm_cons ha
  have restB := (List.mem_cons.1 (permA.mem_iff.2 hb)).resolve_left notAB.symm
  have restC := (List.mem_cons.1 (permA.mem_iff.2 hc)).resolve_left notAC.symm
  obtain ⟨others', permB⟩ := exists_perm_cons restB
  obtain ⟨rest, permC⟩ := exists_perm_cons
    ((List.mem_cons.1 (permB.mem_iff.2 restC)).resolve_left notBC.symm)
  refine ⟨a :: b :: c :: rest, ?_, not_sorts_of_circle rest ab bc ac⟩
  exact (((permC.cons b).trans permB).cons a).trans permA

/-- The filter gives a list and all its permutations as the one sorted row of each if the comparison is
an order among the items, and only then. It is one among numbers alone, and among items none of which is
a number. -/
theorem sort_sorts_iff (items args : List Value) :
    (Consistent items ↔ ∀ list, list.Perm items →
      ∃ row, sort (.list list) args = .list row ∧ Sorts list row ∧
        ∀ other, Sorts list other → other = row) ∧
    ((∀ v ∈ items, IsNumber v) → Consistent items) ∧
    ((∀ v ∈ items, v.orderKey? = none) → Consistent items) := by
  refine ⟨⟨fun consistent list perm => ?_, fun always => ?_⟩, consistent_of_numbers,
    consistent_of_texts⟩
  · have isSorted := sorts_sorted (consistent.of_perm perm)
    exact ⟨sorted list, rfl, isSorted, fun other isOther => isOther.unique isSorted⟩
  · by_contra circular
    obtain ⟨list, perm, unsorted⟩ := exists_not_sorts circular
    obtain ⟨row, -, isSorted, -⟩ := always list perm
    exact unsorted ⟨row, isSorted⟩

/-- Ten is in front of a text that is in front of nine, and nine is less than ten. -/
theorem not_sorted_mixed :
    let items := [.int 10, .string "1a", .int 9]
    sort (.list items) [] = .list items ∧ (Value.int 9).compare (.int 10) = .lt ∧
      ¬∃ row, Sorts items row := by
  intro items
  have first : (Value.int 10).compare (.string "1a") = .lt := by decide +kernel
  have second : (Value.string "1a").compare (.int 9) = .lt := by decide +kernel
  have third : (Value.int 9).compare (.int 10) = .lt := by decide +kernel
  have firstBack : (Value.string "1a").compare (.int 10) = .gt := by
    rw [← Value.compare_swap, first]
    rfl
  have secondBack : (Value.int 9).compare (.string "1a") = .gt := by
    rw [← Value.compare_swap, second]
    rfl
  have thirdBack : (Value.int 10).compare (.int 9) = .gt := by
    rw [← Value.compare_swap, third]
    rfl
  refine ⟨?_, third, not_sorts_of_circle [] ?_ ?_ thirdBack⟩
  · simp [sort, sorted, insertSorted, items, firstBack, secondBack]
  · rw [first]
    decide
  · rw [second]
    decide

end Filter

end Stencil
