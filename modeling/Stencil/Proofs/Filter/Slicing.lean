import Stencil.Proofs.Filter.Grouping

/-!
# Slices

The slice up to a place and the slice from there on are the two parts of what is cut. A place counts
from the front, or from the end where it is negative, and texts are cut between characters.

Bounds are found in 64-bit words. The sums on the way there never leave the range of words, or do so
where they are cut off at its end.

1. `bounds_until`, `bounds_from`: the bounds of the two parts.
2. `wordBounds?_eq`: words are wide enough for the bounds.
3. `slice_loses_nothing`: both parts together are the whole, and bounds lie in the sequence.
-/

namespace Stencil.Filter

open Stencil.Decimal

/-! ## The two parts -/

/-- The place among so many items that an integer names. -/
def place (length : Nat) (n : Int) : Nat :=
  if n < 0 then length - n.natAbs else min n.natAbs length

theorem bounds_from (length : Nat) (n : Int) : bounds length n none = (place length n, length) := by
  unfold bounds place
  by_cases below : n < 0
  · simp only [if_pos below, Prod.mk.injEq, and_true]
    omega
  · simp only [if_neg below, Prod.mk.injEq, and_true]
    omega

theorem bounds_until (length : Nat) (n : Int) :
    bounds length 0 (some n) = (0, place length n) := by
  unfold bounds place
  by_cases below : n < 0
  · simp only [if_pos below, lt_irrefl, if_false, Prod.mk.injEq]
    omega
  · simp only [if_neg below, lt_irrefl, if_false, Prod.mk.injEq]
    omega

theorem place_le (length : Nat) (n : Int) : place length n ≤ length := by
  unfold place
  split <;> omega

/-- A list, a map or a text. -/
def IsSequence : Value → Prop
  | .list _ | .map _ | .string _ => True
  | _ => False

/-- A list, a map or a text and its two parts. The first one has `n` items, entries or
characters. -/
inductive Cuts (n : Nat) : Value → Value → Value → Prop
  | list (front back : List Value) (size : front.length = n) :
      Cuts n (.list (front ++ back)) (.list front) (.list back)
  | map (front back : Table Value) (size : front.length = n) :
      Cuts n (.map (front ++ back)) (.map front) (.map back)
  | text (front back : List Char) (size : front.length = n) :
      Cuts n (.string (.ofList (front ++ back))) (.string (.ofList front)) (.string (.ofList back))

/-- What an integer is as the argument of a filter: the integer itself, if it is a double. -/
def argument (k : Int64) : Int := toInt64 (Float.ofInt k.toInt)

theorem integerAt?_zero (more : List Value) : integerAt? (.int 0 :: more) 0 = some 0 :=
  integerAt?_int (isDouble_of_natAbs_le (by decide)) more

/-- The items that stand in front of the place. -/
theorem between_until {α : Type} (k : Int64) (items : List α) :
    between (bounds items.length ((integerAt? [.int 0, .int k] 0).getD 0)
      (integerAt? [.int 0, .int k] 1)) items = items.take (place items.length (argument k)) := by
  rw [integerAt?_zero]
  exact congrArg (between · items) (bounds_until items.length (argument k))

/-- The items from the place on. -/
theorem between_onward {α : Type} (k : Int64) (items : List α) :
    between (bounds items.length ((integerAt? [.int k] 0).getD 0) (integerAt? [.int k] 1)) items =
      items.drop (place items.length (argument k)) := by
  have onward : bounds items.length ((integerAt? [.int k] 0).getD 0) (integerAt? [.int k] 1) =
      (place items.length (argument k), items.length) := bounds_from items.length (argument k)
  rw [onward]
  exact List.take_of_length_le (Nat.le_of_eq List.length_drop)

theorem slice_string (s : String) (args : List Value) :
    slice (.string s) args = .string (.ofList (between
      (bounds s.toList.length ((integerAt? args 0).getD 0) (integerAt? args 1)) s.toList)) := rfl

theorem slice_cuts {v : Value} (sequence : IsSequence v) (k : Int64) :
    Cuts (place v.length (argument k)) v (slice v [.int 0, .int k]) (slice v [.int k]) := by
  have size {α : Type} (items : List α) :
      (items.take (place items.length (argument k))).length = place items.length (argument k) :=
    List.length_take_of_le (place_le _ _)
  cases v with
  | list items =>
      rw [slice, slice, between_until, between_onward]
      have cut := Cuts.list _ (items.drop (place items.length (argument k))) (size items)
      rwa [List.take_append_drop] at cut
  | map entries =>
      rw [slice, slice, between_until, between_onward]
      have cut := Cuts.map _ (entries.drop (place entries.length (argument k))) (size entries)
      rwa [List.take_append_drop] at cut
  | string s =>
      rw [slice_string, slice_string, between_until, between_onward]
      have cut := Cuts.text _ (s.toList.drop (place s.toList.length (argument k))) (size s.toList)
      rwa [List.take_append_drop, String.ofList_toList, String.length_toList] at cut
  | null | bool _ | int _ | float _ => cases sequence

/-! ## Bounds in words -/

/-- The sum of two words, if it is a word. -/
def sumWord? (a b : Int64) : Option Int64 :=
  if -2 ^ 63 ≤ a.toInt + b.toInt ∧ a.toInt + b.toInt < 2 ^ 63 then some (a + b) else none

/-- The sum of two words, or the end of the range of words that it is beyond. -/
def saturatedSum (a b : Int64) : Int64 :=
  Int64.ofInt (clamp (-2 ^ 63) (2 ^ 63 - 1) (a.toInt + b.toInt))

/-- The lower bound of a slice, if the sum on the way to it is a word. -/
def lowerWord? (length start : Int64) : Option Int64 :=
  if start < 0 then (sumWord? length start).map (max · 0) else some (min start length)

/-- The upper bound of a slice, if the sum on the way to it is a word. -/
def upperWord? (length lower : Int64) : Option Int64 → Option Int64
  | none => some length
  | some n =>
      if n < 0 then (sumWord? length n).map (max · lower)
      else some (min (saturatedSum lower n) length)

/-- The bounds of a slice, found in words. -/
def wordBounds? (length start : Int64) (count : Option Int64) : Option (Int64 × Int64) := do
  let lower ← lowerWord? length start
  let upper ← upperWord? length lower count
  return (lower, upper)

theorem sumWord?_eq (a b : Int64) (low : -2 ^ 63 ≤ a.toInt + b.toInt)
    (high : a.toInt + b.toInt < 2 ^ 63) :
    ∃ c, sumWord? a b = some c ∧ c.toInt = a.toInt + b.toInt := by
  refine ⟨a + b, if_pos ⟨low, high⟩, ?_⟩
  rw [Int64.toInt_add]
  exact Int.bmod_eq_of_le (by omega) (by omega)

theorem toInt_saturatedSum (a b : Int64) :
    (saturatedSum a b).toInt = clamp (-2 ^ 63) (2 ^ 63 - 1) (a.toInt + b.toInt) := by
  have ⟨least, most⟩ : -2 ^ 63 ≤ clamp (-2 ^ 63) (2 ^ 63 - 1) (a.toInt + b.toInt) ∧
      clamp (-2 ^ 63) (2 ^ 63 - 1) (a.toInt + b.toInt) ≤ 2 ^ 63 - 1 := clamp_bounds (by decide)
  exact Int64.toInt_ofInt_of_le least (Int.lt_of_le_sub_one most)

theorem toInt_max (a b : Int64) : (max a b).toInt = max a.toInt b.toInt := by
  show (if a ≤ b then b else a).toInt = _
  split
  · next below => rw [max_eq_right (Int64.le_iff_toInt_le.1 below)]
  · next above => rw [max_eq_left (Int.le_of_not_le (mt Int64.le_iff_toInt_le.2 above))]

theorem toInt_min (a b : Int64) : (min a b).toInt = min a.toInt b.toInt := by
  show (if a ≤ b then a else b).toInt = _
  split
  · next below => rw [min_eq_left (Int64.le_iff_toInt_le.1 below)]
  · next above => rw [min_eq_right (Int.le_of_not_le (mt Int64.le_iff_toInt_le.2 above))]

theorem lowerWord?_eq {length : Int64} (real : 0 ≤ length.toInt) (start : Int64) :
    ∃ lower, lowerWord? length start = some lower ∧
      lower.toInt = if start.toInt < 0 then max (length.toInt + start.toInt) 0
        else min start.toInt length.toInt := by
  have least := start.le_toInt
  have most := length.toInt_lt
  unfold lowerWord?
  by_cases below : start < 0
  · have negative : start.toInt < 0 := Int64.lt_iff_toInt_lt.1 below
    obtain ⟨sum, isSum, eq⟩ := sumWord?_eq length start (by omega) (by omega)
    refine ⟨max sum 0, by rw [if_pos below, isSum, Option.map_some], ?_⟩
    rw [toInt_max, eq, if_pos negative, Int64.toInt_zero]
  · have natural : ¬start.toInt < 0 := fun negative => below (Int64.lt_iff_toInt_lt.2 negative)
    exact ⟨min start length, if_neg below, by rw [toInt_min, if_neg natural]⟩

theorem upperWord?_eq {length lower : Int64} (real : 0 ≤ lower.toInt)
    (inside : lower.toInt ≤ length.toInt) (count : Option Int64) :
    ∃ upper, upperWord? length lower count = some upper ∧
      upper.toInt = match count with
        | none => length.toInt
        | some n => if n.toInt < 0 then max (length.toInt + n.toInt) lower.toInt
            else min (lower.toInt + n.toInt) length.toInt := by
  have most := length.toInt_lt
  cases count with
  | none => exact ⟨length, rfl, rfl⟩
  | some n =>
      have least := n.le_toInt
      simp only [upperWord?]
      by_cases below : n < 0
      · have negative : n.toInt < 0 := Int64.lt_iff_toInt_lt.1 below
        obtain ⟨sum, isSum, eq⟩ := sumWord?_eq length n (by omega) (by omega)
        refine ⟨max sum lower, by rw [if_pos below, isSum, Option.map_some], ?_⟩
        rw [toInt_max, eq, if_pos negative]
      · have natural : ¬n.toInt < 0 := fun negative => below (Int64.lt_iff_toInt_lt.2 negative)
        refine ⟨min (saturatedSum lower n) length, if_neg below, ?_⟩
        -- A sum that is cut off is beyond the length anyway.
        rw [toInt_min, toInt_saturatedSum, if_neg natural, clamp]
        split
        · omega
        · split <;> omega

theorem lower_bounds (length : Nat) (start : Int) (count : Option Int) :
    ((bounds length start count).1 : Int) =
      if start < 0 then max (length + start) 0 else min start length := by
  have natural : 0 ≤ if start < 0 then max (length + start) 0 else min start (length : Int) := by
    split <;> omega
  cases count <;> exact Int.toNat_of_nonneg natural

theorem upper_bounds (length : Nat) (start : Int) (count : Option Int) :
    ((bounds length start count).2 : Int) = match count with
      | none => (length : Int)
      | some n => if n < 0 then max (length + n) (bounds length start count).1
          else min ((bounds length start count).1 + n) length := by
  cases count with
  | none => rfl
  | some n =>
      refine Int.toNat_of_nonneg ?_
      split <;> omega

/-- Words are wide enough: whatever length, start and count they hold, the bounds of the slice are
found. -/
theorem wordBounds?_eq {length : Nat} (fits : length < 2 ^ 63) (start : Int64)
    (count : Option Int64) :
    ∃ lower upper, wordBounds? (Int64.ofNat length) start count = some (lower, upper) ∧
      lower.toInt = (bounds length start.toInt (count.map Int64.toInt)).1 ∧
      upper.toInt = (bounds length start.toInt (count.map Int64.toInt)).2 := by
  have isLength : (Int64.ofNat length).toInt = length := Int64.toInt_ofNat_of_lt fits
  obtain ⟨lower, foundLower, isLower⟩ :=
    lowerWord?_eq (isLength ▸ Int.natCast_nonneg length) start
  rw [isLength, ← lower_bounds length start.toInt (count.map Int64.toInt)] at isLower
  have within := bounds_within length start.toInt (count.map Int64.toInt)
  have natural : 0 ≤ lower.toInt := by omega
  have inside : lower.toInt ≤ (Int64.ofNat length).toInt := by omega
  obtain ⟨upper, foundUpper, isUpper⟩ := upperWord?_eq natural inside count
  refine ⟨lower, upper, ?_, isLower, ?_⟩
  · rw [wordBounds?, foundLower]
    show (upperWord? _ lower count).bind _ = _
    rw [foundUpper]
    rfl
  · rw [isUpper, upper_bounds, isLength, isLower]
    cases count <;> rfl

/-! ## Nothing is lost -/

/-- A list, a map or a text is cut in two by any integer, so that both parts one after the other are
the whole: up to the place that the integer names, and from there on. In 64-bit words the bounds of
a slice are found whatever its length, start and count are, no sum leaves the range on the way, and
they lie in the sequence, the lower one first. -/
theorem slice_loses_nothing :
    (∀ v, IsSequence v → ∀ k : Int64,
      Cuts (place v.length (argument k)) v (slice v [.int 0, .int k]) (slice v [.int k])) ∧
    ∀ length : Nat, length < 2 ^ 63 → ∀ (start : Int64) (count : Option Int64),
      ∃ lower upper : Int64, wordBounds? (Int64.ofNat length) start count = some (lower, upper) ∧
        bounds length start.toInt (count.map Int64.toInt) =
          (lower.toInt.toNat, upper.toInt.toNat) ∧
        0 ≤ lower.toInt ∧ lower.toInt ≤ upper.toInt ∧ upper.toInt ≤ length := by
  refine ⟨fun v sequence k => slice_cuts sequence k, fun length fits start count => ?_⟩
  obtain ⟨lower, upper, found, isLower, isUpper⟩ := wordBounds?_eq fits start count
  have within := bounds_within length start.toInt (count.map Int64.toInt)
  refine ⟨lower, upper, found, ?_, by omega, by omega, by omega⟩
  rw [isLower, isUpper]
  rfl

theorem slice_loses_nothing_accented :
    IsSequence (.string "héllo") ∧ slice (.string "héllo") [.int 0, .int (-3)] = .string "hé" ∧
      slice (.string "héllo") [.int (-3)] = .string "llo" ∧
      Cuts 2 (.string "héllo") (.string "hé") (.string "llo") ∧
      5 < 2 ^ 63 ∧ wordBounds? 5 Int64.minValue (some Int64.maxValue) = some (0, 5) := by
  have exact : argument (-3) = -3 := toInt64_ofInt_of_isDouble (isDouble_of_natAbs_le (by decide))
  have front : slice (.string "héllo") [.int 0, .int (-3)] = .string "hé" := by
    rw [slice_string, between_until, exact]
    exact congrArg Value.string (by decide)
  have back : slice (.string "héllo") [.int (-3)] = .string "llo" := by
    rw [slice_string, between_onward, exact]
    exact congrArg Value.string (by decide)
  have cut := slice_loses_nothing.1 (.string "héllo") trivial (-3)
  rw [front, back, exact] at cut
  obtain ⟨lower, upper, found, same, low, order, high⟩ :=
    slice_loses_nothing.2 5 (by decide) Int64.minValue (some Int64.maxValue)
  refine ⟨trivial, front, back, cut, by decide, found.trans ?_⟩
  have whole : bounds 5 Int64.minValue.toInt (some Int64.maxValue.toInt) = (0, 5) := by decide
  rw [Option.map_some, whole, Prod.mk.injEq] at same
  have atStart : lower = 0 := Int64.toInt_inj.1 (by rw [Int64.toInt_zero]; omega)
  have atEnd : upper = 5 := Int64.toInt_inj.1 (by show upper.toInt = 5; omega)
  rw [atStart, atEnd]

end Stencil.Filter
