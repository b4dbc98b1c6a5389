import Mathlib.Algebra.Order.Group.Int
import Mathlib.Data.Prod.Lex
import Stencil.Value

/-!
# The order of doubles

Doubles that are numbers stand in one row, in which zero is one place. What is no number is neither
smaller nor greater than anything. An integer stands for a double that is a number.

1. `rank`, `lt_iff_rank`: the row.
2. `lt_asymm`: no double is smaller and greater than another one.
3. `isNaN_ofInt`: integers as doubles.
-/

namespace Stencil.Decimal

open Float.Model (UnpackedFloat)
open Float.Model.UnpackedFloat

/-! ## Size -/

/-- The place of a double in the order of all: infinities outside, zeros in the middle, and finite
numbers by exponent before mantissa. -/
def rank : UnpackedFloat → ℤ ×ₗ ℤ ×ₗ ℤ
  | .infinity .negative => toLex (-2, toLex (0, 0))
  | .finite .negative m e _ => toLex (-1, toLex (-e, -(m : ℤ)))
  | .zero _ | .notANumber => toLex (0, toLex (0, 0))
  | .finite .positive m e _ => toLex (1, toLex (e, (m : ℤ)))
  | .infinity .positive => toLex (2, toLex (0, 0))

theorem then_eq_lt {e e' : ℤ} {m m' : ℕ} :
    (compare e e').then (compare m m') = .lt ↔ e < e' ∨ e = e' ∧ m < m' := by
  rw [Ordering.then_eq_lt, compare_lt_iff_lt, compare_eq_iff_eq, compare_lt_iff_lt]

theorem then_eq_gt {e e' : ℤ} {m m' : ℕ} :
    (compare e e').then (compare m m') = .gt ↔ e' < e ∨ e = e' ∧ m' < m := by
  rw [Ordering.then_eq_gt, compare_gt_iff_gt, compare_eq_iff_eq, compare_gt_iff_gt]

theorem unpacked_lt_iff_rank {a b : UnpackedFloat} (ha : a.isNaN = false) (hb : b.isNaN = false) :
    a.lt b = true ↔ rank a < rank b := by
  have signs : compare Sign.negative Sign.positive = .lt := rfl
  rcases a with ⟨_ | _⟩ | _ | _ | ⟨_ | _, m, e, _⟩
  case notANumber => cases ha
  all_goals
    rcases b with ⟨_ | _⟩ | _ | _ | ⟨_ | _, m', e', _⟩
    case notANumber => cases hb
    all_goals
      dsimp only [UnpackedFloat.lt, UnpackedFloat.compare, rank]
      simp [Prod.Lex.toLex_lt_toLex, then_eq_lt, then_eq_gt, signs]

theorem isNaN_of_unpacked_lt {a b : UnpackedFloat} (h : a.lt b = true) :
    a.isNaN = false ∧ b.isNaN = false := by
  cases a <;> cases b <;>
    first
    | exact ⟨rfl, rfl⟩
    | cases h

theorem lt_iff {x y : Float} : x < y ↔ x.toModel.unpack.lt y.toModel.unpack = true := by
  show (decide (x.toModel < y.toModel)) = true ↔ _
  rw [decide_eq_true_iff]
  rfl

theorem isNaN_of_lt {x y : Float} (h : x < y) : x.isNaN = false ∧ y.isNaN = false :=
  isNaN_of_unpacked_lt (lt_iff.1 h)

theorem lt_iff_rank {x y : Float} (hx : x.isNaN = false) (hy : y.isNaN = false) :
    x < y ↔ rank x.toModel.unpack < rank y.toModel.unpack :=
  lt_iff.trans (unpacked_lt_iff_rank hx hy)

theorem lt_asymm {x y : Float} (h : x < y) : ¬y < x := by
  obtain ⟨hx, hy⟩ := isNaN_of_lt h
  rw [lt_iff_rank hy hx]
  exact ((lt_iff_rank hx hy).1 h).asymm

/-! ## Integers -/

open Float.Model (Format) in
/-- A packed double is no number if all of the exponent is set, and some of the mantissa. -/
theorem isNaN_unpack {spec : Format} (b : BitVec spec.numBits) :
    (unpack spec b).isNaN = true ↔ unpackExponent b = -1#_ ∧ unpackMantissa b ≠ 0#_ := by
  dsimp only [unpack]
  by_cases all : unpackExponent b = -1#_
  · rw [if_pos all]
    by_cases none : unpackMantissa b = 0#_
    · rw [if_pos none]
      exact iff_of_false Bool.false_ne_true fun h => h.2 none
    · rw [if_neg none]
      exact iff_of_true rfl ⟨all, none⟩
  · rw [if_neg all]
    refine iff_of_false ?_ fun h => all h.1
    by_cases small : unpackExponent b = 0#_
    · rw [if_pos small]
      by_cases none : unpackMantissa b = 0#_
      · rw [dif_pos none]
        exact Bool.false_ne_true
      · rw [dif_neg none]
        exact Bool.false_ne_true
    · rw [if_neg small]
      exact Bool.false_ne_true

open Float.Model (Format) in
/-- What is packed stays a number. Only its exponent can become that of an infinity. -/
theorem isNaN_unpack_pack {spec : Format} {f : UnpackedFloat} (h : f.isNaN = false) :
    (unpack spec (pack spec f)).isNaN = false := by
  rw [Bool.eq_false_iff, Ne, isNaN_unpack]
  fun_cases pack spec f with
  | case1 => cases h
  | case2 s => simp [packedInfinity]
  | case3 s => simp [packedZero]
  | case4 s m e hm biased large => simp [packedInfinity]
  | case5 s m e hm bits biased small normal =>
      have partly : BitVec.ofNat spec.exponentBits biased ≠ -1#_ := by
        intro all
        have values := congrArg BitVec.toNat all
        rw [BitVec.toNat_ofNat, Nat.mod_eq_of_lt (by omega), BitVec.neg_one_eq_allOnes,
          BitVec.toNat_allOnes] at values
        omega
      simp [partly]
  | case6 s m e hm bits biased small normal => simp [Nat.pos_iff_ne_zero.1 spec.he]

theorem isNaN_pack {f : UnpackedFloat} (h : f.isNaN = false) :
    (Float.Model.pack f).unpack.isNaN = false := isNaN_unpack_pack h

theorem isNaN_dite {p : Prop} [Decidable p] {a : p → UnpackedFloat} {b : ¬p → UnpackedFloat}
    (ha : ∀ h, (a h).isNaN = false) (hb : ∀ h, (b h).isNaN = false) :
    (dite p a b).isNaN = false := by
  by_cases h : p
  · rw [dif_pos h]
    exact ha h
  · rw [dif_neg h]
    exact hb h

theorem isNaN_roundWithAccuracy (spec : Float.Model.Format) (s : Sign) (m : ℕ) (e : ℤ)
    (a : Accuracy) : (roundWithAccuracy spec s m e a).isNaN = false := by
  dsimp only [roundWithAccuracy]
  exact isNaN_dite (fun _ => rfl) fun _ => rfl

theorem isNaN_normalize (spec : Float.Model.Format) (m e : ℤ) (s : Sign) :
    (UnpackedFloat.normalize spec m e s).isNaN = false := by
  unfold UnpackedFloat.normalize
  split
  · exact isNaN_roundWithAccuracy ..
  · rfl
  · exact isNaN_roundWithAccuracy ..

/-- A product with a finite number is no number only if the other factor is none. -/
theorem isNaN_mul_finite {spec : Float.Model.Format} {a b : UnpackedFloat} (ha : a.isNaN = false)
    {s : Sign} {m : ℕ} {e : ℤ} {hm : 0 < m} (hb : b = .finite s m e hm) :
    (mul spec a b).isNaN = false := by
  subst hb
  cases a with
  | notANumber => cases ha
  | finite => exact isNaN_roundWithAccuracy ..
  | _ => rfl

theorem isNaN_neg {x : Float} (h : x.isNaN = false) : x.neg.isNaN = false := by
  refine isNaN_pack ?_
  have h : x.toModel.unpack.isNaN = false := h
  revert h
  cases x.toModel.unpack with
  | notANumber => nofun
  | _ => exact fun _ => rfl

theorem isNaN_ofScientific (spec : Float.Model.Format) (m e : ℕ) :
    (ofScientific spec m e).isNaN = false := by
  refine isNaN_dite (fun _ => rfl) fun _ => isNaN_dite (fun _ => rfl) fun _ =>
    isNaN_dite (fun _ => rfl) fun _ => ?_
  rw [if_pos (Int.natCast_nonneg e)]
  exact isNaN_mul_finite rfl rfl

theorem isNaN_ofNat (n : Nat) : (Float.ofNat n).isNaN = false := by
  have one : (Float.ofBits 0x3FF0000000000000).toModel.unpack =
      .finite .positive (2 ^ 52) (-52) (by decide) := rfl
  unfold Float.ofNat OfScientific.ofScientific instOfScientificFloat Float.ofScientific
  dsimp only
  split
  · exact isNaN_pack (isNaN_mul_finite (isNaN_pack (isNaN_normalize ..)) one)
  · exact isNaN_pack (isNaN_ofScientific ..)

theorem isNaN_ofInt (n : Int) : (Float.ofInt n).isNaN = false := by
  cases n with
  | ofNat n => exact isNaN_ofNat n
  | negSucc n => exact isNaN_neg (isNaN_ofNat _)

end Stencil.Decimal
