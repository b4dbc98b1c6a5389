import Mathlib
import Stencil.Proofs.Filter.Doubles

/-!
# Integers as doubles

A double has 53 binary digits. An integer that needs no more of them, but for zeros at its end, is
converted to a double without loss and comes back from it as it is. What comes back from any double is
such an integer, or the greatest one of 64 bits, which stands for all that is greater.

1. `Full`: a mantissa with all its digits, which is neither rounded nor shifted.
2. `unpack_pack_full`, `read_of_unpack`: such a double in its bits.
3. `IsDouble`, `unpack_ofNat`: integers that are converted without loss.
4. `toInt64_ofInt_iff`: the integers that come back.
-/

namespace Stencil.Decimal

open Float.Model (Format UnpackedFloat totalExponent)
open Float.Model.UnpackedFloat

/-! ## Full mantissas -/

/-- A mantissa with all its digits. -/
def Full (m : ℕ) : Prop := 2 ^ 52 ≤ m ∧ m < 2 ^ 53

theorem shift_exact (q k : ℕ) :
    ExtendedMantissa.mk (q * 2 ^ k) false false >>> k = ⟨q, false, false⟩ := by
  induction k generalizing q with
  | zero =>
      rw [Nat.pow_zero, Nat.mul_one]
      rfl
  | succ k ih =>
      show ExtendedMantissa.shiftRightOne (ExtendedMantissa.mk (q * 2 ^ (k + 1)) false false >>> k) = _
      rw [Nat.pow_succ', ← Nat.mul_assoc, ih]
      simp [ExtendedMantissa.shiftRightOne]

theorem log2_full {q : ℕ} (full : Full q) (k : ℕ) : (q * 2 ^ k).log2 = 52 + k := by
  have pos : 0 < 2 ^ k := Nat.two_pow_pos k
  have some : q * 2 ^ k ≠ 0 := Nat.mul_ne_zero (by have low := full.1; omega) (by omega)
  refine (Nat.log2_eq_iff some).2 ⟨?_, ?_⟩
  · rw [Nat.pow_add]
    exact Nat.mul_le_mul_right _ full.1
  · rw [Nat.add_right_comm, Nat.pow_add]
    exact Nat.mul_lt_mul_of_pos_right full.2 pos

/-- A mantissa with zeros behind it is shifted until they are gone. -/
theorem shiftToTargetExponent_full {q : ℕ} (full : Full q) (k : ℕ) {e : ℤ} (low : -1074 ≤ e + k) :
    shiftToTargetExponent Format.binary64 (q * 2 ^ k) e .exact = (⟨q, false, false⟩, e + k) := by
  have target : Format.binary64.targetExponent (totalExponent (q * 2 ^ k) e) = e + k := by
    simp only [Format.targetExponent, totalExponent, log2_full full, Format.mantissaBits,
      Format.minExponent]
    omega
  have amount : (e + k - e).toNat = k := by omega
  simp only [shiftToTargetExponent, target, shiftToExponent, amount,
    ExtendedMantissa.ofMantissaAndAccuracy, shift_exact]

theorem roundWithAccuracy_full {q : ℕ} (full : Full q) (k : ℕ) {e : ℤ} (low : -1074 ≤ e + k)
    (s : Sign) :
    ∃ some, roundWithAccuracy Format.binary64 s (q * 2 ^ k) e .exact = .finite s q (e + k) some := by
  have some : 0 < q := by have := full.1; omega
  have again := shiftToTargetExponent_full full 0 (e := e + k) (by omega)
  rw [Nat.pow_zero, Nat.mul_one] at again
  refine ⟨some, ?_⟩
  have rounded : (ExtendedMantissa.mk q false false).roundedMantissa = q := rfl
  simp only [roundWithAccuracy, shiftToTargetExponent_full full k low, rounded, again]
  rw [dif_neg (by omega)]
  simp

/-- A number with too few digits has zeros put behind it. -/
theorem full_shifted {n : ℕ} (pos : 0 < n) (small : n < 2 ^ 53) : Full (n * 2 ^ (52 - n.log2)) := by
  have digits : n.log2 ≤ 52 := by
    have := (Nat.log2_lt (Nat.ne_of_gt pos)).2 small
    omega
  have low := Nat.log2_self_le (Nat.ne_of_gt pos)
  have high := Nat.lt_log2_self (n := n)
  have shift : 2 ^ n.log2 * 2 ^ (52 - n.log2) = 2 ^ 52 := by
    rw [← Nat.pow_add]
    congr 1
    omega
  constructor
  · rw [← shift]
    exact Nat.mul_le_mul_right _ low
  · have shift : 2 ^ (n.log2 + 1) * 2 ^ (52 - n.log2) = 2 ^ 53 := by
      rw [← Nat.pow_add]
      congr 1
      omega
    rw [← shift]
    exact Nat.mul_lt_mul_of_pos_right high (Nat.two_pow_pos _)

theorem round_full {n : ℕ} (pos : 0 < n) (small : n < 2 ^ 53) (s : Sign) :
    ∃ some, Float.Model.UnpackedFloat.round Format.binary64 s n 0 =
      .finite s (n * 2 ^ (52 - n.log2)) (-(52 - n.log2 : ℕ)) some := by
  have digits : n.log2 ≤ 52 := by
    have := (Nat.log2_lt (Nat.ne_of_gt pos)).2 small
    omega
  have full := full_shifted pos small
  have target : Format.binary64.targetExponent (totalExponent n 0) = -((52 - n.log2 : ℕ) : ℤ) := by
    simp only [Format.targetExponent, totalExponent, Format.mantissaBits, Format.minExponent]
    omega
  have amount : (0 - -((52 - n.log2 : ℕ) : ℤ)).toNat = 52 - n.log2 := by omega
  obtain ⟨some, same⟩ := roundWithAccuracy_full full 0 (e := -((52 - n.log2 : ℕ) : ℤ)) (by omega) s
  refine ⟨some, ?_⟩
  simp only [Float.Model.UnpackedFloat.round, target, decreaseExponent, amount, Nat.shiftLeft_eq]
  simpa using same

/-! ## Bits -/

theorem unpackSign_components (s : Sign) (exponent : BitVec 11) (mantissa : BitVec 52) :
    Sign.ofBitVec (unpackSign (packComponents Format.binary64 s exponent mantissa)) = s := by
  simp only [unpackSign, packComponents, BitVec.extractLsb]
  rw [BitVec.extractLsb'_append_eq_of_le (by decide), BitVec.extractLsb'_append_eq_of_le (by decide)]
  cases s <;> rfl

theorem unpack_pack_full {q : ℕ} (full : Full q) {e : ℤ} (low : -1000 ≤ e) (high : e ≤ 900)
    (s : Sign) (some : 0 < q) :
    (Float.Model.pack (.finite s q e some)).unpack = .finite s q e some := by
  have digits : q.log2 + 1 = Format.binary64.mantissaBits := by
    have length := log2_full full 0
    rw [Nat.pow_zero, Nat.mul_one] at length
    rw [length]
    rfl
  have bias : (Format.binary64.exponentBias : ℤ) = 1023 := rfl
  obtain ⟨b, isB⟩ : ∃ b : ℕ, (b : ℤ) = e + 1075 := ⟨(e + 1075).toNat, by omega⟩
  have biased : (e + (Format.binary64.exponentBias : ℤ) + (52 : ℕ)).toNat = b := by omega
  have exponent : (BitVec.ofNat 11 b).toNat = b := by
    rw [BitVec.toNat_ofNat]
    omega
  have notLeast : BitVec.ofNat 11 b ≠ 0#11 := fun h => by
    have same := congrArg BitVec.toNat h
    rw [exponent] at same
    simp at same
    omega
  have notGreatest : BitVec.ofNat 11 b ≠ -1#11 := fun h => by
    have same := congrArg BitVec.toNat h
    rw [exponent] at same
    simp at same
    omega
  have mantissa : (1#1 ++ BitVec.ofNat 52 q).toNat = q := by
    obtain ⟨low, high⟩ := full
    rw [BitVec.toNat_append, ← Nat.shiftLeft_add_eq_or_of_lt (BitVec.isLt _), BitVec.toNat_ofNat,
      BitVec.toNat_ofNat, Nat.shiftLeft_eq]
    omega
  have packed : Float.Model.UnpackedFloat.pack Format.binary64 (.finite s q e some) =
      packComponents Format.binary64 s (BitVec.ofNat 11 b) (BitVec.ofNat 52 q) := by
    have fits : ¬(2 ^ 11 ≤ b + 1) := by omega
    simp only [Float.Model.UnpackedFloat.pack, biased, fits, digits, if_true, if_false]
  show Float.Model.UnpackedFloat.unpack Format.binary64
    (Float.Model.UnpackedFloat.pack Format.binary64 (.finite s q e some)) = _
  rw [packed]
  simp only [Float.Model.UnpackedFloat.unpack, unpackMantissa_packComponents,
    unpackExponent_packComponents, notLeast, notGreatest, if_false, exponent, mantissa]
  rw [unpackSign_components]
  congr 1
  omega

theorem toNat_unpackExponent (b : BitVec 64) :
    (@unpackExponent Format.binary64 b).toNat = b.toNat >>> 52 % 0x800 := by
  simp [unpackExponent]

theorem toNat_unpackMantissa (b : BitVec 64) :
    (@unpackMantissa Format.binary64 b).toNat = b.toNat % 0x10000000000000 := by
  simp [unpackMantissa]

theorem unpackSign_eq (b : BitVec 64) :
    (Sign.ofBitVec (@unpackSign Format.binary64 b) == .negative) = (b.toNat >>> 63 == 1) := by
  have bit : (@unpackSign Format.binary64 b).toNat = b.toNat >>> 63 := by
    have top : b.toNat >>> 63 < 2 := by
      have := b.isLt
      rw [Nat.shiftRight_eq_div_pow]
      omega
    simp [unpackSign, Nat.mod_eq_of_lt top]
  rw [← bit]
  generalize @unpackSign Format.binary64 b = v
  revert v
  decide

theorem read_of_unpack {x : Float} {s : Sign} {m : ℕ} {e : ℤ} {some : 0 < m}
    (h : x.toModel.unpack = .finite s m e some) :
    ∃ narrow, read x = .finite ⟨s == .negative, m, e, narrow⟩ := by
  obtain ⟨b, isB⟩ : ∃ b : BitVec 64, b = x.toModel.toBits.toBitVec := ⟨_, rfl⟩
  have bits : x.toBits.toNat = b.toNat := by rw [isB]; rfl
  have h : Float.Model.UnpackedFloat.unpack Format.binary64 b = .finite s m e some := by
    rw [isB]
    exact h
  have ex := toNat_unpackExponent b
  have mant := toNat_unpackMantissa b
  have sg := unpackSign_eq b
  have bias : (Format.binary64.exponentBias : ℤ) = 1023 := rfl
  simp only [Float.Model.UnpackedFloat.unpack] at h
  simp only [read, bits, ← ex, ← mant, ← sg]
  split at h
  · split at h <;> cases h
  · next notAll =>
    have below : (@unpackExponent Format.binary64 b).toNat ≠ 2047 := fun all =>
      notAll (BitVec.eq_of_toNat_eq all)
    rw [if_neg below]
    split at h
    · next least =>
      rw [if_pos (by rw [least]; rfl)]
      split at h
      · cases h
      · cases h
        refine ⟨false, ?_⟩
        simp [least, bias]
    · next notLeast =>
      have above : (@unpackExponent Format.binary64 b).toNat ≠ 0 := fun none =>
        notLeast (BitVec.eq_of_toNat_eq none)
      rw [if_neg above]
      injection h with isSign isMantissa isExponent
      have implicit : (@unpackMantissa Format.binary64 b).toNat + 0x10000000000000 = m := by
        rw [← isMantissa, BitVec.toNat_append,
          ← Nat.shiftLeft_add_eq_or_of_lt (BitVec.isLt _), Nat.add_comm]
        rfl
      have scale : ((@unpackExponent Format.binary64 b).toNat : ℤ) - 1075 = e := by
        rw [← isExponent, bias]
        rfl
      rw [implicit, scale, isSign]
      exact ⟨_, rfl⟩

/-! ## Conversion -/

theorem unpack_mul {a b : Float} {q m : ℕ} {e f : ℤ} {someQ : 0 < q} {someM : 0 < m}
    (ha : a.toModel.unpack = .finite .positive q e someQ)
    (hb : b.toModel.unpack = .finite .positive m f someM) :
    (a * b).toModel =
      Float.Model.pack (roundWithAccuracy Format.binary64 .positive (q * m) (e + f) .exact) := by
  show Float.Model.pack (mul Format.binary64 a.toModel.unpack b.toModel.unpack) = _
  rw [ha, hb]
  rfl

theorem unpack_toFloat {n : ℕ} (pos : 0 < n) (small : n < 2 ^ 53) :
    ∃ some, n.toUInt64.toFloat.toModel.unpack =
      .finite .positive (n * 2 ^ (52 - n.log2)) (-(52 - n.log2 : ℕ)) some := by
  have word : n.toUInt64.toNat = n := by
    rw [UInt64.toNat_ofNat']
    omega
  have sign : compare (n : ℤ) 0 = .gt := compare_gt_iff_gt.2 (by omega)
  have normalized : ofUInt64 Format.binary64 n.toUInt64 =
      Float.Model.UnpackedFloat.round Format.binary64 .positive n 0 := by
    simp only [ofUInt64, ofNat, Float.Model.UnpackedFloat.ofInt, word,
      Float.Model.UnpackedFloat.normalize, sign, Int.toNat_natCast]
  obtain ⟨some, rounded⟩ := round_full pos small .positive
  refine ⟨some, ?_⟩
  show (Float.Model.pack (ofUInt64 Format.binary64 n.toUInt64)).unpack = _
  rw [normalized, rounded]
  exact unpack_pack_full (full_shifted pos small) (by omega) (by omega) _ _

theorem unpack_ofNat_small {n : ℕ} (pos : 0 < n) (small : n < 2 ^ 53) :
    ∃ some, (Float.ofNat n).toModel.unpack =
      .finite .positive (n * 2 ^ (52 - n.log2)) (-(52 - n.log2 : ℕ)) some := by
  have one : (Float.ofBits 0x3FF0000000000000).toModel.unpack =
      .finite .positive (2 ^ 52) (-52) (by decide) := rfl
  have isProduct : Float.ofNat n = n.toUInt64.toFloat * Float.ofBits 0x3FF0000000000000 := by
    unfold Float.ofNat OfScientific.ofScientific instOfScientificFloat Float.ofScientific
    dsimp only
    rw [dif_pos ⟨small, by decide⟩]
    rfl
  obtain ⟨some, converted⟩ := unpack_toFloat pos small
  have full := full_shifted pos small
  obtain ⟨some, rounded⟩ := roundWithAccuracy_full full 52
    (e := -((52 - n.log2 : ℕ) : ℤ) + -52) (by omega) .positive
  have back : -((52 - n.log2 : ℕ) : ℤ) + -52 + (52 : ℕ) = -((52 - n.log2 : ℕ) : ℤ) := by omega
  simp only [back] at rounded
  refine ⟨some, ?_⟩
  rw [isProduct, unpack_mul converted one, rounded]
  exact unpack_pack_full full (by omega) (by omega) _ _

theorem unpack_ofNat_large {q k : ℕ} (full : Full q) (large : 2 ^ 53 ≤ q * 2 ^ k) (fits : k ≤ 900) :
    ∃ some, (Float.ofNat (q * 2 ^ k)).toModel.unpack = .finite .positive q k some := by
  obtain ⟨n, isN⟩ : ∃ n, n = q * 2 ^ k := ⟨_, rfl⟩
  rw [← isN] at large ⊢
  have someN : n ≠ 0 := by omega
  have scaled : n <<< 53 * 10 ^ 0 = q * 2 ^ (k + 53) := by
    rw [Nat.shiftLeft_eq, isN, Nat.pow_add, Nat.pow_zero, Nat.mul_one, Nat.mul_assoc]
  have isRounded : (Float.ofNat n).toModel = Float.Model.pack
      (roundWithAccuracy Format.binary64 .positive (n <<< 53 * 10 ^ 0) (-53 + 0) .exact) := by
    unfold Float.ofNat OfScientific.ofScientific instOfScientificFloat Float.ofScientific
    dsimp only
    rw [dif_neg (by omega)]
    show Float.Model.pack (ofScientific Format.binary64 n 0) = _
    have least : ¬(0 : ℤ) < -(2 ^ Format.binary64.exponentBits + n.log2) := by
      have scale : (0 : ℤ) ≤ 2 ^ Format.binary64.exponentBits := by decide
      omega
    rw [ofScientific, dif_neg someN, if_neg (by decide), if_neg least, if_pos (by decide)]
    rfl
  obtain ⟨some, rounded⟩ := roundWithAccuracy_full full (k + 53)
    (e := -53 + 0) (by omega) .positive
  have back : (-53 : ℤ) + 0 + (k + 53 : ℕ) = k := by omega
  simp only [back] at rounded
  refine ⟨some, ?_⟩
  rw [isRounded, scaled, rounded]
  exact unpack_pack_full full (by omega) (by omega) _ _

/-! ## Whole numbers that are doubles -/

/-- A whole number that is a double: at most 53 binary digits, and zeros behind them. -/
def IsDouble (n : ℤ) : Prop := ∃ m k : ℕ, m < 2 ^ 53 ∧ n.natAbs = m * 2 ^ k

/-- A number is a full mantissa with zeros behind it, or without some that it has at its end. -/
def Spans (n q : ℕ) (e : ℤ) : Prop :=
  (∃ k : ℕ, e = k ∧ n = q * 2 ^ k) ∨ ∃ k : ℕ, e = -k ∧ q = n * 2 ^ k

theorem scaled_of_spans {n : ℕ} {b : Binary} (spans : Spans n b.mantissa b.exponent) :
    b.scaled.1 = n * b.scaled.2 := by
  simp only [Binary.scaled, scaleTwo]
  rcases spans with ⟨k, exponent, whole⟩ | ⟨k, exponent, whole⟩
  · simp [exponent, whole]
  · rcases Nat.eq_zero_or_pos k with rfl | pos
    · simp [exponent, whole]
    · rw [exponent, whole, if_neg (by omega), Int.neg_neg, Int.toNat_natCast]
      rfl

theorem whole_of_spans {n q : ℕ} {e : ℤ} (spans : Spans n q e) (negative narrow : Bool) :
    (Binary.mk negative q e narrow).whole = n := by
  rw [Binary.whole, scaled_of_spans (b := .mk negative q e narrow) spans]
  exact Nat.mul_div_cancel n (scaleTwo_denominator_pos q e)

/-- A number of at most 64 binary digits that is a double is converted without loss. -/
theorem unpack_ofNat {n : ℕ} (pos : 0 < n) (fits : n < 2 ^ 64) (exact : IsDouble n) :
    ∃ q e some, Full q ∧ -1000 ≤ e ∧ e ≤ 900 ∧ Spans n q e ∧
      (Float.ofNat n).toModel.unpack = .finite .positive q e some := by
  by_cases small : n < 2 ^ 53
  · obtain ⟨some, unpacked⟩ := unpack_ofNat_small pos small
    exact ⟨_, _, some, full_shifted pos small, by omega, by omega, .inr ⟨_, rfl, rfl⟩, unpacked⟩
  · obtain ⟨m, k, digits, whole⟩ := exact
    rw [Int.natAbs_natCast] at whole
    have posM : 0 < m := Nat.pos_of_ne_zero fun none => by
      rw [none, Nat.zero_mul] at whole
      omega
    have full := full_shifted posM digits
    have longer : 52 - m.log2 ≤ k := by
      by_contra short
      have grows := Nat.mul_le_mul_left m (Nat.pow_le_pow_right (n := 2) (by decide)
        (Nat.le_of_not_le short))
      have := full.2
      omega
    have split : n = m * 2 ^ (52 - m.log2) * 2 ^ (k - (52 - m.log2)) := by
      rw [whole, Nat.mul_assoc, ← Nat.pow_add, Nat.add_sub_cancel' longer]
    have exponent : k - (52 - m.log2) < 12 := by
      by_contra long
      have grows := Nat.mul_le_mul full.1 (Nat.pow_le_pow_right (n := 2) (by decide)
        (Nat.le_of_not_lt long))
      rw [← split] at grows
      omega
    obtain ⟨some, unpacked⟩ := unpack_ofNat_large full (split ▸ Nat.le_of_not_lt small) (by omega)
    rw [← split] at unpacked
    exact ⟨_, _, some, full, by omega, by omega, .inl ⟨_, rfl, split⟩, unpacked⟩

theorem unpack_neg {x : Float} {q : ℕ} {e : ℤ} {some : 0 < q} (full : Full q) (low : -1000 ≤ e)
    (high : e ≤ 900) (h : x.toModel.unpack = .finite .positive q e some) :
    x.neg.toModel.unpack = .finite .negative q e some := by
  show (Float.Model.pack (neg x.toModel.unpack)).unpack = _
  rw [h]
  exact unpack_pack_full full low high _ _

theorem truncated_ofNat {n : ℕ} (pos : 0 < n) (fits : n < 2 ^ 64) (exact : IsDouble n) :
    (∃ b, read (Float.ofNat n) = .finite b ∧ b.truncated = n) ∧
      ∃ b, read (Float.ofNat n).neg = .finite b ∧ b.truncated = -n := by
  obtain ⟨q, e, some, full, low, high, spans, unpacked⟩ := unpack_ofNat pos fits exact
  obtain ⟨narrow, positive⟩ := read_of_unpack unpacked
  obtain ⟨narrow', negative⟩ := read_of_unpack (unpack_neg full low high unpacked)
  refine ⟨⟨_, positive, ?_⟩, ⟨_, negative, ?_⟩⟩
  · rw [Binary.truncated, whole_of_spans spans]
    rfl
  · rw [Binary.truncated, whole_of_spans spans]
    rfl

theorem toInt64_of_read {x : Float} {b : Binary} {n : ℤ} (reading : read x = .finite b)
    (value : b.truncated = n) (low : -2 ^ 63 ≤ n) (high : n < 2 ^ 63) : toInt64 x = n := by
  rw [toInt64, saturate, reading]
  simp only [value, clamp]
  rw [if_neg (by omega), if_neg (by omega)]

/-- A 64-bit integer that is a double is what it is converted to. -/
theorem toInt64_ofInt_of_isDouble {n : Int64} (exact : IsDouble n.toInt) :
    toInt64 (Float.ofInt n.toInt) = n.toInt := by
  have low : -2 ^ 63 ≤ n.toInt := n.minValue_le_toInt
  have high : n.toInt < 2 ^ 63 := n.toInt_lt
  generalize n.toInt = n at *
  cases n with
  | ofNat n =>
      rcases Nat.eq_zero_or_pos n with rfl | pos
      · decide +kernel
      · have fits : n < 2 ^ 64 := by
          rw [Int.ofNat_eq_natCast] at high
          omega
        obtain ⟨⟨b, reading, value⟩, -⟩ := truncated_ofNat pos fits exact
        exact toInt64_of_read reading value low high
  | negSucc n =>
      have exact' : IsDouble (n + 1 : ℕ) := exact
      obtain ⟨-, b, reading, value⟩ := truncated_ofNat n.succ_pos (by omega) exact'
      exact toInt64_of_read reading value low high

/-! ## What a double is converted to -/

theorem mantissa_lt {x : Float} {b : Binary} (reading : read x = .finite b) :
    b.mantissa < 2 ^ 53 := by
  have digits : x.toBits.toNat % 0x10000000000000 < 0x10000000000000 := Nat.mod_lt _ (by decide)
  simp only [read] at reading
  split at reading
  · split at reading <;> cases reading
  · split at reading
    · cases reading
      exact Nat.lt_trans digits (by decide)
    · cases reading
      exact Nat.add_lt_add_right digits _

theorem isDouble_truncated {b : Binary} (digits : b.mantissa < 2 ^ 53) : IsDouble b.truncated := by
  have size : b.truncated.natAbs = b.whole := by
    rw [Binary.truncated]
    split
    · rw [Int.natAbs_neg, Int.natAbs_natCast]
    · rw [Int.natAbs_natCast]
  rw [IsDouble, size, Binary.whole, Binary.scaled, scaleTwo]
  split
  · exact ⟨b.mantissa, b.exponent.toNat, digits, Nat.div_one _⟩
  · exact ⟨_, 0, Nat.lt_of_le_of_lt (Nat.div_le_self _ _) digits, (Nat.mul_one _).symm⟩

/-- What a double is converted to is a double, but for the greatest integer, which stands for all that
is greater. -/
theorem isDouble_toInt64 (x : Float) : IsDouble (toInt64 x) ∨ toInt64 x = 2 ^ 63 - 1 := by
  have least : IsDouble (-2 ^ 63) := ⟨1, 63, by decide, rfl⟩
  rw [toInt64, saturate]
  split
  · next b reading =>
    rw [clamp]
    split
    · exact .inl least
    · split
      · exact .inr rfl
      · exact .inl (isDouble_truncated (mantissa_lt reading))
  · split
    · exact .inl least
    · exact .inr rfl
  · exact .inl ⟨0, 0, by decide, rfl⟩

/-- An integer comes back from a double if it is one, and if it is the greatest of all. -/
theorem toInt64_ofInt_iff (n : Int64) :
    toInt64 (Float.ofInt n.toInt) = n.toInt ↔ IsDouble n.toInt ∨ n.toInt = 2 ^ 63 - 1 := by
  constructor
  · intro same
    rw [← same]
    exact isDouble_toInt64 _
  · rintro (exact | greatest)
    · exact toInt64_ofInt_of_isDouble exact
    · rw [greatest]
      decide +kernel

theorem isDouble_of_natAbs_le {n : ℤ} (small : n.natAbs ≤ 2 ^ 53) : IsDouble n := by
  rcases Nat.lt_or_eq_of_le small with below | equal
  · exact ⟨n.natAbs, 0, below, (Nat.mul_one _).symm⟩
  · exact ⟨1, 53, by decide, equal⟩

end Stencil.Decimal
