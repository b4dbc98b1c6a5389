import Stencil.Proofs.Decimal.Integers
import Stencil.Proofs.Json.Leaves

/-!
# Fixed numbers of places

A double is written with a fixed number of places. If it is an integer, its digits are written exactly, with
zeros for the places. If such digits are written, then they are those of a double.

1. `withPlaces_shifted`, `withPlaces_injective`: whole numbers with places.
2. `InPlaces`, `exists_inPlaces`: the digits before the point and behind it.
3. `exists_read_ofInt`, `fixed_of_spans`: integers that are doubles.
4. `isDouble_of_fixed`: what is written as an integer is a double.
5. `read_magnitude`: doubles without their signs.
-/

namespace Stencil.Decimal

open Stencil.Text

/-! ## Places -/

/-- A point and zeros, if there are places. -/
def pointZeros (places : Nat) : List Char := if places = 0 then [] else '.' :: zeros places

theorem decimalDigits_shifted {n : Nat} (pos : 0 < n) (places : Nat) :
    decimalDigits (n * 10 ^ places) = decimalDigits n ++ zeros places := by
  induction places with
  | zero => rw [Nat.pow_zero, Nat.mul_one, zeros, List.replicate_zero, List.append_nil]
  | succ k ih =>
      have shift : n * 10 ^ (k + 1) = 10 * (n * 10 ^ k) + 0 := by
        rw [Nat.pow_succ']
        ring
      have further := Nat.toDigits_append_toDigits (b := 10) (by decide)
        (Nat.mul_pos pos (Nat.pow_pos (n := k) (by decide : 0 < 10))) (by decide : 0 < 10)
      rw [decimalDigits, shift, ← further]
      show decimalDigits (n * 10 ^ k) ++ ['0'] = _
      rw [ih, zeros, zeros, List.replicate_succ', List.append_assoc]

theorem withPlaces_shifted (n places : Nat) :
    withPlaces (n * 10 ^ places) places = decimalDigits n ++ pointZeros places := by
  have padded : zeros (places + 1 - (decimalDigits (n * 10 ^ places)).length) ++
      decimalDigits (n * 10 ^ places) = decimalDigits n ++ zeros places := by
    rcases Nat.eq_zero_or_pos n with rfl | pos
    · rw [Nat.zero_mul]
      exact List.replicate_succ'.symm
    · have some := List.length_pos_iff.2 (decimalDigits_ne_nil n)
      rw [decimalDigits_shifted pos, List.length_append, zeros, zeros, List.length_replicate,
        Nat.sub_eq_zero_of_le (by omega)]
      rfl
  have length : (decimalDigits n ++ zeros places).length - places = (decimalDigits n).length := by
    rw [List.length_append, zeros, List.length_replicate, Nat.add_sub_cancel]
  simp only [withPlaces, padded, length, List.take_left', List.drop_left', pointZeros]
  split
  · rw [List.append_nil]
  · rfl

theorem digitsValue_zeros (k : Nat) (cs : List Char) :
    digitsValue (zeros k ++ cs) = digitsValue cs := by
  induction k with
  | zero => rfl
  | succ k ih => exact ih

theorem isDigit_of_mem_padded {k n : Nat} {c : Char} (h : c ∈ zeros k ++ decimalDigits n) :
    isDigit c = true := by
  rcases List.mem_append.1 h with zero | digit
  · rw [List.eq_of_mem_replicate zero]
    rfl
  · exact Json.isDigit_of_decimal digit

theorem mem_withPlaces {n places : Nat} {c : Char} (h : c ∈ withPlaces n places) :
    isDigit c = true ∨ c = '.' := by
  simp only [withPlaces] at h
  split at h
  · exact .inl (isDigit_of_mem_padded (List.mem_of_mem_take h))
  · rcases List.mem_append.1 h with whole | fraction
    · exact .inl (isDigit_of_mem_padded (List.mem_of_mem_take whole))
    · rcases List.mem_cons.1 fraction with point | place
      · exact .inr point
      · exact .inl (isDigit_of_mem_padded (List.mem_of_mem_drop place))

/-- A point among the digits does not change their value. -/
theorem digitsValue_withPlaces (n places : Nat) :
    digitsValue ((withPlaces n places).filter (· != '.')) = n := by
  have noPoint {k : Nat} :
      (zeros k ++ decimalDigits n).filter (· != '.') = zeros k ++ decimalDigits n := by
    refine List.filter_eq_self.2 fun c mem => bne_iff_ne.2 ?_
    rintro rfl
    cases isDigit_of_mem_padded mem
  have cut {cs : List Char} (k : Nat) :
      (cs.take k ++ '.' :: cs.drop k).filter (· != '.') = cs.filter (· != '.') := by
    conv_rhs => rw [← List.take_append_drop k cs]
    rw [List.filter_append, List.filter_append, List.filter_cons_of_neg (by decide)]
  simp only [withPlaces]
  split
  · next none =>
    rw [none, Nat.sub_zero, List.take_length, noPoint, digitsValue_zeros,
      Json.digitsValue_decimalDigits]
  · rw [cut, noPoint, digitsValue_zeros, Json.digitsValue_decimalDigits]

theorem withPlaces_injective {m n places : Nat} (same : withPlaces m places = withPlaces n places) :
    m = n := by
  rw [← digitsValue_withPlaces m places, same, digitsValue_withPlaces]

/-- A row of digits behind a point, if there are any. -/
def pointed (fraction : List Char) : List Char := if fraction = [] then [] else '.' :: fraction

/-- A number with a fixed number of places: its digits before the point and those behind it. -/
structure InPlaces (places : Nat) (text whole fraction : List Char) : Prop where
  whole_digits : ∀ c ∈ whole, isDigit c = true
  fraction_digits : ∀ c ∈ fraction, isDigit c = true
  whole_ne_nil : whole ≠ []
  length_fraction : fraction.length = places
  text_eq : text = whole ++ pointed fraction

theorem inPlaces_take {digits : List Char} (areDigits : ∀ c ∈ digits, isDigit c = true) {places : Nat}
    (long : places < digits.length) :
    InPlaces places (digits.take (digits.length - places) ++
      pointed (digits.drop (digits.length - places)))
      (digits.take (digits.length - places)) (digits.drop (digits.length - places)) where
  whole_digits c mem := areDigits c (List.mem_of_mem_take mem)
  fraction_digits c mem := areDigits c (List.mem_of_mem_drop mem)
  whole_ne_nil := by
    rw [← List.length_pos_iff, List.length_take]
    omega
  length_fraction := by
    rw [List.length_drop]
    omega
  text_eq := rfl

theorem exists_inPlaces (n places : Nat) :
    ∃ whole fraction, InPlaces places (withPlaces n places) whole fraction := by
  obtain ⟨padded, isPadded⟩ :
      ∃ padded, padded = zeros (places + 1 - (decimalDigits n).length) ++ decimalDigits n := ⟨_, rfl⟩
  have areDigits : ∀ c ∈ padded, isDigit c = true := fun c mem =>
    isDigit_of_mem_padded (isPadded ▸ mem)
  have long : places < padded.length := by
    rw [isPadded, List.length_append, zeros, List.length_replicate]
    omega
  have cut := inPlaces_take areDigits long
  have written : withPlaces n places = padded.take (padded.length - places) ++
      pointed (padded.drop (padded.length - places)) := by
    have length := cut.length_fraction
    simp only [withPlaces, ← isPadded]
    split
    · next none =>
      rw [none] at length
      rw [none, List.eq_nil_of_length_eq_zero length]
      exact (List.append_nil _).symm
    · next some =>
      rw [pointed, if_neg fun none => some (by rw [← length, none]; rfl)]
  exact ⟨_, _, written ▸ cut⟩

/-! ## Integers as doubles -/

theorem divideToEven_mul (n : Nat) {d : Nat} (pos : 0 < d) : divideToEven (n * d) d = n := by
  simp only [divideToEven, Nat.mul_div_cancel n pos, Nat.mul_mod_left, Nat.mul_zero, if_pos pos]

/-- What a double that is whole is written as. -/
theorem fixed_of_spans {x : Float} {b : Binary} {n : Nat} (reading : read x = .finite b)
    (spans : Spans n b.mantissa b.exponent) (places : Nat) :
    fixed places x = decimalDigits n ++ pointZeros places := by
  have denominator : 0 < b.scaled.2 := scaleTwo_denominator_pos _ _
  have shift : b.scaled.1 * Nat.pow 10 places = n * 10 ^ places * b.scaled.2 := by
    rw [scaled_of_spans spans]
    exact Nat.mul_right_comm _ _ _
  simp only [fixed, reading]
  rw [shift, divideToEven_mul _ denominator, withPlaces_shifted]

theorem spans_zero (k : ℕ) : Spans 0 0 (-k) := .inr ⟨k, rfl, (Nat.zero_mul _).symm⟩

/-- The double of an integer that is one: the same number, with its sign. -/
theorem exists_read_ofInt {n : ℤ} (fits : n.natAbs < 2 ^ 64) (exact : IsDouble n) :
    ∃ b, read (Float.ofInt n) = .finite b ∧ Spans n.natAbs b.mantissa b.exponent ∧
      (Float.ofInt n < 0.0 ↔ n < 0) := by
  have zero : (0.0 : Float).toModel.unpack = .zero .positive := rfl
  cases n with
  | ofNat n =>
      rcases Nat.eq_zero_or_pos n with rfl | pos
      · exact ⟨⟨false, 0, -1074, false⟩, rfl, spans_zero 1074, by decide +kernel⟩
      · obtain ⟨q, e, some, full, low, high, spans, unpacked⟩ := unpack_ofNat pos fits exact
        obtain ⟨narrow, reading⟩ := read_of_unpack unpacked
        refine ⟨_, reading, spans, iff_of_false ?_ (Int.not_lt.2 (Int.natCast_nonneg n))⟩
        show ¬Float.ofNat n < 0.0
        rw [lt_iff, unpacked, zero]
        exact Bool.false_ne_true
  | negSucc n =>
      have exact' : IsDouble (n + 1 : ℕ) := exact
      obtain ⟨q, e, some, full, low, high, spans, unpacked⟩ := unpack_ofNat n.succ_pos fits exact'
      have negated := unpack_neg full low high unpacked
      obtain ⟨narrow, reading⟩ := read_of_unpack negated
      refine ⟨_, reading, spans, iff_of_true ?_ (Int.negSucc_lt_zero n)⟩
      show (Float.ofNat (n + 1)).neg < 0.0
      rw [lt_iff, negated, zero]
      rfl

/-- Rounding a fraction does not pass the mantissa by a whole. -/
theorem le_mantissa_of_rounds {m n scale d : Nat} (posScale : 0 < scale) (pos : 0 < d)
    (rounds : divideToEven (m * scale) d = n * scale) : n ≤ m := by
  have near := (divideToEven_near (n := m * scale) pos).2
  rw [rounds] at near
  by_contra more
  have above : (m + 1) * (scale * d) ≤ n * (scale * d) :=
    Nat.mul_le_mul_right _ (Nat.lt_of_not_le more)
  have split : (m + 1) * (scale * d) = m * scale * d + scale * d := by ring
  have whole : m * scale ≤ m * scale * d := Nat.le_mul_of_pos_right _ pos
  have unit : d ≤ scale * d := Nat.le_mul_of_pos_left _ posScale
  have assoc : n * (scale * d) = n * scale * d := (Nat.mul_assoc _ _ _).symm
  omega

/-- If a double is written as the digits of a whole number and zeros, then that number is a double. -/
theorem isDouble_of_withPlaces {b : Binary} (digits : b.mantissa < 2 ^ 53) {n : ℤ} {places : Nat}
    (rounds : divideToEven (b.scaled.1 * 10 ^ places) b.scaled.2 = n.natAbs * 10 ^ places) :
    IsDouble n := by
  have pos : 0 < 10 ^ places := Nat.pow_pos (by decide)
  by_cases whole : 0 ≤ b.exponent
  · have scaled : b.scaled = (b.mantissa * 2 ^ b.exponent.toNat, 1) := if_pos whole
    have itself := divideToEven_mul (b.scaled.1 * 10 ^ places) Nat.one_pos
    rw [Nat.mul_one] at itself
    rw [scaled] at rounds itself
    exact ⟨_, _, digits, Nat.eq_of_mul_eq_mul_right pos (rounds.symm.trans itself)⟩
  · have scaled : b.scaled = (b.mantissa, 2 ^ (-b.exponent).toNat) := if_neg whole
    rw [scaled] at rounds
    have below := le_mantissa_of_rounds pos (Nat.two_pow_pos _) rounds
    exact isDouble_of_natAbs_le (Nat.le_of_lt (Nat.lt_of_le_of_lt below digits))

theorem isDouble_of_fixed {x : Float} {n : ℤ} {places : Nat}
    (text : fixed places x = decimalDigits n.natAbs ++ pointZeros places) : IsDouble n := by
  have starts : ∀ c ∈ (fixed places x).head?, isDigit c = true := by
    obtain ⟨c, more, shape⟩ := List.exists_cons_of_ne_nil (decimalDigits_ne_nil n.natAbs)
    rw [text, shape]
    rintro d ⟨⟩
    exact Json.isDigit_of_decimal (shape ▸ List.mem_cons_self)
  rw [fixed] at text starts
  split at text
  · next b reading =>
    rw [← withPlaces_shifted] at text
    exact isDouble_of_withPlaces (mantissa_lt reading) (withPlaces_injective text)
  · next reading =>
    rw [reading] at starts
    cases starts 'i' rfl
  · next reading =>
    rw [reading] at starts
    cases starts 'N' rfl

/-! ## Magnitudes -/

open Float.Model (Format) in
theorem toBits_ofBits {w : UInt64} (number : w.toNat >>> 52 % 0x800 ≠ 2047) :
    (Float.ofBits w).toBits = w := by
  have notNaN : @Float.Model.UnpackedFloat.isNaNBits Format.binary64 w.toBitVec = false := by
    rw [Float.Model.UnpackedFloat.isNaNBits, decide_eq_false_iff_not]
    rintro ⟨all, -⟩
    have same := congrArg BitVec.toNat all
    rw [toNat_unpackExponent] at same
    exact number same
  have same : (Float.ofBits w).toBits.toBitVec = w.toBitVec := by
    show Float.Model.UnpackedFloat.pack Format.binary64
      (Float.Model.UnpackedFloat.unpack Format.binary64 w.toBitVec) = _
    rw [Float.Model.UnpackedFloat.pack_unpack, notNaN]
    rfl
  exact UInt64.toBitVec_inj.1 same

theorem toNat_masked (w : UInt64) : (w &&& 0x7FFFFFFFFFFFFFFF).toNat = w.toNat % 2 ^ 63 := by
  rw [UInt64.toNat_and]
  exact Nat.and_two_pow_sub_one_eq_mod w.toNat 63

/-- Without the highest bit a double has no sign, and all else of it is left. -/
theorem read_magnitude {x : Float} {b : Binary} (finite : read x = .finite b) :
    read (magnitude x) = .finite { b with negative := false } := by
  obtain ⟨w, isW⟩ : ∃ w, w = x.toBits.toNat := ⟨_, rfl⟩
  have exponent : (w % 2 ^ 63) >>> 52 % 0x800 = w >>> 52 % 0x800 := by
    rw [Nat.shiftRight_eq_div_pow, Nat.shiftRight_eq_div_pow]
    omega
  have fraction : w % 2 ^ 63 % 0x10000000000000 = w % 0x10000000000000 := by omega
  have sign : ((w % 2 ^ 63) >>> 63 == 1) = false := by
    rw [Nat.shiftRight_eq_div_pow, Nat.div_eq_of_lt (Nat.mod_lt _ (by decide))]
    rfl
  have number : w >>> 52 % 0x800 ≠ 2047 := by
    intro all
    simp only [read, ← isW, if_pos all] at finite
    split at finite <;> cases finite
  have bits : (magnitude x).toBits.toNat = w % 2 ^ 63 := by
    rw [magnitude, toBits_ofBits, toNat_masked, isW]
    rwa [toNat_masked, ← isW, exponent]
  simp only [read, ← isW, bits, exponent, fraction, sign, if_neg number] at finite ⊢
  split at finite
  · next least =>
    cases finite
    rw [if_pos least]
  · next normal =>
    cases finite
    rw [if_neg normal]

theorem fixed_magnitude {x : Float} {b : Binary} (finite : read x = .finite b) (places : Nat) :
    fixed places (magnitude x) = fixed places x := by
  simp only [fixed, read_magnitude finite, finite]
  rfl

end Stencil.Decimal
