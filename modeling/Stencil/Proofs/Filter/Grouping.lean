import Stencil.Filter.Number
import Stencil.Proofs.Decimal.Places
import Stencil.Proofs.Expr.Printer

/-!
# Numbers in groups of three digits

A number is written with a fixed number of places and commas in its whole part. It is taken as a double.
An integer that is one is written exactly, with zeros for its places. One that is no double becomes one
beside it, and then other digits are written.

1. `InThrees`, `inThrees_group`: the commas.
2. `IsGrouped`, `isGrouped_of_isDouble`: the text of an integer.
3. `numberFormat_exact_iff`: which integers are written exactly.
-/

namespace Stencil.Filter

open Stencil.Text Stencil.Decimal

/-! ## Groups -/

/-- The digits in groups of three from the right, with commas between them. -/
def InThrees (digits text : List Char) : Prop :=
  ∃ (first : List Char) (more : List (List Char)),
    digits = first ++ more.flatten ∧ text = first ++ more.flatMap (',' :: ·) ∧
      1 ≤ first.length ∧ first.length ≤ 3 ∧ ∀ three ∈ more, three.length = 3

theorem length_flatten_threes {more : List (List Char)} (threes : ∀ three ∈ more, three.length = 3) :
    more.flatten.length = 3 * more.length := by
  induction more with
  | nil => rfl
  | cons three rest ih =>
      obtain ⟨first, further⟩ := List.forall_mem_cons.1 threes
      rw [List.flatten_cons, List.length_append, first, ih further, List.length_cons]
      omega

theorem inThrees_group {digits : List Char} (some : digits ≠ []) : InThrees digits (group digits) := by
  induction digits with
  | nil => exact absurd rfl some
  | cons c rest ih =>
      rw [group]
      cases rest with
      | nil => exact ⟨[c], [], rfl, rfl, Nat.le_refl 1, Nat.le_add_right 1 2, List.forall_mem_nil _⟩
      | cons d further =>
          obtain ⟨first, more, digits, text, least, most, threes⟩ := ih (List.cons_ne_nil d further)
          have length : (d :: further).length = first.length + 3 * more.length := by
            rw [digits, List.length_append, length_flatten_threes threes]
          rw [text]
          split
          · next full =>
            -- A group ends behind the first digit.
            have three : first.length = 3 := by
              rw [Bool.and_eq_true, decide_eq_true_eq] at full
              omega
            rw [digits]
            exact ⟨[c], first :: more, rfl, rfl, Nat.le_refl 1, Nat.le_add_right 1 2,
              List.forall_mem_cons.2 ⟨three, threes⟩⟩
          · next partly =>
            have short : first.length < 3 := by
              rw [Bool.and_eq_true, decide_eq_true_eq] at partly
              have : ¬(d :: further).length % 3 = 0 := fun full => partly ⟨full, rfl⟩
              omega
            rw [digits]
            exact ⟨c :: first, more, rfl, rfl, Nat.succ_pos _, short, threes⟩

/-! ## Numbers -/

theorem noMark_of_withPlaces {n places : Nat} {c : Char} (h : c ∈ withPlaces n places) :
    c ≠ ',' ∧ c ≠ '-' := by
  constructor <;> rintro rfl <;> rcases mem_withPlaces h with digit | point
  · cases digit
  · cases point
  · cases digit
  · cases point

theorem noMark_of_fixed {places : Nat} {x : Float} {c : Char} (h : c ∈ fixed places x) :
    c ≠ ',' ∧ c ≠ '-' := by
  rw [fixed] at h
  split at h
  · exact noMark_of_withPlaces h
  · simp only [List.mem_cons, List.not_mem_nil, or_false] at h
    rcases h with rfl | rfl | rfl <;> decide
  · simp only [List.mem_cons, List.not_mem_nil, or_false] at h
    rcases h with rfl | rfl | rfl <;> decide

theorem splitPoint_append {whole rest : List Char} (areDigits : ∀ c ∈ whole, isDigit c = true)
    (point : ∀ c ∈ rest.head?, c = '.') : splitPoint (whole ++ rest) = (whole, rest) := by
  have noPoint : ∀ c ∈ whole, (c != '.') = true := fun c mem => bne_iff_ne.2 fun isPoint => by
    have digit := areDigits c mem
    rw [isPoint] at digit
    cases digit
  have stop : ∀ c ∈ rest.head?, (c != '.') = false := fun c head => by rw [point c head]; rfl
  rw [splitPoint, takeWhile_append_of_stop noPoint stop, dropWhile_append_of_stop noPoint stop]

theorem splitPoint_digits {digits : List Char} (areDigits : ∀ c ∈ digits, isDigit c = true)
    (places : Nat) : splitPoint (digits ++ pointZeros places) = (digits, pointZeros places) := by
  refine splitPoint_append areDigits ?_
  rw [pointZeros]
  split
  · rintro c ⟨⟩
  · rintro c ⟨⟩
    rfl

theorem filter_signed (negative : Bool) (cs : List Char) :
    (signed negative cs).filter (· != ',') = signed negative (cs.filter (· != ',')) := by
  cases negative <;> rfl

/-- The commas are all that a grouped text has in addition. -/
theorem filter_group_splitPoint {text : List Char} (noComma : ∀ c ∈ text, c ≠ ',') :
    (group (splitPoint text).1 ++ (splitPoint text).2).filter (· != ',') = text := by
  have whole : ',' ∉ text.takeWhile (· != '.') := fun mem =>
    noComma _ ((List.takeWhile_prefix _).subset mem) rfl
  have fraction : (text.dropWhile (· != '.')).filter (· != ',') = text.dropWhile (· != '.') :=
    List.filter_eq_self.2 fun c mem => bne_iff_ne.2 (noComma c ((List.dropWhile_suffix _).subset mem))
  rw [List.filter_append, splitPoint, ungroup_group _ whole, fraction, List.takeWhile_append_dropWhile]

theorem filter_grouped (places : Nat) (x : Float) :
    ∃ negative, (grouped places x).toList.filter (· != ',') = signed negative (fixed places x) := by
  simp only [grouped, String.toList_ofList, filter_signed,
    filter_group_splitPoint fun c mem => (noMark_of_fixed (c := c) mem).1]
  exact ⟨_, rfl⟩

/-- An integer with commas and with zeros for its places, which without the commas is the text of the
integer. -/
structure IsGrouped (n : Int64) (places : Nat) (text : String) : Prop where
  form : ∃ whole, InThrees (decimalDigits n.toInt.natAbs) whole ∧
    text.toList = signed (n.toInt < 0) (whole ++ pointZeros places)
  plain : text.toList.filter (· != ',') = (Value.int n).render.toList ++ pointZeros places

theorem render_int (n : Int64) :
    (Value.int n).render.toList = signed (n.toInt < 0) (decimalDigits n.toInt.natAbs) := by
  rw [Value.render, Expr.toList_intText, signed]
  split <;> rfl

theorem signed_append (negative : Bool) (cs ds : List Char) :
    signed negative cs ++ ds = signed negative (cs ++ ds) := by
  cases negative <;> rfl

theorem exists_digit_ne_zero {n : Nat} (pos : 0 < n) :
    ∃ c ∈ decimalDigits n, (isDigit c && c != '0') = true := by
  obtain ⟨c, more, shape⟩ := List.exists_cons_of_ne_nil (decimalDigits_ne_nil n)
  have mem : c ∈ decimalDigits n := shape ▸ List.mem_cons_self
  have notZero := Json.head_decimalDigits pos
  rw [shape] at notZero
  refine ⟨c, mem, ?_⟩
  rw [Json.isDigit_of_decimal mem]
  exact bne_iff_ne.2 fun zero => notZero (congrArg some zero)

theorem isGrouped_of_isDouble {n : Int64} (exact : IsDouble n.toInt) (places : Nat) :
    IsGrouped n places (grouped places (Float.ofInt n.toInt)) := by
  have fits : n.toInt.natAbs < 2 ^ 64 := by
    have low : -2 ^ 63 ≤ n.toInt := n.minValue_le_toInt
    have high : n.toInt < 2 ^ 63 := n.toInt_lt
    omega
  obtain ⟨b, reading, spans, sign⟩ := exists_read_ofInt fits exact
  have text := fixed_of_spans reading spans places
  have negative : (decide (Float.ofInt n.toInt < 0.0) &&
      (decimalDigits n.toInt.natAbs ++ pointZeros places).any fun c => isDigit c && c != '0') =
      decide (n.toInt < 0) := by
    rw [decide_eq_decide.2 sign]
    by_cases below : n.toInt < 0
    · obtain ⟨c, mem, digit⟩ := exists_digit_ne_zero (Int.natAbs_pos.2 (Int.ne_of_lt below))
      rw [List.any_append, List.any_eq_true.2 ⟨c, mem, digit⟩, Bool.true_or, Bool.and_true]
    · rw [decide_eq_false below, Bool.false_and]
  have written : (grouped places (Float.ofInt n.toInt)).toList =
      signed (n.toInt < 0) (group (decimalDigits n.toInt.natAbs) ++ pointZeros places) := by
    simp only [grouped, text, splitPoint_digits fun _ => Json.isDigit_of_decimal, negative,
      String.toList_ofList]
  refine ⟨⟨_, inThrees_group (decimalDigits_ne_nil _), written⟩, ?_⟩
  have noComma : ∀ c ∈ decimalDigits n.toInt.natAbs ++ pointZeros places, c ≠ ',' := fun c mem =>
    (noMark_of_withPlaces (withPlaces_shifted _ places ▸ mem)).1
  have plain := filter_group_splitPoint noComma
  rw [splitPoint_digits fun _ => Json.isDigit_of_decimal] at plain
  rw [written, filter_signed, plain, render_int, signed_append]

theorem signed_inj {cs ds : List Char} {a b : Bool} (first : '-' ∉ cs) (second : '-' ∉ ds)
    (same : signed a cs = signed b ds) : cs = ds := by
  cases a <;> cases b
  · exact same
  · obtain rfl : cs = '-' :: ds := same
    exact absurd List.mem_cons_self first
  · obtain rfl : '-' :: cs = ds := same
    exact absurd List.mem_cons_self second
  · exact (List.cons.inj same).2

theorem isDouble_of_isGrouped {n : Int64} {places : Nat}
    (h : IsGrouped n places (grouped places (Float.ofInt n.toInt))) : IsDouble n.toInt := by
  obtain ⟨negative, plain⟩ := filter_grouped places (Float.ofInt n.toInt)
  have same := plain.symm.trans h.plain
  rw [render_int, signed_append] at same
  refine isDouble_of_fixed (signed_inj ?_ ?_ same)
  · exact fun mem => (noMark_of_fixed mem).2 rfl
  · rw [← withPlaces_shifted]
    exact fun mem => (noMark_of_withPlaces mem).2 rfl

/-- An integer that is a double asks for as many places as it says. -/
theorem integerAt?_int {places : Int64} (exact : IsDouble places.toInt) (more : List Value) :
    integerAt? (.int places :: more) 0 = some places.toInt :=
  congrArg some (toInt64_ofInt_of_isDouble exact)

theorem numberFormat_eq {v : Value} {x : Float} (number : v.number? = some x) (args : List Value)
    (places : Nat) (asked : (integerAt? args 0).getD 0 = places) (few : places ≤ 20) :
    numberFormat v args = .string (grouped places x) := by
  have kept : (clamp 0 mostPlaces ((integerAt? args 0).getD 0)).toNat = places := by
    rw [asked, clamp, mostPlaces, if_neg (by omega), if_neg (by omega), Int.toNat_natCast]
  rw [numberFormat, kept, number]
  rfl

theorem numberFormat_int (n : Int64) (args : List Value) (places : Nat)
    (asked : (integerAt? args 0).getD 0 = places) (few : places ≤ 20) :
    numberFormat (.int n) args = .string (grouped places (Float.ofInt n.toInt)) :=
  numberFormat_eq rfl args places asked few

/-- An integer is written exactly, with as many places as asked for, if and only if it is a double. -/
theorem numberFormat_exact_iff (n : Int64) (args : List Value) (places : Nat)
    (asked : (integerAt? args 0).getD 0 = places) (few : places ≤ 20) :
    ∃ text, numberFormat (.int n) args = .string text ∧
      (IsGrouped n places text ↔ IsDouble n.toInt) :=
  ⟨_, numberFormat_int n args places asked few, isDouble_of_isGrouped,
    fun exact => isGrouped_of_isDouble exact places⟩

theorem numberFormat_exact_iff_millions :
    (integerAt? [.int 2] 0).getD 0 = (2 : Nat) ∧
      numberFormat (.int (-1234567)) [.int 2] = .string "-1,234,567.00" ∧
        IsGrouped (-1234567) 2 "-1,234,567.00" := by
  have asked : (integerAt? [.int 2] 0).getD 0 = (2 : Nat) := by
    rw [integerAt?_int (isDouble_of_natAbs_le (by decide))]
    rfl
  have value : grouped 2 (Float.ofInt (-1234567)) = "-1,234,567.00" := by decide +kernel
  have written := numberFormat_int (-1234567) [.int 2] 2 asked (by decide)
  obtain ⟨text, same, exact⟩ := numberFormat_exact_iff (-1234567) [.int 2] 2 asked (by decide)
  obtain rfl : text = "-1,234,567.00" := Value.string.inj (same.symm.trans (written.trans
    (congrArg Value.string value)))
  exact ⟨asked, same, exact.2 (isDouble_of_natAbs_le (by decide))⟩

/-- The least integer that is no double is written as the one before it. -/
theorem not_numberFormat_exact :
    ¬∀ (n : Int64) (args : List Value) (places : Nat), (integerAt? args 0).getD 0 = places →
      places ≤ 20 →
        ∃ text, numberFormat (.int n) args = .string text ∧ IsGrouped n places text := by
  intro every
  obtain ⟨text, same, exact⟩ := every 9007199254740993 [] 0 rfl (by decide)
  have value : grouped 0 (Float.ofInt 9007199254740993) = "9,007,199,254,740,992" := by decide +kernel
  have written := numberFormat_int 9007199254740993 [] 0 rfl (by decide)
  obtain rfl : text = "9,007,199,254,740,992" := Value.string.inj (same.symm.trans (written.trans
    (congrArg Value.string value)))
  have plain := exact.plain
  revert plain
  decide +kernel

end Stencil.Filter
