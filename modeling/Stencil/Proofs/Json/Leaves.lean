import Stencil.Json.Reader
import Stencil.Json.Writer
import Stencil.Text.Find

/-!
# The leaves of JSON, written and read

What the writer makes of a string or a whole number, the reader takes off the front of any text that
goes on in another way.

1. `readString_stringBody`: every string comes back.
2. `readNumber_digits`: a row of digits is read as `ofDigits`, whatever stands behind it.
3. `natural?_ofDigits`: a number below the limit comes back, and a larger one as no whole number.
-/

namespace Stencil.Json

open Stencil.Decimal
open Stencil.Text

/-! ## Strings -/

theorem unit?_lowerHexDigit :
    ∀ n < 0x20, unit? '0' '0' (lowerHexDigit (n / 16)) (lowerHexDigit (n % 16)) = some n := by
  decide

theorem single?_toNat (c : Char) : single? c.toNat = some c := by
  have valid := c.valid
  rw [single?, if_neg, Char.ofNat_toNat]
  rcases valid with low | high
  · exact fun surrogate => absurd surrogate.1 (by simpa using low)
  · intro surrogate
    have above := high.1
    simp only [Char.toNat] at surrogate
    omega

/-- A unit that is no surrogate stands for itself, also before another unit. -/
theorem readString_unit {a b c d char : Char} {n : Nat} (h : unit? a b c d = some n)
    (single : single? n = some char) (seen rest : List Char) :
    readString seen ('\\' :: 'u' :: a :: b :: c :: d :: rest) = readString (char :: seen) rest := by
  rw [readString.eq_def]
  split
  · next shape => cases shape
  · next shape =>
    cases shape
    simp [h, single]
  · next shape =>
    cases shape
    simp [h, single]
  · next short shape =>
    cases shape
    exact absurd rfl (short a b c d rest rfl)
  · next other shape =>
    cases shape
    exact absurd rfl (other _ _ rfl)
  · next shape => cases shape

theorem readString_escaped {c char : Char} (h : escaped? c = some char) (seen rest : List Char) :
    readString seen ('\\' :: c :: rest) = readString (char :: seen) rest := by
  have plain : c ≠ 'u' := by
    rintro rfl
    cases h
  rw [readString.eq_def]
  split
  all_goals
    rename_i shape
    cases shape
  all_goals simp_all

theorem readString_plain {c : Char} (quote : c ≠ '"') (backslash : c ≠ '\\') (low : ¬c.toNat < 0x20)
    (seen rest : List Char) : readString seen (c :: rest) = readString (c :: seen) rest := by
  rw [readString.eq_def]
  split
  all_goals
    rename_i shape
    cases shape
  all_goals try contradiction
  rw [if_neg (by simp [low, backslash])]

/-- How a character may stand inside of a string: as an escape of one letter, by its number, or by
itself. -/
inductive Spelling (c : Char) : List Char → Prop
  | letter {e : Char} (escape : escaped? e = some c) : Spelling c ['\\', e]
  | unit {k l m n : Char} (digits : unit? k l m n = some c.toNat) :
      Spelling c ['\\', 'u', k, l, m, n]
  | plain (quote : c ≠ '"') (backslash : c ≠ '\\') (low : ¬c.toNat < 0x20) : Spelling c [c]

theorem Spelling.read {c : Char} {unit : List Char} (h : Spelling c unit) (seen rest : List Char) :
    readString seen (unit ++ rest) = readString (c :: seen) rest := by
  cases h with
  | letter escape => exact readString_escaped escape seen rest
  | unit digits => exact readString_unit digits (single?_toNat c) seen rest
  | plain quote backslash low => exact readString_plain quote backslash low seen rest

theorem spelling_stringChar (c : Char) : Spelling c (stringChar c) := by
  unfold stringChar
  split
  · exact .letter rfl
  · exact .letter rfl
  · exact .letter rfl
  · exact .letter rfl
  · exact .letter rfl
  · next quote backslash _ _ _ =>
    split
    · next h =>
      obtain rfl : c = '\x08' := by rw [← Char.ofNat_toNat c, h]
      exact .letter rfl
    · split
      · next h =>
        obtain rfl : c = '\x0c' := by rw [← Char.ofNat_toNat c, h]
        exact .letter rfl
      · split
        · next low => exact .unit (unit?_lowerHexDigit _ low)
        · next low => exact .plain (fun h => quote h) (fun h => backslash h) low

theorem readString_stringChar (c : Char) (seen rest : List Char) :
    readString seen (stringChar c ++ rest) = readString (c :: seen) rest :=
  (spelling_stringChar c).read seen rest

/-- The inside of a string is read up to its closing quote. -/
theorem readString_stringBody (cs seen rest : List Char) :
    readString seen (stringBody cs ++ '"' :: rest) =
      some (String.ofList (seen.reverse ++ cs), rest) := by
  induction cs generalizing seen with
  | nil => simp [stringBody, readString]
  | cons c more ih =>
      have split : stringBody (c :: more) = stringChar c ++ stringBody more := rfl
      rw [split, List.append_assoc, readString_stringChar, ih, List.reverse_cons, List.append_assoc]
      rfl

/-! ## Whole numbers -/

/-- Whether a text does not go on with what belongs to a number. -/
def EndsNumber (rest : List Char) : Prop :=
  ∀ c ∈ rest.head?, isDigit c = false ∧ c ≠ '.' ∧ c ≠ 'e' ∧ c ≠ 'E'

theorem isDigit_of_decimal {n : Nat} {c : Char} (h : c ∈ decimalDigits n) : isDigit c = true := by
  have digit := Nat.isDigit_of_mem_toDigits (by decide) (by decide) h
  simpa [Char.isDigit, isDigit, Char.le_def] using digit

theorem digitsValue_decimalDigits (n : Nat) : digitsValue (decimalDigits n) = n :=
  Nat.ofDigitChars_ten_toDigits

theorem le_digitsFrom (s : Nat) (digits : List Char) : s ≤ digitsFrom s digits := by
  induction digits generalizing s with
  | nil => exact Nat.le_refl s
  | cons c more ih =>
      have further := ih (10 * s + digitValue c)
      have : digitsFrom s (c :: more) = digitsFrom (10 * s + digitValue c) more := rfl
      omega

theorem gather_append {digits rest : List Char} (stop : EndsNumber rest) (s k : Nat) :
    gather s k (digits ++ rest) =
      ((gather s k digits).1, (gather s k digits).2.1, (gather s k digits).2.2 ++ rest) := by
  induction digits generalizing s k with
  | nil =>
      cases rest with
      | nil => rfl
      | cons c more => simp [gather, (stop c rfl).1]
  | cons c more ih =>
      simp only [List.cons_append, gather]
      split
      · exact ih _ _
      · rfl

/-- Digits are all taken if their value fits, and only then. -/
theorem gather_digits {digits : List Char} (areDigits : ∀ c ∈ digits, isDigit c = true) {s : Nat}
    (fits : s < wordLimit) (k : Nat) :
    if digitsFrom s digits < wordLimit then
      (gather s k digits).1 = digitsFrom s digits ∧ (gather s k digits).2.2 = []
    else (gather s k digits).2.2 ≠ [] := by
  induction digits generalizing s k with
  | nil => simp [digitsFrom, gather, fits]
  | cons c more ih =>
      have head := areDigits c List.mem_cons_self
      have step : digitsFrom s (c :: more) = digitsFrom (s * 10 + digitValue c) more := by
        rw [Nat.mul_comm]
        rfl
      rw [step]
      by_cases h : s * 10 + digitValue c < wordLimit
      · have taken : gather s k (c :: more) = gather (s * 10 + digitValue c) (k + 1) more := by
          rw [gather, if_pos ⟨head, h⟩]
        rw [taken]
        exact ih (fun d inMore => areDigits d (List.mem_cons_of_mem c inMore)) h (k + 1)
      · -- More digits only make the value greater.
        have beyond : ¬digitsFrom (s * 10 + digitValue c) more < wordLimit := by
          have := le_digitsFrom (s * 10 + digitValue c) more
          omega
        have left : gather s k (c :: more) = (s, k, c :: more) := by
          rw [gather, if_neg fun both => h both.2]
        rw [if_neg beyond, left]
        exact List.cons_ne_nil c more

/-- The number that a row of digits is read as: a whole one if it fits, else a double. -/
def ofDigits (negative : Bool) (digits : List Char) : Option Json :=
  let (significand, _, excess) := gather 0 0 digits
  if excess.isEmpty then some (wholeNumber negative significand)
  else (scaled? significand excess.length).map (withSign negative)

/-- The digits of a number do not begin with zero, except for those of zero. -/
theorem head_decimalDigits {n : Nat} (h : 0 < n) : (decimalDigits n).head? ≠ some '0' := by
  induction n using Nat.strongRecOn with
  | ind n ih =>
      by_cases small : n < 10
      · rw [decimalDigits, Nat.toDigits_of_lt_base small]
        exact (by decide : ∀ d < 10, 0 < d → [Nat.digitChar d].head? ≠ some '0') n small h
      · have shorter := ih (n / 10) (by omega) (by omega)
        have split : decimalDigits n = decimalDigits (n / 10) ++ [(n % 10).digitChar] :=
          Nat.toDigits_of_base_le (by decide) (by omega)
        obtain ⟨d, more, shape⟩ := List.exists_cons_of_ne_nil (decimalDigits_ne_nil (n / 10))
        rw [shape] at shorter
        rw [split, shape]
        exact shorter

theorem isEmpty_decimalDigits (n : Nat) : (decimalDigits n).isEmpty = false := by
  rw [List.isEmpty_eq_false_iff]
  exact decimalDigits_ne_nil n

theorem noLeadingZero (n : Nat) :
    (1 < (decimalDigits n).length && (decimalDigits n).head? == some '0') = false := by
  rcases Nat.eq_zero_or_pos n with rfl | positive
  · decide
  · rw [beq_eq_false_iff_ne.2 (head_decimalDigits positive), Bool.and_false]

theorem takeWhile_digits {digits rest : List Char} (areDigits : ∀ c ∈ digits, isDigit c = true)
    (stop : EndsNumber rest) : (digits ++ rest).takeWhile isDigit = digits :=
  takeWhile_append_of_stop areDigits fun c head => (stop c head).1

theorem dropWhile_digits {digits rest : List Char} (areDigits : ∀ c ∈ digits, isDigit c = true)
    (stop : EndsNumber rest) : (digits ++ rest).dropWhile isDigit = rest :=
  dropWhile_append_of_stop areDigits fun c head => (stop c head).1

theorem gather_subset (s k : Nat) (digits : List Char) : (gather s k digits).2.2 ⊆ digits := by
  induction digits generalizing s k with
  | nil => exact List.Subset.refl _
  | cons c more ih =>
      rw [gather]
      split
      · exact List.subset_cons_of_subset c (ih _ _)
      · exact List.Subset.refl _

theorem readNumber_digits (negative : Bool) (n : Nat) {rest : List Char} (stop : EndsNumber rest) :
    readNumber negative (decimalDigits n ++ rest) =
      (ofDigits negative (decimalDigits n)).map (·, rest) := by
  have areDigits : ∀ c ∈ (gather 0 0 (decimalDigits n)).2.2, isDigit c = true := fun c member =>
    isDigit_of_decimal (gather_subset _ _ _ member)
  simp only [readNumber, takeWhile_digits (fun c => isDigit_of_decimal) stop, gather_append stop,
    isEmpty_decimalDigits, noLeadingZero, ofDigits]
  generalize gather 0 0 (decimalDigits n) = taken at areDigits ⊢
  obtain ⟨significand, count, excess⟩ := taken
  rw [takeWhile_digits areDigits stop, dropWhile_digits areDigits stop]
  simp only [Bool.or_false, Bool.false_eq_true, if_false, List.length_eq_zero_iff,
    List.isEmpty_iff, Int.natCast_eq_zero]
  split
  · exact absurd rfl (stop _ rfl).2.1
  · split
    · split
      · exact absurd rfl (stop _ rfl).2.2.1
      · exact absurd rfl (stop _ rfl).2.2.2
      · rfl
    · unfold readPower
      split
      · exact absurd rfl (stop _ rfl).2.2.1
      · exact absurd rfl (stop _ rfl).2.2.2
      · simp [Option.map_map, Function.comp_def]

/-- The digits of a number that fits 64 bits spell a whole number. -/
theorem ofDigits_of_lt {n : Nat} (fits : n < wordLimit) (negative : Bool) :
    ofDigits negative (decimalDigits n) = some (wholeNumber negative n) := by
  have digits := gather_digits (fun c => isDigit_of_decimal (n := n)) (by decide : 0 < wordLimit) 0
  have value : digitsFrom 0 (decimalDigits n) = n := digitsValue_decimalDigits n
  rw [value, if_pos fits] at digits
  simp only [ofDigits, digits.1, digits.2, List.isEmpty_nil, if_true]

/-- The whole number that is read from the digits of a number: the same if it fits. -/
theorem natural?_ofDigits {limit : Nat} (h : limit ≤ wordLimit) (n : Nat) :
    (ofDigits false (decimalDigits n)).bind (natural? limit) =
      if n < limit then some n else none := by
  by_cases fits : n < wordLimit
  · simp [ofDigits_of_lt fits, wholeNumber, natural?]
  · have digits := gather_digits (fun c => isDigit_of_decimal (n := n))
      (by decide : 0 < wordLimit) 0
    have value : digitsFrom 0 (decimalDigits n) = n := digitsValue_decimalDigits n
    rw [value, if_neg fits] at digits
    rw [if_neg (by omega)]
    have empty : (gather 0 0 (decimalDigits n)).2.2.isEmpty = false := by
      rwa [List.isEmpty_eq_false_iff]
    simp only [ofDigits, empty]
    cases scaled? (gather 0 0 (decimalDigits n)).1 (gather 0 0 (decimalDigits n)).2.2.length <;> rfl

end Stencil.Json
