import Stencil.Proofs.Filter.Grouping

/-!
# Commas in numbers

The commas of a number stand in its whole part, in front of the digits from which on there are
three, six or any other multiple of three digits. Without them a number is its magnitude with a
fixed number of places, and has a minus sign in front if it is negative and some of these digits are
not zero.

1. `InCommas`, `inCommas_iff`: where commas stand.
2. `IsFormatted`: a number with commas.
3. `numberFormat_in_commas`: every finite number.
-/

namespace Stencil.Filter

open Stencil.Text Stencil.Decimal

/-! ## Commas -/

/-- A row of digits with commas in it. -/
structure InCommas (digits text : List Char) : Prop where
  /-- The commas are all that is put in. -/
  plain : text.filter (· != ',') = digits
  /-- A comma stands between two digits, and from the second one on the number of digits is a
  multiple of three. -/
  between : ∀ front back, text = front ++ ',' :: back →
    (∃ c ∈ front, c ≠ ',') ∧ (∃ d ∈ back.head?, d ≠ ',') ∧ 3 ∣ (back.filter (· != ',')).length
  /-- Where two digits stand side by side, it is none from the second one on. -/
  beside : ∀ front c d back, text = front ++ c :: d :: back → c ≠ ',' → d ≠ ',' →
    ¬3 ∣ ((d :: back).filter (· != ',')).length

namespace InCommas

variable {digits text : List Char} {c : Char}

theorem of_length_le (short : text.length ≤ 1) (noComma : ∀ c ∈ text, c ≠ ',') :
    InCommas text text where
  plain := List.filter_eq_self.2 fun c mem => bne_iff_ne.2 (noComma c mem)
  between front back split := by
    rw [split] at noComma
    exact absurd rfl (noComma ',' (List.mem_append_right front List.mem_cons_self))
  beside front c d back split := by
    rw [split, List.length_append, List.length_cons, List.length_cons] at short
    omega

/-- A digit and a comma in front. -/
theorem cons_comma (digit : c ≠ ',') (h : InCommas digits text) (start : ∃ d ∈ text.head?, d ≠ ',')
    (threes : 3 ∣ digits.length) : InCommas (c :: digits) (c :: ',' :: text) where
  plain := by simp [digit, h.plain]
  between front back split := by
    rcases front with _ | ⟨a, _ | ⟨b, front⟩⟩
    · exact absurd (List.cons.inj split).1 digit
    · obtain ⟨rfl, rest⟩ := List.cons.inj split
      obtain rfl : text = back := (List.cons.inj rest).2
      exact ⟨⟨c, List.mem_cons_self, digit⟩, start, h.plain ▸ threes⟩
    · obtain ⟨rfl, rest⟩ := List.cons.inj split
      obtain ⟨-, further⟩ := h.between front back (List.cons.inj rest).2
      exact ⟨⟨c, List.mem_cons_self, digit⟩, further⟩
  beside front a d back split digitA digitD := by
    rcases front with _ | ⟨e, _ | ⟨b, front⟩⟩
    · obtain ⟨-, rest⟩ := List.cons.inj split
      exact absurd (List.cons.inj rest).1.symm digitD
    · obtain ⟨-, rest⟩ := List.cons.inj split
      exact absurd (List.cons.inj rest).1.symm digitA
    · obtain ⟨-, rest⟩ := List.cons.inj split
      exact h.beside front a d back (List.cons.inj rest).2 digitA digitD

/-- A digit in front. -/
theorem cons_digit (digit : c ≠ ',') (h : InCommas digits text) (partly : ¬3 ∣ digits.length) :
    InCommas (c :: digits) (c :: text) where
  plain := by simp [digit, h.plain]
  between front back split := by
    rcases front with _ | ⟨a, front⟩
    · exact absurd (List.cons.inj split).1 digit
    · obtain ⟨rfl, rest⟩ := List.cons.inj split
      obtain ⟨-, further⟩ := h.between front back rest
      exact ⟨⟨c, List.mem_cons_self, digit⟩, further⟩
  beside front a d back split digitA digitD := by
    rcases front with _ | ⟨b, front⟩
    · obtain ⟨-, rest⟩ := List.cons.inj split
      rwa [← rest, h.plain]
    · exact h.beside front a d back (List.cons.inj split).2 digitA digitD

/-- What is left when some of the front is taken away, up to a digit. -/
theorem tail (front : List Char) (h : InCommas digits (front ++ text))
    (start : ∀ d ∈ text.head?, d ≠ ',') : InCommas (text.filter (· != ',')) text where
  plain := rfl
  between inner back split := by
    obtain ⟨-, further⟩ := h.between (front ++ inner) back (by rw [split, List.append_assoc])
    refine ⟨?_, further⟩
    cases inner with
    | nil => exact absurd rfl (start ',' (by rw [split]; rfl))
    | cons d inner => exact ⟨d, List.mem_cons_self, start d (by rw [split]; rfl)⟩
  beside inner c d back split :=
    h.beside (front ++ inner) c d back (by rw [split, List.append_assoc])

end InCommas

theorem group_of_dvd (c : Char) {rest : List Char} (some : rest ≠ []) (threes : 3 ∣ rest.length) :
    group (c :: rest) = c :: ',' :: group rest := by
  rw [group, if_pos]
  simp [some, Nat.mod_eq_zero_of_dvd threes]

theorem group_of_not_dvd (c : Char) {rest : List Char} (partly : ¬3 ∣ rest.length) :
    group (c :: rest) = c :: group rest := by
  rw [group, if_neg]
  simpa using fun full => absurd (Nat.dvd_of_mod_eq_zero full) partly

theorem head?_group (cs : List Char) : (group cs).head? = cs.head? := by
  cases cs with
  | nil => rfl
  | cons c rest =>
      rw [group]
      split <;> rfl

theorem inCommas_group {digits : List Char} (noComma : ∀ c ∈ digits, c ≠ ',') :
    InCommas digits (group digits) := by
  induction digits with
  | nil => exact .of_length_le (Nat.zero_le 1) noComma
  | cons c rest ih =>
      obtain ⟨digit, others⟩ := List.forall_mem_cons.1 noComma
      by_cases threes : 3 ∣ rest.length
      · cases rest with
        | nil => exact .of_length_le (Nat.le_refl 1) noComma
        | cons d rest =>
            rw [group_of_dvd c (List.cons_ne_nil d rest) threes]
            refine .cons_comma digit (ih others) ⟨d, ?_, others d List.mem_cons_self⟩ threes
            rw [head?_group]
            rfl
      · rw [group_of_not_dvd c threes]
        exact .cons_digit digit (ih others) threes

/-- The commas of a row of digits have no other places. -/
theorem InCommas.eq_group {digits text : List Char} (h : InCommas digits text) :
    text = group digits := by
  have first {d : Char} {digits text : List Char} (h : InCommas digits (d :: text)) : d ≠ ',' := by
    rintro rfl
    obtain ⟨⟨c, none, -⟩, -⟩ := h.between [] text rfl
    cases none
  induction digits generalizing text with
  | nil =>
      cases text with
      | nil => rfl
      | cons d text => exact absurd h.plain (by simp [first h])
  | cons c rest ih =>
      cases text with
      | nil => cases h.plain
      | cons d text =>
          have plain : d :: text.filter (· != ',') = c :: rest := by simpa [first h] using h.plain
          obtain ⟨rfl, isRest⟩ := List.cons.inj plain
          -- The next character is either a comma or the next digit.
          rcases text with _ | ⟨e, text⟩
          · rw [← isRest]
            rfl
          · by_cases comma : e = ','
            · obtain rfl := comma
              obtain ⟨-, ⟨next, head, digit⟩, threes⟩ := h.between [d] text rfl
              have start : ∀ e ∈ text.head?, e ≠ ',' := fun e isHead =>
                Option.some.inj (head.symm.trans isHead) ▸ digit
              have further := InCommas.tail [d, ','] h start
              obtain rfl : text.filter (· != ',') = rest := isRest
              have some : text.filter (· != ',') ≠ [] :=
                List.ne_nil_of_mem (List.mem_filter.2
                  ⟨List.mem_of_mem_head? head, bne_iff_ne.2 digit⟩)
              rw [group_of_dvd d some threes, ← ih further]
            · have further := InCommas.tail [d] h (by simpa using comma)
              rw [isRest] at further
              have partly := h.beside [] d e text rfl (first h) comma
              rw [isRest] at partly
              rw [group_of_not_dvd d partly, ← ih further]

theorem inCommas_iff {digits text : List Char} (noComma : ∀ c ∈ digits, c ≠ ',') :
    InCommas digits text ↔ text = group digits :=
  ⟨InCommas.eq_group, fun same => same ▸ inCommas_group noComma⟩

/-! ## Numbers -/

/-- A number whose magnitude has this text has a minus sign. -/
def HasSign (x : Float) (magnitude : List Char) : Prop :=
  x < 0.0 ∧ ∃ c ∈ magnitude, (isDigit c && c != '0') = true

instance (x : Float) (magnitude : List Char) : Decidable (HasSign x magnitude) :=
  inferInstanceAs (Decidable (_ ∧ ∃ c ∈ magnitude, _))

/-- A number with commas: a minus sign if it has one, the digits before the point with their commas,
and the point and the digits behind it without any. -/
structure IsFormatted (places : Nat) (x : Float) (text : List Char) : Prop where
  plain : text.filter (· != ',') =
    signed (HasSign x (fixed places (magnitude x))) (fixed places (magnitude x))
  form : ∃ whole fraction commas, InPlaces places (fixed places (magnitude x)) whole fraction ∧
    InCommas whole commas ∧ ',' ∉ pointed fraction ∧
      text = signed (HasSign x (fixed places (magnitude x))) (commas ++ pointed fraction)

theorem noComma_of_digits {cs : List Char} (areDigits : ∀ c ∈ cs, isDigit c = true) :
    ∀ c ∈ cs, c ≠ ',' := by
  rintro c mem rfl
  cases areDigits _ mem

theorem head?_pointed (fraction : List Char) : ∀ c ∈ (pointed fraction).head?, c = '.' := by
  intro c first
  rw [pointed] at first
  split at first
  · cases first
  · cases first
    rfl

theorem noComma_pointed {fraction : List Char} (areDigits : ∀ c ∈ fraction, isDigit c = true) :
    ',' ∉ pointed fraction := by
  rw [pointed]
  split
  · exact List.not_mem_nil
  · rintro (_ | ⟨_, mem⟩)
    exact noComma_of_digits areDigits _ mem rfl

theorem isFormatted_grouped {x : Float} {b : Binary} (finite : read x = .finite b) (places : Nat) :
    IsFormatted places x (grouped places x).toList := by
  have sameText := fixed_magnitude finite places
  obtain ⟨whole, fraction, parts⟩ : ∃ whole fraction,
      InPlaces places (fixed places (magnitude x)) whole fraction := by
    rw [sameText, fixed, finite]
    exact exists_inPlaces _ places
  have cut : splitPoint (fixed places x) = (whole, pointed fraction) := by
    rw [← sameText, parts.text_eq]
    exact splitPoint_append parts.whole_digits (head?_pointed fraction)
  have sign : (decide (x < 0.0) && (fixed places x).any fun c => isDigit c && c != '0') =
      decide (HasSign x (fixed places (magnitude x))) := by
    rw [Bool.eq_iff_iff, Bool.and_eq_true, decide_eq_true_iff, List.any_eq_true, decide_eq_true_iff,
      sameText]
    rfl
  have written : (grouped places x).toList =
      signed (HasSign x (fixed places (magnitude x))) (group whole ++ pointed fraction) := by
    simp only [grouped, cut, sign, String.toList_ofList]
  have commas := inCommas_group (noComma_of_digits parts.whole_digits)
  have behind := noComma_pointed parts.fraction_digits
  refine ⟨?_, whole, fraction, group whole, parts, commas, behind, written⟩
  have kept : (pointed fraction).filter (· != ',') = pointed fraction :=
    List.filter_eq_self.2 fun c mem => bne_iff_ne.2 fun comma => behind (comma ▸ mem)
  rw [written, filter_signed, List.filter_append, commas.plain, kept, ← parts.text_eq]

/-- A finite number is written as its magnitude with as many places as asked for, and with commas in
its whole part. It has a minus sign exactly if it is negative and some of the digits that are left
of it are not zero. -/
theorem numberFormat_in_commas {v : Value} {x : Float} {b : Binary} (number : v.number? = some x)
    (finite : read x = .finite b) (args : List Value) (places : Nat)
    (asked : (integerAt? args 0).getD 0 = places) (few : places ≤ 20) :
    ∃ text, numberFormat v args = .string text ∧ IsFormatted places x text.toList :=
  ⟨_, numberFormat_eq number args places asked few, isFormatted_grouped finite places⟩

theorem numberFormat_in_commas_rounded :
    let x := Float.ofBits 0xC132D687E4189375
    let b : Binary := ⟨true, 5302428716536693, -32, false⟩
    (Value.float x).number? = some x ∧ read x = .finite b ∧
      (integerAt? [.int 2] 0).getD 0 = (2 : Nat) ∧ 2 ≤ 20 ∧
        numberFormat (.float x) [.int 2] = .string "-1,234,567.89" ∧
          IsFormatted 2 x "-1,234,567.89".toList := by
  intro x b
  have bits : x.toBits.toNat = 0xC132D687E4189375 := by decide +kernel
  have finite : read x = .finite b := by
    simp only [Decimal.read, bits]
    rfl
  have asked : (integerAt? [.int 2] 0).getD 0 = (2 : Nat) := by
    rw [integerAt?_int (isDouble_of_natAbs_le (by decide))]
    rfl
  have value : grouped 2 x = "-1,234,567.89" := by decide +kernel
  have written := numberFormat_eq (v := .float x) rfl [.int 2] 2 asked (by decide)
  obtain ⟨text, same, formatted⟩ :=
    numberFormat_in_commas (v := .float x) rfl finite [.int 2] 2 asked (by decide)
  obtain rfl : text = "-1,234,567.89" := Value.string.inj (same.symm.trans (written.trans
    (congrArg Value.string value)))
  exact ⟨rfl, finite, asked, by decide, same, formatted⟩

end Stencil.Filter
