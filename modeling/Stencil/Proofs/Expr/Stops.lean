import Mathlib.Data.List.TakeWhile
import Stencil.Error
import Stencil.Proofs.Expr.Printer

/-!
# What stops the readers

Words, keys and numbers are read up to a character that does not belong to them. What begins with such a
character can stand behind them, or be taken away from there, without effect.

1. `Stops`, `stops_of_blank`, `stops_points`: texts that stop the readers.
2. `readWord_behind`, `readKey_behind`, `readNumber_behind`: what is read in front of them.
3. `length_of_readWord`, `length_of_readKey`, `length_of_readNumber`: how much is left.
-/

namespace Stencil

open Stencil.Text

namespace Expr

variable {tail cs rest : List Char}

/-! ## Characters -/

theorem isWordChar_of_isBlank {c : Char} (h : isBlank c = true) : isWordChar c = false := by
  refine Bool.eq_false_iff.2 fun word => ?_
  rw [isBlank_of_isWordChar word] at h
  cases h

theorem isDigit_of_isBlank {c : Char} (h : isBlank c = true) : isDigit c = false := by
  refine Bool.eq_false_iff.2 fun digit => ?_
  rw [isBlank_of_isDigit digit] at h
  cases h

theorem isBlank_of_isQuote {c : Char} (h : isQuote c = true) : isBlank c = false := by
  rw [isQuote, Bool.or_eq_true, beq_iff_eq, beq_iff_eq] at h
  rcases h with rfl | rfl <;> decide

theorem startsFraction_iff :
    startsFraction cs = true ↔ ∃ d more, cs = '.' :: d :: more ∧ isDigit d = true := by
  constructor
  · intro h
    unfold startsFraction at h
    split at h
    · exact ⟨_, _, rfl, h⟩
    · cases h
  · rintro ⟨d, more, rfl, digit⟩
    exact digit

/-- A text that goes on with nothing that belongs to a word or a number. -/
structure Stops (tail : List Char) : Prop where
  word : ∀ c ∈ tail.head?, isWordChar c = false
  digit : ∀ c ∈ tail.head?, isDigit c = false
  sign : ∀ c ∈ tail.head?, c ≠ '-'
  fraction : startsFraction tail = false

theorem stops_of_blank (blank : ∀ c ∈ tail, isBlank c = true) : Stops tail where
  word c first := isWordChar_of_isBlank (blank c (List.mem_of_mem_head? first))
  digit c first := isDigit_of_isBlank (blank c (List.mem_of_mem_head? first))
  sign := by
    rintro c first rfl
    cases blank _ (List.mem_of_mem_head? first)
  fraction := by
    refine Bool.eq_false_iff.2 fun h => ?_
    obtain ⟨d, more, rfl, -⟩ := startsFraction_iff.1 h
    cases blank '.' List.mem_cons_self

/-- Two points stop the readers, since a fraction has a digit behind its point. -/
theorem stops_points (more : List Char) : Stops ('.' :: '.' :: more) where
  word := by
    rintro c ⟨⟩
    decide
  digit := by
    rintro c ⟨⟩
    decide
  sign := by
    rintro c ⟨⟩
    decide
  fraction := rfl

theorem takeWhile_append_stop {p : Char → Bool} (stop : ∀ c ∈ tail.head?, p c = false)
    (cs : List Char) : (cs ++ tail).takeWhile p = cs.takeWhile p := by
  induction cs with
  | nil => simpa using takeWhile_append_of_stop (List.forall_mem_nil _) stop
  | cons c cs ih => simp [List.takeWhile_cons, ih]

theorem dropWhile_append_stop {p : Char → Bool} (stop : ∀ c ∈ tail.head?, p c = false)
    (cs : List Char) : (cs ++ tail).dropWhile p = cs.dropWhile p ++ tail := by
  induction cs with
  | nil => simpa using dropWhile_append_of_stop (List.forall_mem_nil _) stop
  | cons c cs ih =>
      rw [List.cons_append, List.dropWhile_cons, ih, List.dropWhile_cons]
      split <;> rfl

/-! ## Words and keys -/

/-- What was read, with a text behind what is left. -/
def behind {α : Type} (tail : List Char) (p : α × List Char) : α × List Char := (p.1, p.2 ++ tail)

theorem readWord_behind (stops : Stops tail) (cs : List Char) :
    readWord (cs ++ tail) = (readWord cs).map (behind tail) := by
  simp only [readWord, takeWhile_append_stop stops.word, dropWhile_append_stop stops.word]
  split <;> rfl

theorem length_of_readWord {word : String} (h : readWord cs = .ok (word, rest)) :
    rest.length ≤ cs.length := by
  rw [readWord] at h
  split at h <;> cases h
  exact (List.dropWhile_suffix _).length_le

theorem readKey_behind (stops : Stops tail) (cs : List Char) :
    readKey (cs ++ tail) = (readKey cs).map (behind tail) := by
  have head : (cs ++ tail).head?.any isDigit = cs.head?.any isDigit := by
    cases cs with
    | nil =>
        cases first : tail.head? with
        | none => simp [first]
        | some t => simp [first, stops.digit t first]
    | cons c cs => rfl
  simp only [readKey, head, takeWhile_append_stop stops.digit, dropWhile_append_stop stops.digit,
    readWord_behind stops]
  split
  · rfl
  · cases readWord cs <;> rfl

theorem length_of_readKey {segment : Segment} (h : readKey cs = .ok (segment, rest)) :
    rest.length ≤ cs.length := by
  rw [readKey] at h
  split at h
  · cases h
    exact (List.dropWhile_suffix _).length_le
  · obtain ⟨⟨word, left⟩, read, same⟩ := map_eq_ok_iff.1 h
    cases same
    exact length_of_readWord read

/-! ## Numbers -/

/-- The number behind a sign, or behind none. -/
def readUnsigned (sign unsigned : List Char) : Except ExprError (Value × List Char) :=
  let whole := unsigned.takeWhile isDigit
  let rest := unsigned.dropWhile isDigit
  if startsFraction rest then
    let text := sign ++ whole ++ '.' :: (rest.drop 1).takeWhile isDigit
    match Decimal.double? text with
    | some x => .ok (.float x, (rest.drop 1).dropWhile isDigit)
    | none => .error (.invalidNumber (String.ofList text))
  else
    match integer? (!sign.isEmpty) whole with
    | some n => .ok (n, rest)
    | none => .error (.invalidNumber (String.ofList (sign ++ whole)))

theorem readNumber_unsigned (unsigned : ∀ c ∈ cs.head?, c ≠ '-') :
    readNumber cs = readUnsigned [] cs := by
  unfold readNumber
  split
  next sign rest isSign =>
    split at isSign
    · exact absurd rfl (unsigned '-' rfl)
    · cases isSign
      rfl

theorem startsFraction_append (stops : Stops tail) (cs : List Char) :
    startsFraction (cs ++ tail) = startsFraction cs := by
  rw [Bool.eq_iff_iff, startsFraction_iff, startsFraction_iff]
  constructor
  · rintro ⟨d, more, same, digit⟩
    -- Neither the fraction nor the digit begins with the tail.
    cases cs with
    | nil =>
        have fraction := stops.fraction
        rw [← List.nil_append tail, same, startsFraction, digit] at fraction
        cases fraction
    | cons c cs =>
        cases cs with
        | nil =>
            have behind : tail = d :: more := (List.cons_eq_cons.1 same).2
            rw [stops.digit d (by rw [behind]; rfl)] at digit
            cases digit
        | cons e cs =>
            cases same
            exact ⟨d, cs, rfl, digit⟩
  · rintro ⟨d, more, rfl, digit⟩
    exact ⟨d, more ++ tail, rfl, digit⟩

theorem readUnsigned_behind (stops : Stops tail) (sign cs : List Char) :
    readUnsigned sign (cs ++ tail) = (readUnsigned sign cs).map (behind tail) := by
  simp only [readUnsigned, takeWhile_append_stop stops.digit, dropWhile_append_stop stops.digit,
    startsFraction_append stops]
  split
  · next fraction =>
    obtain ⟨d, more, point, -⟩ := startsFraction_iff.1 fraction
    generalize d :: more = places at point
    simp only [point, List.cons_append, List.drop_one, List.tail_cons,
      takeWhile_append_stop stops.digit, dropWhile_append_stop stops.digit]
    split <;> rfl
  · split <;> rfl

theorem length_of_readUnsigned {sign : List Char} {n : Value}
    (h : readUnsigned sign cs = .ok (n, rest)) : rest.length ≤ cs.length := by
  have shorter := (List.dropWhile_suffix (l := cs) isDigit).length_le
  simp only [readUnsigned] at h
  split at h
  · have fewer := (List.dropWhile_suffix (l := (cs.dropWhile isDigit).drop 1) isDigit).length_le
    rw [List.length_drop] at fewer
    split at h <;> cases h
    omega
  · split at h <;> cases h
    exact shorter

theorem readNumber_behind (stops : Stops tail) (cs : List Char) :
    readNumber (cs ++ tail) = (readNumber cs).map (behind tail) := by
  cases cs with
  | nil =>
      rw [List.nil_append, readNumber_unsigned stops.sign, readNumber_unsigned (by rintro c ⟨⟩)]
      exact readUnsigned_behind stops [] []
  | cons c cs =>
      by_cases minus : c = '-'
      · subst minus
        exact readUnsigned_behind stops ['-'] cs
      · rw [readNumber_unsigned (by rintro d ⟨⟩; exact minus),
          readNumber_unsigned (by rintro d ⟨⟩; exact minus)]
        exact readUnsigned_behind stops [] (c :: cs)

theorem length_of_readNumber {n : Value} (h : readNumber cs = .ok (n, rest)) :
    rest.length ≤ cs.length := by
  cases cs with
  | nil =>
      rw [readNumber_unsigned (by rintro c ⟨⟩)] at h
      exact length_of_readUnsigned h
  | cons c cs =>
      by_cases minus : c = '-'
      · subst minus
        exact Nat.le_succ_of_le (length_of_readUnsigned h)
      · rw [readNumber_unsigned (by rintro d ⟨⟩; exact minus)] at h
        exact length_of_readUnsigned h

/-! ## Strings and marks -/

theorem ne_slash {c : Char} (empty : c = '\\' → cs = [] → False)
    (escape : ∀ d more, c = '\\' → cs = d :: more → False) : c ≠ '\\' := by
  rintro rfl
  cases cs with
  | nil => exact empty rfl rfl
  | cons d more => exact escape d more rfl rfl

theorem readQuoted_cons {c : Char} (notSlash : c ≠ '\\') (quote : Char) (seen rest : List Char) :
    readQuoted quote seen (c :: rest) =
      if c = quote then .ok (String.ofList seen.reverse, rest)
      else readQuoted quote (c :: seen) rest :=
  readQuoted.eq_4 quote seen c rest (fun slash _ => notSlash slash) fun _ _ slash _ => notSlash slash

theorem dropBlanks_append_of_eq_nil {cs : List Char} (none : dropBlanks cs = []) (tail : List Char) :
    dropBlanks (cs ++ tail) = dropBlanks tail := by
  rw [dropBlanks] at none
  rw [dropBlanks, List.dropWhile_append, none]
  rfl

theorem length_of_eat? {mark : Char} {cs rest : List Char} (h : eat? mark cs = some rest) :
    rest.length < cs.length := by
  have shorter := (List.dropWhile_suffix (l := cs) isBlank).length_le
  simp only [eat?, dropBlanks] at h
  split at h
  · cases h
  · next c more left =>
    rw [left, List.length_cons] at shorter
    split at h <;> cases h
    exact shorter

theorem length_of_negation? {cs left : List Char} (h : negation? cs = some left) :
    left.length < cs.length := by
  have shorter := (List.dropWhile_suffix (l := cs) isBlank).length_le
  rw [← dropBlanks] at shorter
  rw [negation?] at h
  split at h
  · next rest same =>
    cases h
    rw [same] at shorter
    exact shorter
  · next d rest same =>
    rw [same] at shorter
    split at h <;> cases h
    simp only [List.length_cons] at shorter ⊢
    omega
  · cases h

theorem eat?_append_of_some {mark : Char} (h : eat? mark cs = some rest) (tail : List Char) :
    eat? mark (cs ++ tail) = some (rest ++ tail) := by
  cases some : dropBlanks cs with
  | nil => simp [eat?, some] at h
  | cons c more =>
      simp only [eat?, some] at h
      simp only [eat?, dropBlanks_append_of_ne_nil (some ▸ List.cons_ne_nil c more), some,
        List.cons_append]
      split at h <;> cases h
      next isMark => rw [if_pos isMark]

theorem whole_eq_ok {α : Type} {step : Except ExprError (α × List Char)} {a : α} :
    whole step = .ok a ↔ ∃ rest, step = .ok (a, rest) ∧ dropBlanks rest = [] := by
  rw [whole, bind_eq_ok]
  constructor
  · rintro ⟨⟨b, rest⟩, read, finished⟩
    simp only at finished
    split at finished <;> cases finished
    next none => exact ⟨rest, read, List.isEmpty_iff.1 none⟩
  · rintro ⟨rest, read, none⟩
    refine ⟨(a, rest), read, ?_⟩
    simp only [none]
    rfl

/-! ## Rows without a further member -/

theorem readSegments_stop {cs : List Char} (stop : ∀ c ∈ cs.head?, c ≠ '.' ∧ c ≠ '[') (n : Nat) :
    readSegments n cs = .ok ([], cs) := by
  cases n with
  | zero => rfl
  | succ n =>
      unfold readSegments
      split
      · exact absurd rfl (stop '.' rfl).1
      · exact absurd rfl (stop '[' rfl).2
      · rfl

theorem readSegments_nil (n : Nat) : readSegments n [] = .ok ([], []) :=
  readSegments_stop (by rintro c ⟨⟩) n

theorem readCalls_stop {cs : List Char} (stop : eat? '|' cs = none) (n : Nat) :
    readCalls n cs = .ok ([], cs) := by
  cases n with
  | zero => rfl
  | succ n => rw [readCalls, stop]

/-- The path behind a dollar sign, or behind none. -/
def readRooted (sigil : Bool) (cs : List Char) : Except ExprError (Operand × List Char) := do
  let (root, rest) ← readWord cs
  let (segments, rest) ← readSegments rest.length rest
  return (pathOperand sigil root segments, rest)

theorem readPath_plain {cs : List Char} (plain : ∀ c ∈ cs.head?, c ≠ '$') :
    readPath cs = readRooted false cs := by
  unfold readPath
  split
  next sigil rest isSigil =>
    split at isSigil
    · exact absurd rfl (plain '$' rfl)
    · cases isSigil
      rfl

end Expr

end Stencil
