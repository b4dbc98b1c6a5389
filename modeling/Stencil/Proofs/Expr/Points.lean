import Stencil.Expr.Header
import Stencil.Proofs.Expr.Trailing

/-!
# Two points behind an operand

Two points in a row belong to no operand, and neither do they follow one. So a text whose front, up to
two points, is an operand is no expression.

1. `Meets`: a reading in front of two points, and one up to them.
2. `readOperand_meets`: operands.
3. `not_parseAll_of_operand`: what stands in front of two points in an expression is no operand.
-/

namespace Stencil

open Stencil.Text

namespace Expr

variable {α β : Type} {tail more : List Char}

/-! ## Readings -/

/-- What is read up to `tail` is what is read in front of it, where both are read. -/
def Meets (tail : List Char) (long short : Except ExprError (α × List Char)) : Prop :=
  ∀ a left, short = .ok (a, left) → ∀ b rest, long = .ok (b, rest) → b = a ∧ rest = left ++ tail

theorem Meets.ok (a : α) (left : List Char) : Meets tail (.ok (a, left ++ tail)) (.ok (a, left)) := by
  rintro b left' ⟨⟩ c rest ⟨⟩
  exact ⟨rfl, rfl⟩

theorem Meets.error (long : Except ExprError (α × List Char)) (e : ExprError) :
    Meets tail long (.error e) := by
  intro a left short
  cases short

theorem Meets.error_long (short : Except ExprError (α × List Char)) (e : ExprError) :
    Meets tail (.error e) short := by
  intro a left _ b rest long
  cases long

theorem Meets.of_behind {long short : Except ExprError (α × List Char)}
    (same : long = short.map (behind tail)) : Meets tail long short := by
  rintro a left rfl b rest read
  cases same.symm.trans read
  exact ⟨rfl, rfl⟩

theorem Meets.bind {long short : Except ExprError (α × List Char)} (h : Meets tail long short)
    {next next' : α × List Char → Except ExprError (β × List Char)}
    (further : ∀ a left, short = .ok (a, left) →
      Meets tail (next (a, left ++ tail)) (next' (a, left))) :
    Meets tail (long >>= next) (short >>= next') := by
  intro a left readShort b rest readLong
  obtain ⟨⟨a', left'⟩, firstShort, secondShort⟩ := bind_eq_ok.1 readShort
  obtain ⟨⟨b', rest'⟩, firstLong, secondLong⟩ := bind_eq_ok.1 readLong
  obtain ⟨rfl, rfl⟩ := h a' left' firstShort b' rest' firstLong
  exact further b' left' firstShort a left secondShort b rest secondLong

theorem Meets.map {long short : Except ExprError (α × List Char)} (h : Meets tail long short)
    (f : α → β) :
    Meets tail (long.map fun p => (f p.1, p.2)) (short.map fun p => (f p.1, p.2)) := by
  intro a left readShort b rest readLong
  obtain ⟨⟨a', left'⟩, firstShort, isShort⟩ := map_eq_ok_iff.1 readShort
  obtain ⟨⟨b', rest'⟩, firstLong, isLong⟩ := map_eq_ok_iff.1 readLong
  cases isShort
  cases isLong
  obtain ⟨rfl, rfl⟩ := h a' left' firstShort b' rest' firstLong
  exact ⟨rfl, rfl⟩

theorem Meets.expect {mark : Char} {cs : List Char}
    {next next' : List Char → Except ExprError (α × List Char)}
    (further : ∀ left, Meets tail (next (left ++ tail)) (next' left)) :
    Meets tail (expect mark (cs ++ tail) >>= next) (expect mark cs >>= next') := by
  rw [Expr.expect, Expr.expect]
  cases found : eat? mark cs with
  | none => exact .error _ _
  | some left =>
      rw [eat?_append_of_some found]
      exact further left

/-! ## Strings, numbers and words -/

theorem readQuoted_meets (quote : Char) (seen cs : List Char) :
    Meets tail (readQuoted quote seen (cs ++ tail)) (readQuoted quote seen cs) := by
  fun_induction readQuoted quote seen cs with
  | case1 seen => exact .error _ _
  | case2 seen => exact .error _ _
  | case3 seen c rest ih => exact ih
  | case4 seen rest empty escape =>
      rw [List.cons_append, readQuoted_cons (ne_slash empty escape), if_pos rfl]
      exact .ok _ _
  | case5 seen c rest empty escape notQuote ih =>
      rw [List.cons_append, readQuoted_cons (ne_slash empty escape), if_neg notQuote]
      exact ih

theorem readIndex_meets (stops : Stops tail) (cs : List Char) :
    Meets tail (readIndex (cs ++ tail)) (readIndex cs) := by
  simp only [readIndex]
  cases some : dropBlanks cs with
  | nil => exact .error _ _
  | cons c more =>
      rw [dropBlanks_append_of_ne_nil (some ▸ List.cons_ne_nil c more), some, List.cons_append]
      simp only
      split
      · refine (readQuoted_meets c [] more).bind fun name left _ => ?_
        exact .expect fun inner => .ok _ _
      · split
        · rw [← List.cons_append, takeWhile_append_stop stops.digit, dropWhile_append_stop stops.digit]
          split
          · exact .expect fun inner => .ok _ _
          · exact .error _ _
        · exact .error _ _

/-! ## Paths -/

theorem readSegments_meets {m n : Nat} {cs : List Char}
    (enough : (cs ++ '.' :: '.' :: more).length ≤ m) (enoughShort : cs.length ≤ n) :
    Meets ('.' :: '.' :: more) (readSegments m (cs ++ '.' :: '.' :: more)) (readSegments n cs) := by
  induction m generalizing n cs with
  | zero => simp at enough
  | succ m ih =>
      cases cs with
      | nil =>
          -- Behind the first point stands no key.
          exact .error_long _ _
      | cons c rest =>
          obtain ⟨n, rfl⟩ := Nat.exists_eq_add_one.2 (Nat.zero_lt_of_lt enoughShort)
          simp only [List.length_append, List.length_cons] at enough enoughShort ih
          have further (segment : Segment) {left : List Char} (within : left.length ≤ rest.length) :
              Meets ('.' :: '.' :: more)
                (readSegments m (left ++ '.' :: '.' :: more) >>= fun p => .ok (segment :: p.1, p.2))
                (readSegments n left >>= fun p => .ok (segment :: p.1, p.2)) :=
            (ih (by omega) (by omega)).bind fun segments _ _ => .ok _ _
          by_cases point : c = '.'
          · subst point
            exact (Meets.of_behind (readKey_behind (stops_points more) rest)).bind
              fun segment _ read => further segment (length_of_readKey read)
          · by_cases bracket : c = '['
            · subst bracket
              exact (readIndex_meets (stops_points more) rest).bind
                fun segment _ read => further segment (length_of_readIndex read)
            · have stop (behind : List Char) : ∀ d ∈ (c :: behind).head?, d ≠ '.' ∧ d ≠ '[' := by
                rintro d ⟨⟩
                exact ⟨point, bracket⟩
              rw [List.cons_append, readSegments_stop (stop _), readSegments_stop (stop _),
                ← List.cons_append]
              exact .ok _ _

theorem readRooted_meets (sigil : Bool) (cs : List Char) :
    Meets ('.' :: '.' :: more) (readRooted sigil (cs ++ '.' :: '.' :: more)) (readRooted sigil cs) :=
  (Meets.of_behind (readWord_behind (stops_points more) cs)).bind fun _ _ _ =>
    (readSegments_meets (Nat.le_refl _) (Nat.le_refl _)).bind fun _ _ _ => .ok _ _

theorem readPath_meets (c : Char) (cs : List Char) :
    Meets ('.' :: '.' :: more) (readPath (c :: cs ++ '.' :: '.' :: more)) (readPath (c :: cs)) := by
  by_cases dollar : c = '$'
  · subst dollar
    exact readRooted_meets true cs
  · rw [List.cons_append, readPath_plain (by rintro d ⟨⟩; exact dollar),
      readPath_plain (by rintro d ⟨⟩; exact dollar)]
    exact readRooted_meets false (c :: cs)

theorem readOperand_meets (cs : List Char) :
    Meets ('.' :: '.' :: more) (readOperand (cs ++ '.' :: '.' :: more)) (readOperand cs) := by
  simp only [readOperand]
  cases some : dropBlanks cs with
  | nil => exact .error _ _
  | cons c rest =>
      rw [dropBlanks_append_of_ne_nil (some ▸ List.cons_ne_nil c rest), some, List.cons_append]
      simp only
      split
      · exact (readQuoted_meets c [] rest).map fun s => Operand.literal (.string s)
      · split
        · exact (Meets.of_behind (readNumber_behind (stops_points more) (c :: rest))).map
            fun n => Operand.literal n
        · split
          · exact readPath_meets c rest
          · exact .error _ _

/-! ## Expressions -/

/-- What begins an operand begins no group and is no mark of a negation. -/
theorem start_of_operand {cs rest : List Char} {o : Operand} (h : readOperand cs = .ok (o, rest)) :
    ∃ c more, dropBlanks cs = c :: more ∧ c ≠ '(' ∧ c ≠ '!' := by
  simp only [readOperand] at h
  split at h
  · cases h
  · next c more some =>
    refine ⟨c, more, some, ?_, ?_⟩ <;>
    · rintro rfl
      cases h

section

variable {cs : List Char} (point : dropBlanks cs = '.' :: more)

include point

theorem eat?_point {mark : Char} (other : mark ≠ '.') : eat? mark cs = none := by
  simp only [eat?, point]
  rw [if_neg other.symm]

theorem negation?_point : negation? cs = none := by
  rw [negation?, point]
  rfl

theorem readOperand_point : readOperand cs = .error (.unexpected ".") := by
  rw [readOperand, point]
  rfl

end

theorem dropBlanks_points {cs : List Char} (blank : dropBlanks cs = []) (more : List Char) :
    dropBlanks (cs ++ '.' :: '.' :: more) = '.' :: '.' :: more := by
  rw [dropBlanks_append_of_eq_nil blank]
  rfl

/-- The word `not` in front of a blank is an operand that ends in front of the blank. -/
theorem rest_of_not {cs left rest : List Char} {d : Char} {o : Operand}
    (word : dropBlanks cs = 'n' :: 'o' :: 't' :: d :: left) (blank : isBlank d = true)
    (h : readOperand cs = .ok (o, rest)) : rest = d :: left := by
  have noWord := isWordChar_of_isBlank blank
  have stop : ∀ c ∈ (d :: left).head?, c ≠ '.' ∧ c ≠ '[' := by
    rintro c ⟨⟩
    constructor <;>
    · rintro rfl
      cases blank
  have letters : isWordChar 'n' = true ∧ isWordChar 'o' = true ∧ isWordChar 't' = true := by decide
  have read : readWord ('n' :: 'o' :: 't' :: d :: left) = .ok ("not", d :: left) := by
    simp [readWord, letters, noWord]
  simp only [readOperand, word] at h
  rw [if_neg (by decide), if_neg (by decide), if_pos (by decide),
    readPath_plain (by rintro c ⟨⟩; decide), readRooted, read] at h
  obtain ⟨⟨root, behind⟩, first, h⟩ := bind_eq_ok.1 h
  cases first
  simp only [readSegments_stop stop] at h
  cases h
  rfl

/-- Of an operand with two points behind it, a negation takes nothing or all but blanks. -/
theorem negation?_of_operand {cs rest : List Char} {o : Operand}
    (h : readOperand cs = .ok (o, rest)) (blank : dropBlanks rest = []) (more : List Char) :
    negation? (cs ++ '.' :: '.' :: more) = none ∨
      ∃ left, negation? (cs ++ '.' :: '.' :: more) = some left ∧
        dropBlanks left = '.' :: '.' :: more := by
  obtain ⟨c, behind, start, -, notMark⟩ := start_of_operand h
  simp only [negation?, dropBlanks_append_of_ne_nil (start ▸ List.cons_ne_nil c behind), start,
    List.cons_append]
  split
  · next same => exact absurd (List.cons_eq_cons.1 same).1 notMark
  · next d long same =>
    by_cases isB : isBlank d = true
    · rw [if_pos isB]
      obtain ⟨rfl, word⟩ := List.cons_eq_cons.1 same
      -- The blank behind the word stands in front of the points, and so does all of the word.
      rcases behind with _ | ⟨o, _ | ⟨t, _ | ⟨e, left⟩⟩⟩
      · cases word
      · cases word
      · cases word
        cases isB
      · simp only [List.cons_append, List.cons.injEq] at word
        obtain ⟨rfl, rfl, rfl, rfl⟩ := word
        cases rest_of_not start isB h
        exact .inr ⟨_, rfl, dropBlanks_points blank more⟩
    · rw [if_neg isB]
      exact .inl rfl
  · exact .inl rfl

/-- An operand with two points behind it is the front of no expression. -/
theorem not_parseAll_of_operand {cs : List Char} {o : Operand} (h : parseOperand cs = .ok o)
    (more : List Char) (e : Expr) : parseAll (cs ++ '.' :: '.' :: more) ≠ .ok e := by
  intro accepted
  obtain ⟨rest, readFirst, blank⟩ := whole_eq_ok.1 h
  obtain ⟨last, readLong, finished⟩ := whole_eq_ok.1 accepted
  obtain ⟨c, behind, start, notParen, -⟩ := start_of_operand readFirst
  rcases negation?_of_operand readFirst blank more with none | ⟨left, some, point⟩
  · have noParen : eat? '(' (cs ++ '.' :: '.' :: more) = .none := by
      simp only [eat?, dropBlanks_append_of_ne_nil (start ▸ List.cons_ne_nil c behind), start,
        List.cons_append]
      rw [if_neg notParen]
    rw [readExpr, readNegations_of_none none] at readLong
    simp only [noParen] at readLong
    obtain ⟨⟨base, left⟩, first, readLong⟩ := bind_eq_ok.1 readLong
    obtain ⟨-, rfl⟩ := readOperand_meets cs o rest readFirst base left first
    simp only [readCalls_stop (eat?_point (dropBlanks_points blank more) (by decide : '|' ≠ '.'))]
      at readLong
    cases readLong
    rw [dropBlanks_points blank] at finished
    cases finished
  · obtain ⟨k, length⟩ : ∃ k, (cs ++ '.' :: '.' :: more).length = k + 1 :=
      ⟨cs.length + more.length + 1, by simp; omega⟩
    rw [readExpr, length, readNegations, some] at readLong
    simp only [readNegations_of_none (negation?_point point),
      eat?_point point (by decide : '(' ≠ '.'), readOperand_point point] at readLong
    cases readLong

end Expr

end Stencil
