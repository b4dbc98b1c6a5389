import Stencil.Proofs.Expr.Stops

/-!
# Blanks behind an expression

The readers leave blanks at the end of a text alone: what is read in front of them is read without them.
The reverse is not so, since the word `not` is a path at the end of a text and a negation in front of a
blank.

1. `Leaves`: a reading with blanks behind the text, and the one without.
2. `readOperand_leaves`, `readCalls_leaves`, `readExpr_leaves`: the readers.
3. `parseAll_of_append`: an expression that is accepted is accepted without the blanks behind it.
-/

namespace Stencil

open Stencil.Text

namespace Expr

variable {α β : Type} {tail : List Char} {bound limit : Nat}

/-! ## Readings -/

/-- What is read in front of `tail`, which is left, is read without it. What else is left is no longer
than the bound. -/
def Leaves (tail : List Char) (bound : Nat) (long short : Except ExprError (α × List Char)) : Prop :=
  ∀ a rest, long = .ok (a, rest) →
    ∃ left, rest = left ++ tail ∧ left.length ≤ bound ∧ short = .ok (a, left)

theorem Leaves.ok {left : List Char} (within : left.length ≤ bound) (a : α) :
    Leaves tail bound (.ok (a, left ++ tail)) (.ok (a, left)) := by
  rintro b rest ⟨⟩
  exact ⟨left, rfl, within, rfl⟩

theorem Leaves.nil (a : α) : Leaves tail bound (.ok (a, tail)) (.ok (a, [])) := by
  rintro b rest ⟨⟩
  exact ⟨[], rfl, Nat.zero_le _, rfl⟩

theorem Leaves.error (e : ExprError) (short : Except ExprError (α × List Char)) :
    Leaves tail bound (.error e) short := nofun

theorem Leaves.mono {long short : Except ExprError (α × List Char)}
    (h : Leaves tail bound long short) (wider : bound ≤ limit) : Leaves tail limit long short := by
  intro a rest read
  obtain ⟨left, isRest, within, readShort⟩ := h a rest read
  exact ⟨left, isRest, Nat.le_trans within wider, readShort⟩

theorem Leaves.bind {long short : Except ExprError (α × List Char)}
    (h : Leaves tail bound long short) {next next' : α × List Char → Except ExprError (β × List Char)}
    (further : ∀ a left, left.length ≤ bound →
      Leaves tail limit (next (a, left ++ tail)) (next' (a, left))) :
    Leaves tail limit (long >>= next) (short >>= next') := by
  intro b rest read
  obtain ⟨⟨a, behind⟩, first, second⟩ := bind_eq_ok.1 read
  obtain ⟨left, rfl, within, readShort⟩ := h a behind first
  rw [readShort]
  exact further a left within b rest second

theorem Leaves.map {long short : Except ExprError (α × List Char)}
    (h : Leaves tail bound long short) (f : α → β) :
    Leaves tail bound (long.map fun p => (f p.1, p.2)) (short.map fun p => (f p.1, p.2)) := by
  intro b rest read
  obtain ⟨⟨a, behind⟩, first, same⟩ := map_eq_ok_iff.1 read
  cases same
  obtain ⟨left, rfl, within, readShort⟩ := h a behind first
  exact ⟨left, rfl, within, by rw [readShort]; rfl⟩

theorem Leaves.of_behind {long short : Except ExprError (α × List Char)}
    (same : long = short.map (behind tail))
    (within : ∀ {a rest}, short = .ok (a, rest) → rest.length ≤ bound) :
    Leaves tail bound long short := by
  intro a rest read
  rw [same] at read
  obtain ⟨⟨b, left⟩, readShort, isBehind⟩ := map_eq_ok_iff.1 read
  cases isBehind
  exact ⟨left, rfl, within readShort, readShort⟩

/-! ## Blanks and marks -/

section

variable (blank : ∀ c ∈ tail, isBlank c = true)

include blank

theorem dropBlanks_tail : dropBlanks tail = [] := List.dropWhile_eq_nil_iff.2 blank

/-- A text has only blanks, also with more behind it, or it goes on in both cases with the same
character. -/
theorem dropBlanks_append (cs : List Char) :
    (dropBlanks cs = [] ∧ dropBlanks (cs ++ tail) = []) ∨
      ∃ c more, dropBlanks cs = c :: more ∧ dropBlanks (cs ++ tail) = c :: (more ++ tail) ∧
        more.length < cs.length := by
  have shorter := (List.dropWhile_suffix (l := cs) isBlank).length_le
  have noBlanks := dropBlanks_tail blank
  rw [dropBlanks] at noBlanks
  simp only [dropBlanks, List.dropWhile_append, noBlanks]
  cases left : cs.dropWhile isBlank with
  | nil => exact .inl ⟨rfl, rfl⟩
  | cons c more =>
      rw [left, List.length_cons] at shorter
      exact .inr ⟨c, more, rfl, rfl, shorter⟩

theorem eat?_tail (mark : Char) : eat? mark tail = none := by rw [eat?, dropBlanks_tail blank]

theorem eat?_append (mark : Char) (cs : List Char) :
    eat? mark (cs ++ tail) = (eat? mark cs).map (· ++ tail) := by
  rcases dropBlanks_append blank cs with ⟨none, noneLong⟩ | ⟨c, more, some, someLong, -⟩
  · simp [eat?, none, noneLong]
  · simp only [eat?, some, someLong]
    split <;> rfl

theorem Leaves.expect {mark : Char} {cs : List Char}
    {next next' : List Char → Except ExprError (α × List Char)}
    (further : ∀ left, left.length < cs.length → Leaves tail bound (next (left ++ tail)) (next' left)) :
    Leaves tail bound (expect mark (cs ++ tail) >>= next) (expect mark cs >>= next') := by
  rw [Expr.expect, Expr.expect, eat?_append blank]
  cases found : eat? mark cs with
  | none => exact .error _ _
  | some left => exact further left (length_of_eat? found)

theorem readWord_leaves (cs : List Char) :
    Leaves tail cs.length (readWord (cs ++ tail)) (readWord cs) :=
  .of_behind (readWord_behind (stops_of_blank blank) cs) length_of_readWord

/-! ## Operands -/

/-- No string ends in blanks. -/
theorem readQuoted_tail {quote : Char} (plain : isBlank quote = false) (seen : List Char) :
    readQuoted quote seen tail = .error .unterminated := by
  induction tail generalizing seen with
  | nil => rfl
  | cons c more ih =>
      rw [List.forall_mem_cons] at blank
      have notSlash : c ≠ '\\' := by
        rintro rfl
        cases blank.1
      have notQuote : c ≠ quote := by
        rintro rfl
        rw [plain] at blank
        cases blank.1
      rw [readQuoted_cons notSlash, if_neg notQuote, ih blank.2]

theorem readQuoted_leaves {quote : Char} (plain : isBlank quote = false) (seen cs : List Char) :
    Leaves tail cs.length (readQuoted quote seen (cs ++ tail)) (readQuoted quote seen cs) := by
  fun_induction readQuoted quote seen cs with
  | case1 seen =>
      rw [List.nil_append, readQuoted_tail blank plain]
      exact .error _ _
  | case2 seen =>
      -- The first blank behind the backslash belongs to the string, which does not end after it.
      cases tail with
      | nil => exact .error _ _
      | cons c more =>
          rw [List.forall_mem_cons] at blank
          rw [List.singleton_append, readQuoted, readQuoted_tail blank.2 plain]
          exact .error _ _
  | case3 seen c rest ih => exact ih.mono (by simp only [List.length_cons]; omega)
  | case4 seen rest empty escape =>
      rw [List.cons_append, readQuoted_cons (ne_slash empty escape), if_pos rfl]
      exact .ok (Nat.le_succ _) _
  | case5 seen c rest empty escape notQuote ih =>
      rw [List.cons_append, readQuoted_cons (ne_slash empty escape), if_neg notQuote]
      exact ih.mono (Nat.le_succ _)

theorem readNumber_leaves (cs : List Char) :
    Leaves tail cs.length (readNumber (cs ++ tail)) (readNumber cs) :=
  .of_behind (readNumber_behind (stops_of_blank blank) cs) length_of_readNumber

/-! ### Paths -/

theorem readIndex_leaves (cs : List Char) :
    Leaves tail cs.length (readIndex (cs ++ tail)) (readIndex cs) := by
  simp only [readIndex]
  rcases dropBlanks_append blank cs with ⟨none, noneLong⟩ | ⟨c, more, some, someLong, shorter⟩
  · rw [noneLong]
    exact .error _ _
  · rw [some, someLong]
    simp only
    split
    · next quote =>
      refine (readQuoted_leaves blank (isBlank_of_isQuote quote) [] more).bind fun name left within => ?_
      exact .expect blank fun inner less => .ok (by omega) _
    · split
      · have fewer := (List.dropWhile_suffix (l := c :: more) isDigit).length_le
        rw [List.length_cons] at fewer
        have noDigit := (stops_of_blank blank).digit
        rw [← List.cons_append, takeWhile_append_stop noDigit, dropWhile_append_stop noDigit]
        split
        · exact .expect blank fun inner less => .ok (by omega) _
        · exact .error _ _
      · exact .error _ _

theorem readKey_leaves (cs : List Char) :
    Leaves tail cs.length (readKey (cs ++ tail)) (readKey cs) :=
  .of_behind (readKey_behind (stops_of_blank blank) cs) length_of_readKey

theorem stop_tail : ∀ c ∈ tail.head?, c ≠ '.' ∧ c ≠ '[' := by
  intro c first
  have isB := blank c (List.mem_of_mem_head? first)
  constructor <;>
  · rintro rfl
    cases isB

theorem readSegments_leaves {m n : Nat} {cs : List Char} (enough : (cs ++ tail).length ≤ m)
    (enoughShort : cs.length ≤ n) :
    Leaves tail cs.length (readSegments m (cs ++ tail)) (readSegments n cs) := by
  induction m generalizing n cs with
  | zero =>
      obtain ⟨rfl, rfl⟩ := List.append_eq_nil_iff.1 (List.length_eq_zero_iff.1 (Nat.le_zero.1 enough))
      rw [List.nil_append, readSegments_nil, readSegments_nil]
      exact .nil _
  | succ m ih =>
      cases cs with
      | nil =>
          rw [List.nil_append, readSegments_stop (stop_tail blank), readSegments_nil]
          exact .nil _
      | cons c more =>
          obtain ⟨n, rfl⟩ := Nat.exists_eq_add_one.2 (Nat.zero_lt_of_lt enoughShort)
          simp only [List.length_append, List.length_cons] at enough enoughShort ih ⊢
          have further (segment : Segment) {left : List Char} (within : left.length ≤ more.length) :
              Leaves tail (more.length + 1)
                (readSegments m (left ++ tail) >>= fun p => .ok (segment :: p.1, p.2))
                (readSegments n left >>= fun p => .ok (segment :: p.1, p.2)) :=
            (ih (by omega) (by omega)).bind fun segments _ less =>
              .ok (by omega) (segment :: segments)
          by_cases point : c = '.'
          · subst point
            exact (readKey_leaves blank more).bind fun segment _ within => further segment within
          · by_cases bracket : c = '['
            · subst bracket
              exact (readIndex_leaves blank more).bind fun segment _ within => further segment within
            · have stop (behind : List Char) : ∀ d ∈ (c :: behind).head?, d ≠ '.' ∧ d ≠ '[' := by
                rintro d ⟨⟩
                exact ⟨point, bracket⟩
              rw [List.cons_append, readSegments_stop (stop _), readSegments_stop (stop _),
                ← List.cons_append]
              exact .ok (Nat.le_refl _) _

theorem readRooted_leaves (sigil : Bool) (cs : List Char) :
    Leaves tail cs.length (readRooted sigil (cs ++ tail)) (readRooted sigil cs) :=
  (readWord_leaves blank cs).bind fun _ _ within =>
    (readSegments_leaves blank (Nat.le_refl _) (Nat.le_refl _)).bind fun _ _ less =>
      .ok (Nat.le_trans less within) _

theorem readPath_leaves (cs : List Char) :
    Leaves tail cs.length (readPath (cs ++ tail)) (readPath cs) := by
  have plainTail : ∀ c ∈ tail.head?, c ≠ '$' := by
    rintro c first rfl
    cases blank _ (List.mem_of_mem_head? first)
  cases cs with
  | nil =>
      rw [List.nil_append, readPath_plain plainTail, readPath_plain (by rintro c ⟨⟩)]
      exact readRooted_leaves blank false []
  | cons c cs =>
      by_cases dollar : c = '$'
      · subst dollar
        exact (readRooted_leaves blank true cs).mono (Nat.le_succ _)
      · rw [readPath_plain (by rintro d ⟨⟩; exact dollar),
          readPath_plain (by rintro d ⟨⟩; exact dollar)]
        exact readRooted_leaves blank false (c :: cs)

theorem readOperand_leaves (cs : List Char) :
    Leaves tail cs.length (readOperand (cs ++ tail)) (readOperand cs) := by
  simp only [readOperand]
  rcases dropBlanks_append blank cs with ⟨none, noneLong⟩ | ⟨c, more, some, someLong, shorter⟩
  · rw [noneLong]
    exact .error _ _
  · rw [some, someLong]
    simp only
    split
    · next quote =>
      exact ((readQuoted_leaves blank (isBlank_of_isQuote quote) [] more).mono
        (Nat.le_of_lt shorter)).map fun s => Operand.literal (.string s)
    · split
      · exact ((readNumber_leaves blank (c :: more)).mono shorter).map fun n => Operand.literal n
      · split
        · exact (readPath_leaves blank (c :: more)).mono shorter
        · exact .error _ _

theorem readOperand_tail : readOperand tail = .error .noOperand := by
  rw [readOperand, dropBlanks_tail blank]

/-! ## Filters -/

theorem readArguments_leaves {m n : Nat} {cs : List Char} (enough : cs.length < n) :
    Leaves tail cs.length (readArguments m (cs ++ tail)) (readArguments n cs) := by
  induction m generalizing n cs with
  | zero => exact .error _ _
  | succ m ih =>
      obtain ⟨n, rfl⟩ := Nat.exists_eq_add_one.2 (Nat.zero_lt_of_lt enough)
      refine (readOperand_leaves blank cs).bind fun argument left within => ?_
      simp only [eat?_append blank]
      cases closes : eat? ')' left with
      | some behind =>
          have shorter := length_of_eat? closes
          exact .ok (by omega) _
      | none =>
          refine .expect blank fun behind shorter => ?_
          exact (ih (by omega)).bind fun arguments _ less => .ok (by omega) (argument :: arguments)

theorem readCall_leaves (cs : List Char) :
    Leaves tail cs.length (readCall (cs ++ tail)) (readCall cs) := by
  rw [readCall, readCall]
  rcases dropBlanks_append blank cs with ⟨none, noneLong⟩ | ⟨c, more, some, someLong, shorter⟩
  · rw [noneLong]
    exact .error _ _
  · rw [some, someLong, ← List.cons_append]
    refine (readWord_leaves blank (c :: more)).bind fun name left within => ?_
    rw [List.length_cons] at within
    simp only [eat?_append blank]
    cases opens : eat? '(' left with
    | none => exact .ok (by omega) _
    | some inside =>
        have fewer := length_of_eat? opens
        simp only [Option.map_some, eat?_append blank]
        cases closes : eat? ')' inside with
        | some behind =>
            have less := length_of_eat? closes
            exact .ok (by omega) _
        | none =>
            exact (readArguments_leaves blank (Nat.lt_succ_self _)).bind fun arguments _ less =>
              .ok (by omega) _

theorem readCalls_leaves {m n : Nat} {cs : List Char} (enough : (cs ++ tail).length ≤ m)
    (enoughShort : cs.length ≤ n) :
    Leaves tail cs.length (readCalls m (cs ++ tail)) (readCalls n cs) := by
  induction m generalizing n cs with
  | zero =>
      obtain ⟨rfl, rfl⟩ := List.append_eq_nil_iff.1 (List.length_eq_zero_iff.1 (Nat.le_zero.1 enough))
      rw [List.nil_append, readCalls_stop rfl, readCalls_stop rfl]
      exact .nil _
  | succ m ih =>
      have opens := eat?_append blank '|' cs
      cases bar : eat? '|' cs with
      | none =>
          rw [bar] at opens
          rw [readCalls_stop opens, readCalls_stop bar]
          exact .ok (Nat.le_refl _) _
      | some behind =>
          have shorter := length_of_eat? bar
          obtain ⟨n, rfl⟩ := Nat.exists_eq_add_one.2 (Nat.lt_of_lt_of_le (Nat.zero_lt_of_lt shorter)
            enoughShort)
          rw [bar] at opens
          rw [readCalls, readCalls, opens, bar]
          rw [List.length_append] at enough
          refine (readCall_leaves blank behind).bind fun call left within => ?_
          exact (ih (by rw [List.length_append]; omega) (by omega)).bind fun calls _ less =>
            .ok (by omega) (call :: calls)

/-! ## Expressions -/

theorem negation?_tail : negation? tail = none := by rw [negation?, dropBlanks_tail blank]

/-- The negations of a text are those with blanks behind it, but for the word `not` at the end. -/
theorem negation?_append (cs : List Char) :
    negation? (cs ++ tail) = some tail ∨
      negation? (cs ++ tail) = (negation? cs).map (· ++ tail) ∧
        ∀ left ∈ negation? cs, left.length < cs.length := by
  rcases dropBlanks_append blank cs with ⟨none, noneLong⟩ | ⟨c, more, some, someLong, shorter⟩
  · refine .inr ?_
    simp [negation?, none, noneLong]
  · have noBlank {d : Char} (plain : isBlank d = false) (rest : List Char) : tail ≠ d :: rest := by
      rintro rfl
      rw [blank d List.mem_cons_self] at plain
      cases plain
    simp only [negation?, some, someLong]
    split
    · next rest same =>
      cases same
      exact .inr ⟨rfl, by rintro left ⟨⟩; exact shorter⟩
    · next d rest same =>
      obtain ⟨rfl, word⟩ := List.cons_eq_cons.1 same
      -- How far the word reaches in front of the tail.
      rcases more with _ | ⟨o, _ | ⟨t, _ | ⟨e, more⟩⟩⟩
      · exact absurd word (noBlank (by decide) _)
      · exact absurd (List.cons_eq_cons.1 word).2 (noBlank (by decide) _)
      · have isTail : tail = d :: rest := (List.cons_eq_cons.1 (List.cons_eq_cons.1 word).2).2
        rw [if_pos (blank d (isTail ▸ List.mem_cons_self)), isTail]
        exact .inl rfl
      · cases same
        refine .inr ?_
        by_cases isB : isBlank d = true
        · simp only [if_pos isB]
          refine ⟨rfl, ?_⟩
          rintro left ⟨⟩
          simp only [List.length_cons] at shorter ⊢
          omega
        · simp [if_neg isB]
    · next noMark noWord =>
      refine .inr ?_
      have none : negation? cs = .none := by
        rw [negation?, some]
        split
        · next rest same =>
          cases same
          exact absurd rfl (noMark _)
        · next d rest same =>
          cases same
          exact absurd rfl (noWord d _)
        · rfl
      rw [negation?, some] at none
      rw [none]
      refine ⟨rfl, fun left member => ?_⟩
      cases member

theorem readNegations_append {m n : Nat} (cs : List Char) (enough : (cs ++ tail).length ≤ m)
    (enoughShort : cs.length ≤ n) (negated : Bool) :
    (readNegations negated m (cs ++ tail)).2 = tail ∨
      ∃ result left, left.length ≤ cs.length ∧ readNegations negated n cs = (result, left) ∧
        readNegations negated m (cs ++ tail) = (result, left ++ tail) := by
  induction m generalizing n cs negated with
  | zero =>
      obtain ⟨rfl, rfl⟩ := List.append_eq_nil_iff.1 (List.length_eq_zero_iff.1 (Nat.le_zero.1 enough))
      exact .inl rfl
  | succ m ih =>
      rcases negation?_append blank cs with isTail | ⟨same, shorter⟩
      · rw [readNegations, isTail]
        exact .inl (congrArg Prod.snd (readNegations_of_none (negation?_tail blank) (!negated) m))
      · cases found : negation? cs with
        | none =>
            rw [found] at same
            rw [readNegations_of_none same, readNegations_of_none found]
            exact .inr ⟨negated, cs, Nat.le_refl _, rfl, rfl⟩
        | some left =>
            have less := shorter left found
            obtain ⟨n, rfl⟩ := Nat.exists_eq_add_one.2
              (Nat.lt_of_lt_of_le (Nat.zero_lt_of_lt less) enoughShort)
            rw [found] at same
            rw [List.length_append] at enough
            rw [readNegations, readNegations, same, found]
            rcases ih (n := n) left (by rw [List.length_append]; omega) (by omega) (!negated)
              with isTail | ⟨result, left', within, short, long⟩
            · exact .inl isTail
            · exact .inr ⟨result, left', by omega, short, long⟩

theorem readExpr_leaves {m n : Nat} {cs : List Char} (enough : cs.length < n) :
    Leaves tail cs.length (readExpr m (cs ++ tail)) (readExpr n cs) := by
  induction m generalizing n cs with
  | zero => exact .error _ _
  | succ m ih =>
      obtain ⟨n, rfl⟩ := Nat.exists_eq_add_one.2 (Nat.zero_lt_of_lt enough)
      rw [readExpr, readExpr]
      rcases readNegations_append blank cs (Nat.le_refl _) (Nat.le_refl _) false
        with isTail | ⟨result, left, within, short, long⟩
      · -- Behind the word `not` stand blanks only, and no operand.
        obtain ⟨result, long⟩ : ∃ result,
            readNegations false (cs ++ tail).length (cs ++ tail) = (result, tail) :=
          ⟨_, Prod.ext rfl isTail⟩
        rw [long]
        simp only [eat?_tail blank, readOperand_tail blank]
        exact .error _ _
      · rw [short, long]
        simp only [eat?_append blank]
        cases opens : eat? '(' left with
        | none =>
            refine (readOperand_leaves blank left).bind fun base behind less => ?_
            exact (readCalls_leaves blank (Nat.le_refl _) (Nat.le_refl _)).bind fun calls _ fewer =>
              .ok (by omega) _
        | some inside =>
            have shorter := length_of_eat? opens
            refine (ih (by omega)).bind fun inner behind less => ?_
            refine .expect blank fun closed fewer => ?_
            exact (readCalls_leaves blank (Nat.le_refl _) (Nat.le_refl _)).bind fun calls _ final =>
              .ok (by omega) _

/-- Blanks are no expression. -/
theorem parseAll_tail : parseAll tail = .error .noOperand := by
  rw [parseAll, readExpr, readNegations_of_none (negation?_tail blank)]
  simp only [eat?_tail blank, readOperand_tail blank]
  rfl

theorem whole_of_leaves {long short : Except ExprError (α × List Char)} {a : α}
    (leaves : Leaves tail bound long short) (read : whole long = .ok a) : whole short = .ok a := by
  obtain ⟨rest, first, finished⟩ := whole_eq_ok.1 read
  obtain ⟨left, rfl, -, readShort⟩ := leaves a rest first
  refine whole_eq_ok.2 ⟨left, readShort, ?_⟩
  rcases dropBlanks_append blank left with ⟨none, -⟩ | ⟨c, more, -, someLong, -⟩
  · exact none
  · rw [someLong] at finished
    cases finished

/-- An expression that is accepted is accepted without the blanks behind it. -/
theorem parseAll_of_append {cs : List Char} {e : Expr} (read : parseAll (cs ++ tail) = .ok e) :
    parseAll cs = .ok e :=
  whole_of_leaves blank (readExpr_leaves blank (Nat.lt_succ_self _)) read

end

/-! ## What is left -/

theorem Leaves.length_le {long short : Except ExprError (α × List Char)} {a : α} {rest : List Char}
    (leaves : Leaves [] bound long short) (read : long = .ok (a, rest)) : rest.length ≤ bound := by
  obtain ⟨left, rfl, within, -⟩ := leaves a rest read
  rwa [List.append_nil]

theorem length_of_readIndex {cs rest : List Char} {segment : Segment}
    (h : readIndex cs = .ok (segment, rest)) : rest.length ≤ cs.length := by
  have leaves := readIndex_leaves (List.forall_mem_nil _) cs
  rw [List.append_nil] at leaves
  exact leaves.length_le h

theorem length_of_readCall {cs rest : List Char} {call : FilterCall}
    (h : readCall cs = .ok (call, rest)) : rest.length ≤ cs.length := by
  have leaves := readCall_leaves (List.forall_mem_nil _) cs
  rw [List.append_nil] at leaves
  exact leaves.length_le h

end Expr

end Stencil
