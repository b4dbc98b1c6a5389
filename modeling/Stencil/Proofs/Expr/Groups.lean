import Stencil.Proofs.Expr.Trailing

/-!
# Groups

An expression is read in front of a closing parenthesis as it is read alone: the parenthesis ends every
word and number, and no key, filter or argument begins with it. So an expression in parentheses is a
group, and the mark in front of it is a negation: an exclamation mark, or the word `not` with a blank
behind it. Without the blank the word is a path, and the group is too much.

1. `Extends`: a reading, and the one in front of another text.
2. `readOperand_extends`, `readCalls_extends`, `readExpr_extends`: the readers.
3. `parse_negated_group`: which negations of a group are read.
-/

namespace Stencil

open Stencil.Text

namespace Expr

variable {α β : Type} {tail more : List Char}

/-! ## Readings -/

/-- What is read of a text is read in front of `tail`, too. -/
def Extends (tail : List Char) (long short : Except ExprError (α × List Char)) : Prop :=
  ∀ a rest, short = .ok (a, rest) → long = .ok (a, rest ++ tail)

theorem Extends.ok (a : α) (left : List Char) :
    Extends tail (.ok (a, left ++ tail)) (.ok (a, left)) := by
  rintro b rest ⟨⟩
  rfl

theorem Extends.error (long : Except ExprError (α × List Char)) (e : ExprError) :
    Extends tail long (.error e) := nofun

theorem Extends.of_behind {long short : Except ExprError (α × List Char)}
    (same : long = short.map (behind tail)) : Extends tail long short := by
  rintro a rest rfl
  exact same

theorem Extends.bind {long short : Except ExprError (α × List Char)} (h : Extends tail long short)
    {next next' : α × List Char → Except ExprError (β × List Char)}
    (further : ∀ a left, short = .ok (a, left) →
      Extends tail (next (a, left ++ tail)) (next' (a, left))) :
    Extends tail (long >>= next) (short >>= next') := by
  intro b rest read
  obtain ⟨⟨a, left⟩, first, second⟩ := bind_eq_ok.1 read
  rw [h a left first]
  exact further a left first b rest second

theorem Extends.map {long short : Except ExprError (α × List Char)} (h : Extends tail long short)
    (f : α → β) :
    Extends tail (long.map fun p => (f p.1, p.2)) (short.map fun p => (f p.1, p.2)) := by
  intro b rest read
  obtain ⟨⟨a, left⟩, first, same⟩ := map_eq_ok_iff.1 read
  cases same
  rw [h a left first]
  rfl

theorem Extends.expect {mark : Char} {cs : List Char}
    {next next' : List Char → Except ExprError (α × List Char)}
    (further : ∀ left, Extends tail (next (left ++ tail)) (next' left)) :
    Extends tail (expect mark (cs ++ tail) >>= next) (expect mark cs >>= next') := by
  rw [Expr.expect, Expr.expect]
  cases found : eat? mark cs with
  | none => exact .error _ _
  | some left =>
      rw [eat?_append_of_some found]
      exact further left

/-! ## Marks -/

theorem stops_closing (more : List Char) : Stops (')' :: more) where
  word := by
    rintro c ⟨⟩
    decide
  digit := by
    rintro c ⟨⟩
    decide
  sign := by
    rintro c ⟨⟩
    decide
  fraction := rfl

theorem eat?_append_of_ne_nil {cs : List Char} (some : dropBlanks cs ≠ []) (mark : Char)
    (tail : List Char) : eat? mark (cs ++ tail) = (eat? mark cs).map (· ++ tail) := by
  obtain ⟨c, more, start⟩ := List.exists_cons_of_ne_nil some
  rw [eat?, eat?, dropBlanks_append_of_ne_nil some, start, List.cons_append]
  simp only
  split <;> rfl

theorem eat?_closing {mark : Char} (other : ')' ≠ mark) (cs : List Char) :
    eat? mark (cs ++ ')' :: more) = (eat? mark cs).map (· ++ ')' :: more) := by
  by_cases none : dropBlanks cs = []
  · rw [eat?, eat?, dropBlanks_append_of_eq_nil none, none, dropBlanks_cons_of_not (by decide)]
    exact if_neg other
  · exact eat?_append_of_ne_nil none mark _

/-! ## Operands -/

theorem readQuoted_extends (quote : Char) (seen cs : List Char) :
    Extends tail (readQuoted quote seen (cs ++ tail)) (readQuoted quote seen cs) := by
  fun_induction readQuoted quote seen cs with
  | case1 seen => exact .error _ _
  | case2 seen => exact .error _ _
  | case3 seen c rest ih => exact ih
  | case4 seen rest empty escape =>
      rw [List.cons_append, readQuoted_cons (ne_slash empty escape), if_pos rfl]
      exact .ok _ _
  | case5 seen c rest empty escape notQuote ih =>
      rw [List.cons_append, readQuoted_cons (ne_slash empty escape), if_neg notQuote]
      exact ih

theorem readIndex_extends (stops : Stops tail) (cs : List Char) :
    Extends tail (readIndex (cs ++ tail)) (readIndex cs) := by
  simp only [readIndex]
  cases some : dropBlanks cs with
  | nil => exact .error _ _
  | cons c more =>
      rw [dropBlanks_append_of_ne_nil (some ▸ List.cons_ne_nil c more), some, List.cons_append]
      simp only
      split
      · refine (readQuoted_extends c [] more).bind fun name left _ => ?_
        exact .expect fun inner => .ok _ _
      · split
        · rw [← List.cons_append, takeWhile_append_stop stops.digit, dropWhile_append_stop stops.digit]
          split
          · exact .expect fun inner => .ok _ _
          · exact .error _ _
        · exact .error _ _

theorem readSegments_extends {m n : Nat} {cs : List Char} (enough : cs.length ≤ n) (le : n ≤ m) :
    Extends (')' :: more) (readSegments m (cs ++ ')' :: more)) (readSegments n cs) := by
  induction n generalizing m cs with
  | zero =>
      cases List.length_eq_zero_iff.1 (Nat.le_zero.1 enough)
      rw [List.nil_append, readSegments_stop (by rintro c ⟨⟩; decide)]
      exact .ok _ _
  | succ n ih =>
      obtain ⟨m, rfl⟩ := Nat.exists_eq_add_one.2 (Nat.zero_lt_of_lt le)
      cases cs with
      | nil =>
          rw [List.nil_append, readSegments_stop (by rintro c ⟨⟩; decide), readSegments_nil]
          exact .ok _ _
      | cons c rest =>
          rw [List.length_cons] at enough
          have further (segment : Segment) {left : List Char} (within : left.length ≤ rest.length) :
              Extends (')' :: more)
                (readSegments m (left ++ ')' :: more) >>= fun p => .ok (segment :: p.1, p.2))
                (readSegments n left >>= fun p => .ok (segment :: p.1, p.2)) :=
            (ih (by omega) (by omega)).bind fun segments _ _ => .ok _ _
          by_cases point : c = '.'
          · subst point
            exact (Extends.of_behind (readKey_behind (stops_closing more) rest)).bind
              fun segment _ read => further segment (length_of_readKey read)
          · by_cases bracket : c = '['
            · subst bracket
              exact (readIndex_extends (stops_closing more) rest).bind
                fun segment _ read => further segment (length_of_readIndex read)
            · have stop (behind : List Char) : ∀ d ∈ (c :: behind).head?, d ≠ '.' ∧ d ≠ '[' := by
                rintro d ⟨⟩
                exact ⟨point, bracket⟩
              rw [List.cons_append, readSegments_stop (stop _), readSegments_stop (stop _),
                ← List.cons_append]
              exact .ok _ _

theorem readRooted_extends (sigil : Bool) (cs : List Char) :
    Extends (')' :: more) (readRooted sigil (cs ++ ')' :: more)) (readRooted sigil cs) :=
  (Extends.of_behind (readWord_behind (stops_closing more) cs)).bind fun _ _ _ =>
    (readSegments_extends (Nat.le_refl _) (by simp)).bind fun _ _ _ => .ok _ _

theorem readPath_extends (c : Char) (cs : List Char) :
    Extends (')' :: more) (readPath (c :: cs ++ ')' :: more)) (readPath (c :: cs)) := by
  by_cases dollar : c = '$'
  · subst dollar
    exact readRooted_extends true cs
  · rw [List.cons_append, readPath_plain (by rintro d ⟨⟩; exact dollar),
      readPath_plain (by rintro d ⟨⟩; exact dollar)]
    exact readRooted_extends false (c :: cs)

theorem readOperand_extends (cs : List Char) :
    Extends (')' :: more) (readOperand (cs ++ ')' :: more)) (readOperand cs) := by
  simp only [readOperand]
  cases some : dropBlanks cs with
  | nil => exact .error _ _
  | cons c rest =>
      rw [dropBlanks_append_of_ne_nil (some ▸ List.cons_ne_nil c rest), some, List.cons_append]
      simp only
      split
      · exact (readQuoted_extends c [] rest).map fun s => Operand.literal (.string s)
      · split
        · exact (Extends.of_behind (readNumber_behind (stops_closing more) (c :: rest))).map
            fun n => Operand.literal n
        · split
          · exact readPath_extends c rest
          · exact .error _ _

/-! ## Filters -/

theorem readOperand_nil {cs : List Char} (none : dropBlanks cs = []) :
    readOperand cs = .error .noOperand := by
  rw [readOperand, none]

theorem readArguments_extends {m n : Nat} {cs : List Char} (le : n ≤ m) :
    Extends (')' :: more) (readArguments m (cs ++ ')' :: more)) (readArguments n cs) := by
  induction n generalizing m cs with
  | zero => exact .error _ _
  | succ n ih =>
      obtain ⟨m, rfl⟩ := Nat.exists_eq_add_one.2 (Nat.zero_lt_of_lt le)
      refine (readOperand_extends cs).bind fun argument left _ => ?_
      cases closes : eat? ')' left with
      | some behind =>
          simp only [eat?_append_of_some closes, closes]
          exact .ok _ _
      | none =>
          by_cases none : dropBlanks left = []
          · -- The parenthesis behind the text closes no arguments: alone they are not closed.
            simp only [expect, eat?, none]
            exact .error _ _
          · simp only [eat?_append_of_ne_nil none, closes]
            refine .expect fun behind => ?_
            exact (ih (Nat.le_of_succ_le_succ le)).bind fun arguments _ _ => .ok _ _

theorem readCall_extends (cs : List Char) :
    Extends (')' :: more) (readCall (cs ++ ')' :: more)) (readCall cs) := by
  rw [readCall, readCall]
  by_cases some : dropBlanks cs = []
  · rw [some]
    exact .error _ _
  · rw [dropBlanks_append_of_ne_nil some]
    refine (Extends.of_behind (readWord_behind (stops_closing more) _)).bind fun name left _ => ?_
    simp only [eat?_closing (by decide : ')' ≠ '(')]
    cases opens : eat? '(' left with
    | none => exact .ok _ _
    | some inside =>
        simp only [Option.map_some]
        cases closes : eat? ')' inside with
        | some behind =>
            simp only [eat?_append_of_some closes]
            exact .ok _ _
        | none =>
            by_cases none : dropBlanks inside = []
            · simp only [readArguments, readOperand_nil none]
              exact .error _ _
            · simp only [eat?_append_of_ne_nil none, closes]
              exact (readArguments_extends (by simp)).bind fun arguments _ _ => .ok _ _

theorem readCalls_extends {m n : Nat} {cs : List Char} (enough : cs.length ≤ n) (le : n ≤ m) :
    Extends (')' :: more) (readCalls m (cs ++ ')' :: more)) (readCalls n cs) := by
  have opens (cs : List Char) :
      eat? '|' (cs ++ ')' :: more) = (eat? '|' cs).map (· ++ ')' :: more) := eat?_closing (by decide) cs
  induction n generalizing m cs with
  | zero =>
      cases List.length_eq_zero_iff.1 (Nat.le_zero.1 enough)
      rw [readCalls_stop (opens [])]
      exact .ok _ _
  | succ n ih =>
      obtain ⟨m, rfl⟩ := Nat.exists_eq_add_one.2 (Nat.zero_lt_of_lt le)
      have bar := opens cs
      cases found : eat? '|' cs with
      | none =>
          rw [found] at bar
          rw [readCalls_stop bar, readCalls_stop found]
          exact .ok _ _
      | some behind =>
          have shorter := length_of_eat? found
          rw [found] at bar
          rw [readCalls, readCalls, bar, found]
          refine (readCall_extends behind).bind fun call left read => ?_
          have within := length_of_readCall read
          exact (ih (by omega) (by omega)).bind fun calls _ _ => .ok _ _

/-! ## Expressions -/

theorem negation?_closing (cs : List Char) :
    negation? (cs ++ ')' :: more) = (negation? cs).map (· ++ ')' :: more) := by
  by_cases none : dropBlanks cs = []
  · rw [negation?, negation?, dropBlanks_append_of_eq_nil none, none]
    rfl
  · obtain ⟨c, left, start⟩ := List.exists_cons_of_ne_nil none
    rw [negation?, negation?, dropBlanks_append_of_ne_nil none, start]
    split
    · next rest same =>
      cases same
      rfl
    · next d rest same =>
      -- How far the word reaches in front of the parenthesis, which is no blank.
      rcases left with _ | ⟨o, _ | ⟨t, _ | ⟨e, left⟩⟩⟩
      · cases same
      · cases same
      · cases same
        rfl
      · cases same
        simp only
        split <;> rfl
    · next noMark noWord =>
      split
      · next rest same => exact absurd (congrArg (· ++ ')' :: more) same) (noMark _)
      · next d rest same => exact absurd (congrArg (· ++ ')' :: more) same) (noWord _ _)
      · rfl

theorem readNegations_closing {m n : Nat} {cs : List Char} (enough : cs.length ≤ n) (le : n ≤ m)
    (negated : Bool) :
    readNegations negated m (cs ++ ')' :: more) = behind (')' :: more) (readNegations negated n cs) := by
  induction n generalizing m cs negated with
  | zero =>
      cases List.length_eq_zero_iff.1 (Nat.le_zero.1 enough)
      exact readNegations_of_none (negation?_closing []) negated m
  | succ n ih =>
      obtain ⟨m, rfl⟩ := Nat.exists_eq_add_one.2 (Nat.zero_lt_of_lt le)
      have marks : negation? (cs ++ ')' :: more) = (negation? cs).map (· ++ ')' :: more) :=
        negation?_closing cs
      cases found : negation? cs with
      | none =>
          rw [found] at marks
          rw [readNegations_of_none marks, readNegations_of_none found]
          rfl
      | some left =>
          have shorter := length_of_negation? found
          rw [found] at marks
          rw [readNegations, readNegations, marks, found]
          exact ih (by omega) (by omega) (!negated)

theorem readExpr_extends {m n : Nat} {cs : List Char} (le : n ≤ m) :
    Extends (')' :: more) (readExpr m (cs ++ ')' :: more)) (readExpr n cs) := by
  induction n generalizing m cs with
  | zero => exact .error _ _
  | succ n ih =>
      obtain ⟨m, rfl⟩ := Nat.exists_eq_add_one.2 (Nat.zero_lt_of_lt le)
      rw [readExpr, readExpr, readNegations_closing (Nat.le_refl _) (by simp)]
      generalize readNegations false cs.length cs = start
      obtain ⟨negated, left⟩ := start
      simp only [behind, eat?_closing (by decide : ')' ≠ '(')]
      cases opens : eat? '(' left with
      | none =>
          refine (readOperand_extends left).bind fun base rest _ => ?_
          exact (readCalls_extends (Nat.le_refl _) (by simp)).bind fun calls _ _ => .ok _ _
      | some inside =>
          refine (ih (Nat.le_of_succ_le_succ le)).bind fun inner rest _ => ?_
          refine .expect fun closed => ?_
          exact (readCalls_extends (Nat.le_refl _) (by simp)).bind fun calls _ _ => .ok _ _

/-! ## Groups -/

section

variable {cs : List Char} {x : Expr} (read : parseAll cs = .ok x)

include read

/-- An expression in parentheses is a group, negated by what stands in front. -/
theorem parseAll_group {text left : List Char} {negated : Bool}
    (marks : readNegations false text.length text = (negated, left))
    (opens : eat? '(' left = some (cs ++ [')'])) (longer : cs.length < text.length) :
    parseAll text = .ok (.group negated x []) := by
  obtain ⟨rest, inside, blank⟩ := whole_eq_ok.1 read
  have inner : readExpr text.length (cs ++ [')']) = .ok (x, rest ++ [')']) :=
    readExpr_extends (Nat.succ_le_of_lt longer) x rest inside
  have closes : expect ')' (rest ++ [')']) = .ok [] := by
    rw [expect, eat?, dropBlanks_append_of_eq_nil blank]
    rfl
  refine whole_eq_ok.2 ⟨[], ?_, rfl⟩
  rw [readExpr, marks]
  simp only [opens, inner, bind, Except.bind, closes]
  rfl

theorem parseAll_mark_group :
    parseAll ('!' :: '(' :: (cs ++ [')'])) = .ok (.group true x []) := by
  have marks (n : Nat) : readNegations false (n + 1) ('!' :: '(' :: (cs ++ [')'])) =
      (true, '(' :: (cs ++ [')'])) := readNegations_of_none rfl true n
  exact parseAll_group read (marks _) rfl (by simp; omega)

theorem parseAll_not_group :
    parseAll ('n' :: 'o' :: 't' :: ' ' :: '(' :: (cs ++ [')'])) = .ok (.group true x []) := by
  have marks (n : Nat) :
      readNegations false (n + 1) ('n' :: 'o' :: 't' :: ' ' :: '(' :: (cs ++ [')'])) =
        (true, ' ' :: '(' :: (cs ++ [')'])) := readNegations_of_none rfl true n
  exact parseAll_group read (marks _) rfl (by simp; omega)

end

/-- In front of a parenthesis the word `not` is a path. -/
theorem parseAll_not_paren (more : List Char) :
    parseAll ('n' :: 'o' :: 't' :: '(' :: more) =
      .error (.unexpected (String.ofList ('(' :: more))) := by
  have word : readWord ('n' :: 'o' :: 't' :: '(' :: more) = .ok ("not", '(' :: more) := by
    have letters : isWordChar 'n' = true ∧ isWordChar 'o' = true ∧ isWordChar 't' = true ∧
        isWordChar '(' = false := by decide
    simp [readWord, letters]
  have path : readOperand ('n' :: 'o' :: 't' :: '(' :: more) =
      .ok (.path [.key "not"], '(' :: more) := by
    rw [readOperand, dropBlanks_cons_of_not (by decide)]
    simp only
    rw [if_neg (by decide), if_neg (by decide), if_pos (by decide),
      readPath_plain (by rintro c ⟨⟩; decide), readRooted, word]
    have noSegment : ∀ c ∈ ('(' :: more).head?, c ≠ '.' ∧ c ≠ '[' := by
      rintro c ⟨⟩
      decide
    simp only [bind, Except.bind, readSegments_stop noSegment]
    rfl
  rw [parseAll, readExpr, readNegations_of_none rfl]
  have noCall : eat? '|' ('(' :: more) = none := rfl
  have noGroup : eat? '(' ('n' :: 'o' :: 't' :: '(' :: more) = none :=
    eat?_cons (by decide) _ _
  simp only [noGroup, path, bind, Except.bind, readCalls_stop noCall]
  rfl

/-- An exclamation mark, and the word `not` with a blank behind it, negate a group. The word without a
blank does not: it is a path, with a group behind it that is not expected. -/
theorem parse_negated_group {e : String} {x : Expr} (read : Expr.parse e = .ok x) :
    Expr.parse ("!(" ++ e ++ ")") = .ok (.group true x []) ∧
      Expr.parse ("not (" ++ e ++ ")") = .ok (.group true x []) ∧
      Expr.parse ("not(" ++ e ++ ")") = .error (.unexpected ("(" ++ e ++ ")")) := by
  simp only [Expr.parse, String.toList_append]
  refine ⟨parseAll_mark_group read, parseAll_not_group read, ?_⟩
  have group : "(" ++ e ++ ")" = String.ofList ('(' :: (e.toList ++ [')'])) :=
    String.toList_inj.1 (by simp)
  rw [group]
  exact parseAll_not_paren _

/-- A group that holds the word `not`, parentheses in strings, filters and blanks at its end. -/
theorem parse_negated_group_nested :
    let e := "not (not| default(')', a['(']) ) | join(\"(\")\t"
    let x := Expr.group true
      (.operand false (.path [.key "not"])
        [⟨"default", [.literal (.string ")"), .path [.key "a", .key "("]]⟩])
      [⟨"join", [.literal (.string "(")]⟩]
    Expr.parse e = .ok x ∧ Expr.parse ("!(" ++ e ++ ")") = .ok (.group true x []) ∧
      Expr.parse ("not (" ++ e ++ ")") = .ok (.group true x []) ∧
      Expr.parse ("not(" ++ e ++ ")") = .error (.unexpected ("(" ++ e ++ ")")) := by
  intro e x
  have read : Expr.parse e = .ok x := by
    simp only [e, x]
    cbv
  exact ⟨read, parse_negated_group read⟩

/-- The word does not negate each group that it stands in front of. -/
theorem not_parse_not_group :
    ¬∀ e x, Expr.parse e = .ok x → Expr.parse ("not(" ++ e ++ ")") = .ok (.group true x []) := by
  intro every
  have read : Expr.parse "a" = .ok (.operand false (.path [.key "a"]) []) := by cbv
  have refused : Expr.parse "not(a)" = .error (.unexpected "(a)") := by cbv
  have accepted : Expr.parse "not(a)" = _ := every "a" _ read
  rw [refused] at accepted
  cases accepted

end Expr

end Stencil
