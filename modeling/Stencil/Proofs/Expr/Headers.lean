import Mathlib.Data.List.Basic
import Stencil.Proofs.Expr.Points

/-!
# Loop headers with a name

A header is cut at the first ` in ` and at the first `..` behind it, before anything in it is read as an
expression. The name of a variable holds no ` in `, so the first cut is where it belongs, whatever the
source holds. The second cut is wrong for a source that holds two points: no operand ends there, so that
the header is refused.

1. `cutAt_header`: the header is cut behind the name.
2. `point_not_mem_of_int`: the text of an integer holds no point.
3. `unwrapped_header`: the blanks around the header are those around its parts.
4. `ForHeader.parse_named`, `ForHeader.parse_of_bounds`: what stands behind the ` in `.
5. `ForHeader.parse_source`: which headers over a source are read.
-/

namespace Stencil

open Stencil.Text

namespace Text

/-- A text is what is left without the blanks at its end, and these blanks. -/
theorem exists_blanks_behind (cs : List Char) :
    ∃ tail, cs = dropBlanksEnd cs ++ tail ∧ ∀ c ∈ tail, isBlank c = true := by
  refine ⟨(cs.reverse.takeWhile isBlank).reverse, ?_, fun c member => ?_⟩
  · rw [dropBlanksEnd, ← List.reverse_append, List.takeWhile_append_dropWhile, List.reverse_reverse]
  · exact List.mem_takeWhile_imp (List.mem_reverse.1 member)

/-- A needle without blanks does not reach into the blanks at the end of a text. -/
theorem infix_dropBlanksEnd {needle : List Char} (nonempty : needle ≠ [])
    (plain : ∀ c ∈ needle, isBlank c = false) (cs : List Char) :
    needle <:+: dropBlanksEnd cs ↔ needle <:+: cs := by
  obtain ⟨tail, whole, blank⟩ := exists_blanks_behind cs
  have notBlank {c : Char} (isB : isBlank c = true) : c ∉ needle := fun member => by
    rw [plain c member] at isB
    cases isB
  constructor
  · intro holds
    rw [whole]
    exact holds.trans (List.prefix_append _ _).isInfix
  · intro holds
    by_contra without
    rw [whole] at holds
    cases tail with
    | nil => exact without (by simpa using holds)
    | cons c more =>
        rw [List.forall_mem_cons] at blank
        refine not_infix_append_cons nonempty without (notBlank blank.1) (fun later => ?_) holds
        obtain ⟨n, member⟩ := List.exists_mem_of_ne_nil needle nonempty
        exact notBlank (blank.2 n (later.subset member)) member

/-- A needle is found first behind a text if it does not stand in it, not even with all but its last
character. -/
theorem firstBehind_concat (needle : List Char) {text : List Char} {c : Char}
    (without : ¬(needle ++ [c]) <:+: text ++ needle) : FirstBehind (needle ++ [c]) text := by
  intro x y same
  rcases List.eq_nil_or_concat y with rfl | ⟨y, d, rfl⟩
  · rfl
  · rw [List.concat_eq_append, ← List.append_assoc, ← List.append_assoc] at same
    exact absurd ⟨x, y, (List.append_inj_left' same rfl).symm⟩ without

end Text

namespace Expr

/-! ## The name -/

/-- What is accepted as a name is not blank, holds no blank between its characters and does not open a
parenthesis. -/
theorem core_of_variableName {cs : List Char} {name : String} (named : variableName cs = .ok name) :
    trimmed cs ≠ [] ∧ ∀ c ∈ trimmed cs, c = '$' ∨ isWordChar c = true := by
  simp only [variableName] at named
  split at named
  · next good =>
    rw [Bool.and_eq_true, List.all_eq_true] at good
    refine ⟨fun none => ?_, fun c member => ?_⟩
    · rw [none] at good
      cases good.1
    · rw [← List.takeWhile_append_dropWhile (p := (· == '$')) (l := trimmed cs)] at member
      rcases List.mem_append.1 member with sigil | letter
      · have isSigil := List.mem_takeWhile_imp sigil
        exact .inl (beq_iff_eq.1 isSigil)
      · exact .inr (good.2 c letter)
  · cases named

/-- A word of two letters between blanks does not stand in a text without blanks inside that has another
one behind it. -/
theorem not_infix_word {a b : Char} (letter : isBlank a = false) {core tail : List Char}
    (plain : ∀ c ∈ core, isBlank c = false) (blank : ∀ c ∈ tail, isBlank c = true) :
    ¬[' ', a, b, ' '] <:+: core ++ tail ++ [' ', a, b] := by
  rw [List.append_assoc]
  induction core with
  | nil =>
      induction tail with
      | nil =>
          intro holds
          have longer := holds.length_le
          simp at longer
      | cons c tail ih =>
          rw [List.forall_mem_cons] at blank
          rw [List.nil_append, List.cons_append, List.infix_cons_iff, not_or]
          refine ⟨?_, ih blank.2⟩
          -- Behind a blank of the text stands a blank, and no letter.
          rintro ⟨rest, same⟩
          have isB : isBlank a = true := by
            cases tail with
            | nil =>
                cases same
                rfl
            | cons d tail =>
                simp only [List.cons_append, List.cons.injEq] at same
                exact same.2.1 ▸ blank.2 d List.mem_cons_self
          rw [letter] at isB
          cases isB
  | cons c core ih =>
      rw [List.forall_mem_cons] at plain
      rw [List.cons_append, List.infix_cons_iff, not_or]
      refine ⟨?_, ih plain.2⟩
      rintro ⟨rest, same⟩
      cases (List.cons_eq_cons.1 same).1 ▸ plain.1

/-- The header is cut behind the name, with the blanks around it. -/
theorem cutAt_header {cs : List Char} {name : String} (named : variableName cs = .ok name)
    (rest : List Char) :
    cutAt [' ', 'i', 'n', ' '] (dropBlanks cs ++ [' ', 'i', 'n', ' '] ++ rest) =
      some (dropBlanks cs, rest) := by
  obtain ⟨-, letters⟩ := core_of_variableName named
  obtain ⟨tail, whole, blank⟩ := exists_blanks_behind (dropBlanks cs)
  refine cutAt_append (firstBehind_concat [' ', 'i', 'n'] ?_) rest
  rw [whole]
  refine not_infix_word (by decide) (fun c member => ?_) blank
  rcases letters c member with rfl | letter
  · decide
  · exact isBlank_of_isWordChar letter

theorem variableName_dropBlanks (cs : List Char) :
    variableName (dropBlanks cs) = variableName cs := by
  unfold variableName
  rw [trimmed, dropBlanks_idem, ← trimmed]

/-! ## The source -/

theorem dropBlanksEnd_ne_nil_of_parseAll {cs : List Char} {e : Expr} (read : parseAll cs = .ok e) :
    dropBlanksEnd cs ≠ [] := by
  intro none
  obtain ⟨tail, whole, blank⟩ := exists_blanks_behind cs
  rw [none, List.nil_append] at whole
  rw [whole, parseAll_tail blank] at read
  cases read

theorem parseAll_dropBlanksEnd {cs : List Char} {e : Expr} (read : parseAll cs = .ok e) :
    parseAll (dropBlanksEnd cs) = .ok e := by
  obtain ⟨tail, whole, blank⟩ := exists_blanks_behind cs
  rw [whole] at read
  exact parseAll_of_append blank read

/-! ## The bounds -/

theorem pathOperand_ne_int (sigil : Bool) (root : String) (segments : List Segment) (n : Int64) :
    pathOperand sigil root segments ≠ .literal (.int n) := by
  unfold pathOperand
  split
  · next value named =>
    unfold wordLiteral? at named
    split at named <;> cases named <;> nofun
  · nofun

theorem readUnsigned_int {sign cs rest : List Char} {n : Int64}
    (read : readUnsigned sign cs = .ok (.int n, rest)) : rest = cs.dropWhile isDigit := by
  simp only [readUnsigned] at read
  split at read
  · split at read <;> cases read
  · split at read <;> cases read
    rfl

/-- What is read of an integer is a sign and digits, and no point. -/
theorem readNumber_int {cs rest : List Char} {n : Int64} (read : readNumber cs = .ok (.int n, rest)) :
    ∃ front, cs = front ++ rest ∧ '.' ∉ front := by
  have digits {cs : List Char} : '.' ∉ cs.takeWhile isDigit := fun member =>
    absurd (List.mem_takeWhile_imp member) (by decide)
  cases cs with
  | nil =>
      rw [readNumber_unsigned (by rintro c ⟨⟩)] at read
      cases readUnsigned_int read
      exact ⟨[], rfl, List.not_mem_nil⟩
  | cons c cs =>
      by_cases minus : c = '-'
      · subst minus
        have read : readUnsigned ['-'] cs = .ok (.int n, rest) := read
        cases readUnsigned_int read
        refine ⟨'-' :: cs.takeWhile isDigit, ?_, ?_⟩
        · rw [List.cons_append, List.takeWhile_append_dropWhile]
        · exact List.not_mem_cons_of_ne_of_not_mem (by decide) digits
      · rw [readNumber_unsigned (by rintro d ⟨⟩; exact minus)] at read
        cases readUnsigned_int read
        exact ⟨_, (List.takeWhile_append_dropWhile).symm, digits⟩

/-- The text of an integer holds no point. -/
theorem point_not_mem_of_int {cs : List Char} {n : Int64}
    (read : parseOperand cs = .ok (.literal (.int n))) : '.' ∉ cs := by
  obtain ⟨rest, first, blank⟩ := whole_eq_ok.1 read
  have notBlank {cs : List Char} (blank : ∀ c ∈ cs, isBlank c = true) : '.' ∉ cs := fun member =>
    absurd (blank '.' member) (by decide)
  have number : readNumber (dropBlanks cs) = .ok (.int n, rest) := by
    simp only [readOperand] at first
    cases some : dropBlanks cs with
    | nil =>
      rw [some] at first
      cases first
    | cons c more =>
      rw [some] at first
      simp only at first
      split at first
      · obtain ⟨⟨s, left⟩, -, same⟩ := map_eq_ok_iff.1 first
        cases same
      · split at first
        · obtain ⟨⟨value, left⟩, read, same⟩ := map_eq_ok_iff.1 first
          cases same
          exact read
        · split at first
          · obtain ⟨⟨root, left⟩, -, further⟩ := bind_eq_ok.1 first
            obtain ⟨⟨segments, left⟩, -, same⟩ := bind_eq_ok.1 further
            injection same with same
            exact absurd (Prod.mk.inj same).1 (pathOperand_ne_int _ root segments n)
          · cases first
  obtain ⟨front, whole, noPoint⟩ := readNumber_int number
  rw [← List.takeWhile_append_dropWhile (p := isBlank) (l := cs), ← dropBlanks, whole]
  simp only [List.mem_append, not_or]
  exact ⟨notBlank fun c member => List.mem_takeWhile_imp member, noPoint,
    notBlank (List.dropWhile_eq_nil_iff.1 blank)⟩

theorem parseOperand_dropBlanksEnd {cs : List Char} {o : Operand} (read : parseOperand cs = .ok o) :
    parseOperand (dropBlanksEnd cs) = .ok o := by
  obtain ⟨tail, whole, blank⟩ := exists_blanks_behind cs
  rw [whole] at read
  exact whole_of_leaves blank (readOperand_leaves blank _) read

theorem dropBlanksEnd_ne_nil_of_parseOperand {cs : List Char} {o : Operand}
    (read : parseOperand cs = .ok o) : dropBlanksEnd cs ≠ [] := by
  intro none
  have blank := parseOperand_dropBlanksEnd read
  rw [none] at blank
  cases blank

/-! ## The header -/

theorem unwrapped_of_no_paren {cs : List Char} (plain : ∀ c ∈ (trimmed cs).head?, c ≠ '(') :
    unwrapped cs = trimmed cs := by
  have opens : after? ['('] (trimmed cs) = none := by
    refine Option.eq_none_iff_forall_ne_some.2 fun rest found => ?_
    rw [after?_eq_some_iff] at found
    exact plain '(' (by rw [found]; rfl) rfl
  rw [unwrapped, opens]
  rfl

/-- The blanks around a header are those in front of its name and behind its source. -/
theorem unwrapped_header {cs source : List Char} {name : String}
    (named : variableName cs = .ok name) (notBlank : dropBlanksEnd source ≠ []) :
    unwrapped (cs ++ [' ', 'i', 'n', ' '] ++ source) =
      dropBlanks cs ++ [' ', 'i', 'n', ' '] ++ dropBlanksEnd source := by
  obtain ⟨some, letters⟩ := core_of_variableName named
  have someFront : dropBlanks cs ≠ [] := by
    intro none
    rw [trimmed, none] at some
    exact some rfl
  have isTrimmed : trimmed (cs ++ [' ', 'i', 'n', ' '] ++ source) =
      dropBlanks cs ++ [' ', 'i', 'n', ' '] ++ dropBlanksEnd source := by
    rw [trimmed, List.append_assoc, dropBlanks_append_of_ne_nil someFront, ← List.append_assoc,
      dropBlanksEnd_append_of_ne_nil notBlank]
  rw [← isTrimmed]
  refine unwrapped_of_no_paren fun c first => ?_
  obtain ⟨tail, whole, -⟩ := exists_blanks_behind (dropBlanks cs)
  obtain ⟨d, more, core⟩ := List.exists_cons_of_ne_nil some
  rw [trimmed] at core
  rw [isTrimmed, whole, core] at first
  cases first
  rintro rfl
  rcases letters '(' (by rw [trimmed, core]; exact List.mem_cons_self) with sigil | letter
  · exact absurd sigil (by decide)
  · exact absurd letter (by decide)

end Expr

open Stencil.Expr

/-- What stands behind the ` in ` of a header: a range if it holds two points, and a source otherwise. -/
def ForHeader.behindIn (name : String) (rest : List Char) : Except ExprError ForHeader :=
  match cutAt ['.', '.'] rest with
  | some (first, last) => do
      let first ← parseOperand first
      return ⟨name, .range first (← parseOperand last)⟩
  | none => do return ⟨name, .items (← parseAll rest)⟩

/-- A header is cut behind its name, with the blanks around it. -/
theorem ForHeader.parse_named {v rest name : String} (named : variableName v.toList = .ok name)
    (some : dropBlanksEnd rest.toList ≠ []) :
    ForHeader.parse (v ++ " in " ++ rest) = behindIn name (dropBlanksEnd rest.toList) := by
  have header : unwrapped (v ++ " in " ++ rest).toList =
      dropBlanks v.toList ++ [' ', 'i', 'n', ' '] ++ dropBlanksEnd rest.toList := by
    rw [String.toList_append, String.toList_append]
    exact unwrapped_header named some
  simp only [ForHeader.parse, header, cutAt_header named, variableName_dropBlanks, named]
  rfl

theorem infix_points_dropBlanksEnd {source : List Char} :
    ['.', '.'] <:+: dropBlanksEnd source ↔ ['.', '.'] <:+: source :=
  infix_dropBlanksEnd (List.cons_ne_nil _ _)
    (List.forall_mem_cons.2 ⟨rfl, List.forall_mem_singleton.2 rfl⟩) source

/-- Without two points in a row, a header over a source is read as what it spells. -/
theorem ForHeader.behindIn_of_read {source : List Char} {name : String} {x : Expr}
    (read : parseAll source = .ok x) (without : ¬['.', '.'] <:+: source) :
    behindIn name (dropBlanksEnd source) = .ok ⟨name, .items x⟩ := by
  rw [← infix_points_dropBlanksEnd] at without
  rw [behindIn, (cutAt_eq_none_iff (List.cons_ne_nil _ _)).2 without]
  simp only [parseAll_dropBlanksEnd read]
  rfl

/-- With two points in a row it is refused: no operand ends in front of them. -/
theorem ForHeader.behindIn_of_points {source : List Char} {name : String} {x : Expr}
    (read : parseAll source = .ok x) (holds : ['.', '.'] <:+: source) :
    ∃ error, behindIn name (dropBlanksEnd source) = .error error := by
  rw [← infix_points_dropBlanksEnd] at holds
  have trimmedRead := parseAll_dropBlanksEnd read
  cases points : cutAt ['.', '.'] (dropBlanksEnd source) with
  | none => exact absurd holds ((cutAt_eq_none_iff (List.cons_ne_nil _ _)).1 points)
  | some cut =>
      obtain ⟨first, last⟩ := cut
      have whole := cutAt_sound points
      simp only [behindIn, points]
      cases bound : parseOperand first with
      | error e => exact ⟨e, rfl⟩
      | ok o =>
          rw [← whole, List.append_assoc] at trimmedRead
          exact absurd trimmedRead (not_parseAll_of_operand bound last x)

/-- A header over a range is cut behind its first bound if that holds no point. -/
theorem ForHeader.parse_of_bounds {v first last name : String} {a b : Operand}
    (named : variableName v.toList = .ok name) (readFirst : parseOperand first.toList = .ok a)
    (noPoint : '.' ∉ first.toList) (readLast : parseOperand last.toList = .ok b) :
    ForHeader.parse (v ++ " in " ++ (first ++ ".." ++ last)) = .ok ⟨name, .range a b⟩ := by
  have without : ¬(['.'] ++ ['.']) <:+: first.toList ++ ['.'] := fun holds => by
    have points := holds.sublist.count_le '.'
    simp [List.count_append, List.count_eq_zero_of_not_mem noPoint] at points
  have cut := cutAt_append (firstBehind_concat ['.'] without) (dropBlanksEnd last.toList)
  have behind : dropBlanksEnd (first ++ ".." ++ last).toList =
      first.toList ++ (['.'] ++ ['.']) ++ dropBlanksEnd last.toList := by
    rw [String.toList_append, String.toList_append]
    exact dropBlanksEnd_append_of_ne_nil (dropBlanksEnd_ne_nil_of_parseOperand readLast) _
  have some : dropBlanksEnd (first ++ ".." ++ last).toList ≠ [] := by
    rw [behind]
    simp
  rw [ForHeader.parse_named named some, behind, behindIn]
  rw [List.singleton_append] at cut ⊢
  simp only [cut, readFirst, parseOperand_dropBlanksEnd readLast]
  rfl

/-- A header over a source is read as what it spells if the source holds no two points in a row, and is
refused if it does. -/
theorem ForHeader.parse_source {v e : String} {name : String} {x : Expr}
    (named : variableName v.toList = .ok name) (read : Expr.parse e = .ok x) :
    (¬['.', '.'] <:+: e.toList → ForHeader.parse (v ++ " in " ++ e) = .ok ⟨name, .items x⟩) ∧
      (['.', '.'] <:+: e.toList → ∃ error, ForHeader.parse (v ++ " in " ++ e) = .error error) := by
  rw [ForHeader.parse_named named (dropBlanksEnd_ne_nil_of_parseAll read)]
  exact ⟨behindIn_of_read read, behindIn_of_points read⟩

/-- Blanks around a name with a dollar sign, the word ` in ` in a quoted key, in a string and in a filter
argument, single points, parentheses and blanks at the end. -/
theorem ForHeader.parse_source_quoted :
    let e := "$rows[' in (a.b) in '] | default(\"x in y\", '.') | join(\". .\")\t "
    let x := Expr.operand false (.path [.key "rows", .key " in (a.b) in "])
      [⟨"default", [.literal (.string "x in y"), .literal (.string ".")]⟩,
        ⟨"join", [.literal (.string ". .")]⟩]
    variableName " $item\n".toList = .ok "item" ∧ Expr.parse e = .ok x ∧
      ForHeader.parse (" $item\n" ++ " in " ++ e) = .ok ⟨"item", .items x⟩ := by
  intro e x
  have named : variableName " $item\n".toList = .ok "item" := by decide +kernel
  have read : Expr.parse e = .ok x := by
    simp only [e, x]
    cbv
  have noPoints : cutAt ['.', '.'] e.toList = none := by decide +kernel
  exact ⟨named, read, (ForHeader.parse_source named read).1
    ((cutAt_eq_none_iff (List.cons_ne_nil _ _)).1 noPoints)⟩

/-- Two points inside of a string are taken for those of a range. -/
theorem ForHeader.not_parse_quoted_points :
    ¬∀ v e name x, variableName v.toList = .ok name → Expr.parse e = .ok x →
      ForHeader.parse (v ++ " in " ++ e) = .ok ⟨name, .items x⟩ := by
  intro every
  have named : variableName "x".toList = .ok "x" := by decide +kernel
  have read : Expr.parse "\"a..b\"" = .ok (.operand false (.literal (.string "a..b")) []) := by cbv
  have refused : ForHeader.parse "x in \"a..b\"" = .error .unterminated := by cbv
  have accepted : ForHeader.parse "x in \"a..b\"" = _ := every "x" "\"a..b\"" "x" _ named read
  rw [refused] at accepted
  cases accepted

end Stencil
