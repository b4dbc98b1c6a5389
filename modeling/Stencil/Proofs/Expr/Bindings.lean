import Stencil.Proofs.Expr.Headers

/-!
# Loop headers with bindings

A header over items is cut at the last ` as `, and what stands behind it at the first `=>`. A name holds
neither, and a dollar sign in front of it keeps it apart from the ` as `. So the cuts are where they
belong, whatever the source holds. Such a header ends in a name; so a parenthesis at its end is one
around the header, and none of its source.

1. `Wrapped`, `unwrapped_of_wrapped`: a header with blanks and parentheses around it.
2. `Bindable`, `bindable_of_variableName`, `bindable_of_names`: what stands behind the ` as `.
3. `parseAll_dropBlanks`: an expression is read without the blanks in front.
4. `ForeachHeader.parse_wrapped`: which headers are read.
-/

namespace Stencil

open Stencil.Text

namespace Text

theorem dropBlanks_blanks_append {front : List Char} (blank : ∀ c ∈ front, isBlank c = true)
    (cs : List Char) : dropBlanks (front ++ cs) = dropBlanks cs :=
  List.dropWhile_append_of_pos blank

theorem dropBlanksEnd_append_blanks {back : List Char} (blank : ∀ c ∈ back, isBlank c = true)
    (cs : List Char) : dropBlanksEnd (cs ++ back) = dropBlanksEnd cs := by
  rw [dropBlanksEnd, List.reverse_append,
    List.dropWhile_append_of_pos fun c member => blank c (List.mem_reverse.1 member), dropBlanksEnd]

theorem dropBlanksEnd_plain {cs : List Char} (plain : ∀ c ∈ cs, isBlank c = false) :
    dropBlanksEnd cs = cs := by
  have whole := dropBlanksEnd_append plain []
  rw [List.append_nil] at whole
  exact whole.trans (List.append_nil cs)

theorem trimmed_between {front back : List Char} (before : ∀ c ∈ front, isBlank c = true)
    (after : ∀ c ∈ back, isBlank c = true) (cs : List Char) :
    trimmed (front ++ cs ++ back) = trimmed cs := by
  rw [List.append_assoc, trimmed, dropBlanks_blanks_append before, ← trimmed,
    ← dropBlanks_dropBlanksEnd, dropBlanksEnd_append_blanks after, dropBlanks_dropBlanksEnd]

/-- The last place of a text is where it is found if it does not stand behind that place, not even with
all but its first character. -/
theorem cutAtLast_append {c : Char} {needle after : List Char}
    (without : ¬(c :: needle) <:+: needle ++ after) (before : List Char) :
    cutAtLast (c :: needle) (before ++ (c :: needle) ++ after) = some (before, after) := by
  have first : FirstBehind (needle.reverse ++ [c]) after.reverse := by
    refine firstBehind_concat needle.reverse fun holds => without ?_
    rwa [← List.reverse_append, ← List.reverse_cons, List.reverse_infix] at holds
  have found := cutAt_append first before.reverse
  rw [← List.reverse_cons] at found
  rw [cutAtLast, List.reverse_append, List.reverse_append, ← List.append_assoc, found]
  simp

end Text

namespace Expr

variable {cs text header : List Char}

/-! ## Blanks and parentheses around a header -/

/-- A header with blanks around it, as it stands or in one pair of parentheses. -/
inductive Wrapped (text : List Char) : List Char → Prop
  | bare {front back : List Char} (before : ∀ c ∈ front, isBlank c = true)
      (after : ∀ c ∈ back, isBlank c = true) : Wrapped text (front ++ text ++ back)
  | inParens {front inner inner' back : List Char} (before : ∀ c ∈ front, isBlank c = true)
      (first : ∀ c ∈ inner, isBlank c = true) (last : ∀ c ∈ inner', isBlank c = true)
      (after : ∀ c ∈ back, isBlank c = true) :
      Wrapped text (front ++ ('(' :: (inner ++ text ++ inner') ++ [')']) ++ back)

theorem Wrapped.self (text : List Char) : Wrapped text text := by
  have bare : Wrapped text ([] ++ text ++ []) := .bare (List.forall_mem_nil _) (List.forall_mem_nil _)
  rwa [List.nil_append, List.append_nil] at bare

theorem before?_eq_some_iff {needle text front : List Char} :
    before? needle text = some front ↔ text = front ++ needle := by
  rw [before?, Option.map_eq_some_iff]
  constructor
  · rintro ⟨rest, found, rfl⟩
    rw [after?_eq_some_iff, List.reverse_eq_iff] at found
    simpa using found
  · rintro rfl
    exact ⟨front.reverse, after?_eq_some_iff.2 List.reverse_append, List.reverse_reverse _⟩

/-- One pair of parentheses is taken away. A header that does not end in one keeps those of its
source. -/
theorem unwrapped_of_wrapped (wrapped : Wrapped text header)
    (ends : ∀ c ∈ (trimmed text).getLast?, c ≠ ')') : unwrapped header = trimmed text := by
  cases wrapped with
  | bare before after =>
      have whole := trimmed_between before after text
      cases found : (after? ['('] (trimmed text)).bind (before? [')']) with
      | none => rw [unwrapped, whole, found]
      | some inside =>
          obtain ⟨rest, opened, closed⟩ := Option.bind_eq_some_iff.1 found
          rw [after?_eq_some_iff.1 opened, before?_eq_some_iff.1 closed] at ends
          rw [← List.append_assoc, List.getLast?_concat] at ends
          exact absurd rfl (ends ')' rfl)
  | @inParens front inner inner' back before first last after =>
      have opens : dropBlanks ('(' :: (inner ++ text ++ inner') ++ [')']) =
          '(' :: (inner ++ text ++ inner') ++ [')'] := dropBlanks_cons_of_not (by decide)
      have whole : trimmed (front ++ ('(' :: (inner ++ text ++ inner') ++ [')']) ++ back) =
          '(' :: (inner ++ text ++ inner') ++ [')'] := by
        rw [trimmed_between before after, trimmed, opens, dropBlanksEnd_concat_of_not (by decide)]
      have opened : after? ['('] ('(' :: (inner ++ text ++ inner') ++ [')']) =
          some (inner ++ text ++ inner' ++ [')']) := after?_eq_some_iff.2 rfl
      rw [unwrapped, whole, opened, Option.bind_some, before?_eq_some_iff.2 rfl]
      exact trimmed_between first last text

/-! ## Names -/

/-- A name that a variable can have. -/
structure VariableName (name : String) : Prop where
  start : name.toList.head?.any isWordStart = true
  letters : ∀ c ∈ name.toList, isWordChar c = true

theorem isVariableName {name : String} (named : variableName cs = .ok name) : VariableName name := by
  simp only [variableName] at named
  split at named <;> cases named
  next good =>
    rw [Bool.and_eq_true, List.all_eq_true] at good
    constructor
    · rw [String.toList_ofList]
      exact good.1
    · rw [String.toList_ofList]
      exact good.2

theorem VariableName.exists_cons {name : String} (good : VariableName name) :
    ∃ c more, name.toList = c :: more := by
  cases start : name.toList with
  | nil =>
      have some := good.start
      rw [start] at some
      cases some
  | cons c more => exact ⟨c, more, rfl⟩

theorem not_mem_name {name : String} (good : VariableName name) {c : Char}
    (other : isWordChar c = false) : c ∉ name.toList := fun member => by
  rw [good.letters c member] at other
  cases other

/-- A name is read with a dollar sign or without, and with blanks around. -/
theorem variableName_written {name : String} (good : VariableName name)
    {front sigils back : List Char} (before : ∀ c ∈ front, isBlank c = true)
    (dollars : ∀ c ∈ sigils, c = '$') (after : ∀ c ∈ back, isBlank c = true) :
    variableName (front ++ (sigils ++ name.toList) ++ back) = .ok name := by
  have plain : ∀ c ∈ sigils ++ name.toList, isBlank c = false := by
    intro c member
    rcases List.mem_append.1 member with sigil | letter
    · rw [dollars c sigil]
      decide
    · exact isBlank_of_isWordChar (good.letters c letter)
  have whole : trimmed (sigils ++ name.toList) = sigils ++ name.toList := by
    have front : dropBlanks (sigils ++ name.toList) = sigils ++ name.toList :=
      List.dropWhile_eq_self_iff.2 fun some => by
        rw [plain _ (List.getElem_mem some)]
        exact Bool.false_ne_true
    rw [trimmed, front, dropBlanksEnd_plain plain]
  have noDollar : ∀ c ∈ name.toList.head?, (c == '$') = false := by
    intro c first
    refine beq_eq_false_iff_ne.2 ?_
    rintro rfl
    exact not_mem_name good (by decide) (List.mem_of_mem_head? first)
  have core : (sigils ++ name.toList).dropWhile (· == '$') = name.toList :=
    dropWhile_append_of_stop (fun c sigil => beq_iff_eq.2 (dollars c sigil)) noDollar
  simp only [variableName, trimmed_between before after, whole, core]
  rw [good.start, List.all_eq_true.2 good.letters, String.ofList_toList]
  rfl

/-- What is read as a name is one, with dollar signs and blanks. -/
theorem exists_of_variableName {name : String} (named : variableName cs = .ok name) :
    ∃ front sigils back, cs = front ++ (sigils ++ name.toList) ++ back ∧
      (∀ c ∈ front, isBlank c = true) ∧ (∀ c ∈ sigils, c = '$') ∧ ∀ c ∈ back, isBlank c = true := by
  obtain ⟨back, whole, blank⟩ := exists_blanks_behind (dropBlanks cs)
  refine ⟨cs.takeWhile isBlank, (trimmed cs).takeWhile (· == '$'), back, ?_,
    fun c member => List.mem_takeWhile_imp member,
    fun c member => beq_iff_eq.1 (List.mem_takeWhile_imp (p := (· == '$')) member), blank⟩
  simp only [variableName] at named
  split at named <;> cases named
  rw [String.toList_ofList, List.takeWhile_append_dropWhile, List.append_assoc, trimmed, ← whole,
    dropBlanks, List.takeWhile_append_dropWhile]

/-! ## What stands behind the ` as ` -/

/-- What can be bound in a header: it holds no other ` as `, neither alone nor with the first one, and it
ends neither in a blank nor in a parenthesis. -/
structure Bindable (binding : List Char) : Prop where
  some : dropBlanksEnd binding ≠ []
  blank : dropBlanksEnd binding = binding
  ends : ∀ c ∈ binding.getLast?, c ≠ ')'
  apart : ¬[' ', 'a', 's', ' '] <:+: ['a', 's', ' '] ++ binding

theorem bindable_of_name {front : List Char} {name : String} (good : VariableName name)
    (apart : ¬[' ', 'a', 's', ' '] <:+: ['a', 's', ' '] ++ (front ++ name.toList)) :
    Bindable (front ++ name.toList) := by
  have back := dropBlanksEnd_plain fun c letter => isBlank_of_isWordChar (good.letters c letter)
  have some : dropBlanksEnd name.toList ≠ [] := by
    obtain ⟨c, more, shape⟩ := good.exists_cons
    rw [back, shape]
    exact List.cons_ne_nil c more
  have whole := dropBlanksEnd_append_of_ne_nil some front
  rw [back] at whole some
  refine ⟨?_, whole, fun c last => ?_, apart⟩
  · rw [whole]
    exact List.append_ne_nil_of_right_ne_nil front some
  · rintro rfl
    rw [List.getLast?_append_of_ne_nil _ some] at last
    exact not_mem_name good (by decide) (List.mem_of_getLast? last)

/-- What is read as a name can be bound. -/
theorem bindable_of_variableName {name : String} (named : variableName cs = .ok name) :
    Bindable (dropBlanksEnd cs) := by
  have good := isVariableName named
  obtain ⟨front, sigils, back, rfl, before, dollars, after⟩ := exists_of_variableName named
  have plain : ∀ c ∈ (sigils ++ name.toList).reverse, isBlank c = false := by
    intro c member
    rcases List.mem_append.1 (List.mem_reverse.1 member) with sigil | letter
    · rw [dollars c sigil]
      decide
    · exact isBlank_of_isWordChar (good.letters c letter)
  have apart := not_infix_word (a := 's') (b := 'a') (by decide) plain
    fun c member => before c (List.mem_reverse.1 member)
  rw [dropBlanksEnd_append_blanks after]
  have bindable : Bindable (front ++ sigils ++ name.toList) := by
    refine bindable_of_name good fun holds => apart ?_
    rw [← List.reverse_infix] at holds
    simpa using holds
  rw [← List.append_assoc, bindable.blank]
  exact bindable

/-- Two names with dollar signs can be bound. -/
theorem bindable_of_names {key item : String} (goodKey : VariableName key)
    (goodItem : VariableName item) :
    Bindable ('$' :: (key.toList ++ [' ', '=', '>', ' ', '$']) ++ item.toList) := by
  refine bindable_of_name goodItem ?_
  have noBlank {name : String} (good : VariableName name) : ' ' ∉ name.toList :=
    not_mem_name good (by decide)
  have inKey : ¬[' ', 'a', 's', ' '] <:+: key.toList ++ [' '] := fun holds => by
    have blanks := holds.sublist.count_le ' '
    rw [List.count_append, List.count_eq_zero_of_not_mem (noBlank goodKey)] at blanks
    exact absurd blanks (by decide)
  have inItem : ¬[' ', 'a', 's', ' '] <:+: item.toList := fun holds =>
    noBlank goodItem (holds.subset List.mem_cons_self)
  have some : [' ', 'a', 's', ' '] ≠ [] := List.cons_ne_nil _ _
  have inArrow : ¬[' ', 'a', 's', ' '] <:+: ['>', ' '] := by decide
  have inFront : ¬[' ', 'a', 's', ' '] <:+: ['a', 's', ' '] := by decide
  have behindArrow := not_infix_append_cons (c := '$') some inArrow (by decide) inItem
  have behindKey := not_infix_append_cons (c := '=') some inKey (by decide) behindArrow
  have whole := not_infix_append_cons (c := '$') some inFront (by decide) behindKey
  simpa using whole

/-! ## Blanks in front of an expression -/

theorem eat?_dropBlanks (mark : Char) (cs : List Char) : eat? mark (dropBlanks cs) = eat? mark cs := by
  rw [eat?, eat?, dropBlanks_idem]

theorem readOperand_dropBlanks (cs : List Char) : readOperand (dropBlanks cs) = readOperand cs := by
  rw [readOperand, dropBlanks_idem, ← readOperand]

theorem negation?_dropBlanks (cs : List Char) : negation? (dropBlanks cs) = negation? cs := by
  rw [negation?, dropBlanks_idem, ← negation?]

/-- More steps than there are characters make no difference. -/
theorem readNegations_enough {m n : Nat} {cs : List Char} (enough : cs.length ≤ m)
    (enough' : cs.length ≤ n) (negated : Bool) :
    readNegations negated m cs = readNegations negated n cs := by
  induction m generalizing n cs negated with
  | zero =>
      cases List.length_eq_zero_iff.1 (Nat.le_zero.1 enough)
      exact (readNegations_of_none rfl negated n).symm
  | succ m ih =>
      cases found : negation? cs with
      | none => rw [readNegations_of_none found, readNegations_of_none found]
      | some left =>
          have shorter := length_of_negation? found
          obtain ⟨n, rfl⟩ := Nat.exists_eq_add_one.2 (Nat.lt_of_lt_of_le (Nat.zero_lt_of_lt shorter)
            enough')
          rw [readNegations, readNegations, found]
          exact ih (by omega) (by omega) (!negated)

theorem length_of_readNegations (negated : Bool) (n : Nat) (cs : List Char) :
    (readNegations negated n cs).2.length ≤ cs.length := by
  induction n generalizing cs negated with
  | zero => exact Nat.le_refl _
  | succ n ih =>
      cases found : negation? cs with
      | none =>
          rw [readNegations_of_none found]
      | some left =>
          rw [readNegations, found]
          exact Nat.le_trans (ih (!negated) left) (Nat.le_of_lt (length_of_negation? found))

theorem readNegations_dropBlanks (negated : Bool) (cs : List Char) :
    ∃ result left left', readNegations negated cs.length cs = (result, left) ∧
      readNegations negated (dropBlanks cs).length (dropBlanks cs) = (result, left') ∧
      dropBlanks left' = dropBlanks left := by
  have marks := negation?_dropBlanks cs
  cases found : negation? cs with
  | none =>
      rw [found] at marks
      exact ⟨negated, cs, dropBlanks cs, readNegations_of_none found _ _, readNegations_of_none marks _ _,
        dropBlanks_idem cs⟩
  | some left =>
      rw [found] at marks
      have shorter := length_of_negation? found
      have shorter' := length_of_negation? marks
      obtain ⟨m, isM⟩ := Nat.exists_eq_add_one.2 (Nat.zero_lt_of_lt shorter)
      obtain ⟨n, isN⟩ := Nat.exists_eq_add_one.2 (Nat.zero_lt_of_lt shorter')
      rw [isM, isN, readNegations, readNegations, found, marks]
      have same : readNegations (!negated) m left = readNegations (!negated) n left :=
        readNegations_enough (by omega) (by omega) (!negated)
      exact ⟨_, _, _, rfl, same.symm, rfl⟩

/-- An expression is read without the blanks in front. -/
theorem parseAll_dropBlanks {e : Expr} (read : parseAll cs = .ok e) :
    parseAll (dropBlanks cs) = .ok e := by
  obtain ⟨rest, first, blank⟩ := whole_eq_ok.1 read
  refine whole_eq_ok.2 ⟨rest, ?_, blank⟩
  obtain ⟨result, left, left', marks, marks', same⟩ := readNegations_dropBlanks false cs
  have opens : eat? '(' left' = eat? '(' left := by
    rw [← eat?_dropBlanks, same, eat?_dropBlanks]
  have base : readOperand left' = readOperand left := by
    rw [← readOperand_dropBlanks, same, readOperand_dropBlanks]
  rw [readExpr, marks] at first
  rw [readExpr, marks']
  simp only [opens, base] at first ⊢
  cases group : eat? '(' left with
  | none =>
      rw [group] at first
      exact first
  | some inside =>
      rw [group] at first opens
      obtain ⟨⟨inner, behind⟩, readInner, readRest⟩ := bind_eq_ok.1 first
      have within := length_of_readNegations false (dropBlanks cs).length (dropBlanks cs)
      rw [marks'] at within
      have leaves := readExpr_leaves (m := cs.length) (List.forall_mem_nil _)
        (Nat.lt_of_lt_of_le (length_of_eat? opens) within)
      rw [List.append_nil] at leaves
      obtain ⟨left, rfl, -, readShort⟩ := leaves inner behind readInner
      rw [List.append_nil] at readRest
      simp only [readShort]
      exact readRest

/-! ## The header -/

end Expr

open Stencil.Expr

namespace ForeachHeader

/-- The header of a source and what is bound behind it. -/
def bound (source : Expr) (binding : List Char) : Except ExprError ForeachHeader :=
  match cutAt ['=', '>'] binding with
  | some (key, item) => do
      let key ← variableName key
      return ⟨source, some key, ← variableName item⟩
  | none => do return ⟨source, none, ← variableName binding⟩

/-- A header is cut in front of what is bound, with blanks and parentheses around it and without. -/
theorem parse_of_bindable {source binding : List Char} {header : String} {x : Expr}
    (read : parseAll source = .ok x) (bindable : Bindable (dropBlanksEnd binding))
    (wrapped : Wrapped (source ++ [' ', 'a', 's', ' '] ++ binding) header.toList) :
    ForeachHeader.parse header = bound x (dropBlanksEnd binding) := by
  have someSource : dropBlanks source ≠ [] := fun none => by
    have blank := parseAll_dropBlanks read
    rw [none] at blank
    cases blank
  have some : dropBlanksEnd binding ≠ [] := by
    have some := bindable.some
    rwa [bindable.blank] at some
  have whole : trimmed (source ++ [' ', 'a', 's', ' '] ++ binding) =
      dropBlanks source ++ [' ', 'a', 's', ' '] ++ dropBlanksEnd binding := by
    rw [trimmed, List.append_assoc, dropBlanks_append_of_ne_nil someSource, ← List.append_assoc,
      dropBlanksEnd_append_of_ne_nil some]
  have ends : ∀ c ∈ (trimmed (source ++ [' ', 'a', 's', ' '] ++ binding)).getLast?, c ≠ ')' := by
    rw [whole, List.getLast?_append_of_ne_nil _ some]
    exact bindable.ends
  rw [ForeachHeader.parse, unwrapped_of_wrapped wrapped ends, whole, cutAtLast_append bindable.apart]
  simp only [parseAll_dropBlanks read]
  rfl

theorem bound_of_variableName {binding : List Char} {name : String} (x : Expr)
    (named : variableName binding = .ok name) :
    bound x (dropBlanksEnd binding) = .ok ⟨x, none, name⟩ := by
  have noArrow : cutAt ['=', '>'] (dropBlanksEnd binding) = none := by
    refine (cutAt_eq_none_iff (List.cons_ne_nil _ _)).2 fun holds => ?_
    have plain : ∀ c ∈ ['=', '>'], isBlank c = false :=
      List.forall_mem_cons.2 ⟨rfl, List.forall_mem_singleton.2 rfl⟩
    rw [infix_dropBlanksEnd (List.cons_ne_nil _ _) plain] at holds
    have member : '=' ∈ binding := holds.subset List.mem_cons_self
    have good := isVariableName named
    obtain ⟨front, sigils, back, rfl, before, dollars, after⟩ := exists_of_variableName named
    simp only [List.mem_append] at member
    rcases member with (first | sigil | letter) | last
    · exact absurd (before _ first) (by decide)
    · exact absurd (dollars _ sigil) (by decide)
    · exact not_mem_name good (by decide) letter
    · exact absurd (after _ last) (by decide)
  have same : variableName (dropBlanksEnd binding) = .ok name := by
    rw [← named, variableName, trimmed_dropBlanksEnd, ← variableName]
  simp only [bound, noArrow, same]
  rfl

theorem bound_of_names {key item : String} (x : Expr) (goodKey : VariableName key)
    (goodItem : VariableName item) :
    bound x ('$' :: (key.toList ++ [' ', '=', '>', ' ', '$']) ++ item.toList) =
      .ok ⟨x, some key, item⟩ := by
  have arrow : cutAt ['=', '>'] ('$' :: (key.toList ++ [' ', '=', '>', ' ', '$']) ++ item.toList) =
      some ('$' :: (key.toList ++ [' ']), ' ' :: '$' :: item.toList) := by
    have other : '>' ∉ key.toList := not_mem_name goodKey (by decide)
    have without : ¬(['='] ++ ['>']) <:+: '$' :: (key.toList ++ [' ']) ++ ['='] := fun holds => by
      have member := holds.subset (List.mem_append_right _ List.mem_cons_self)
      simp [other] at member
    have first := firstBehind_concat ['='] without
    have found := cutAt_append first (' ' :: '$' :: item.toList)
    simpa using found
  have space : ∀ c ∈ [' '], isBlank c = true := List.forall_mem_singleton.2 rfl
  have dollar : ∀ c ∈ ['$'], c = '$' := List.forall_mem_singleton.2 rfl
  have readKey : variableName ('$' :: (key.toList ++ [' '])) = .ok key := by
    have written := variableName_written goodKey (List.forall_mem_nil _) dollar space
    rwa [List.nil_append] at written
  have readItem : variableName (' ' :: '$' :: item.toList) = .ok item := by
    have written := variableName_written goodItem space dollar (List.forall_mem_nil _)
    rwa [List.append_nil] at written
  simp only [bound, arrow, readKey, readItem]
  rfl

/-- A header over the items of a source, or over its keys and items, is read as what it spells, also in
one pair of parentheses, whatever the source holds. -/
theorem parse_wrapped {e k v : String} {x : Expr} (read : Expr.parse e = .ok x)
    (key : variableName k.toList = .ok k) (item : variableName v.toList = .ok v) (header : String) :
    (Wrapped (e ++ " as $" ++ v).toList header.toList →
        ForeachHeader.parse header = .ok ⟨x, none, v⟩) ∧
      (Wrapped (e ++ " as $" ++ k ++ " => $" ++ v).toList header.toList →
        ForeachHeader.parse header = .ok ⟨x, some k, v⟩) := by
  have goodKey := isVariableName key
  have goodItem := isVariableName item
  constructor
  · intro wrapped
    have named : variableName ('$' :: v.toList) = .ok v := by
      have dollar : ∀ c ∈ ['$'], c = '$' := List.forall_mem_singleton.2 rfl
      have written := variableName_written goodItem (List.forall_mem_nil _) dollar
        (List.forall_mem_nil _)
      rwa [List.append_nil] at written
    rw [parse_of_bindable read (bindable_of_variableName named) (by simpa using wrapped)]
    exact bound_of_variableName x named
  · intro wrapped
    have bindable := bindable_of_names goodKey goodItem
    have whole := bindable.blank
    rw [← whole] at bindable
    rw [parse_of_bindable read bindable (by simpa using wrapped), whole]
    exact bound_of_names x goodKey goodItem

/-- A source that begins with a parenthesis and holds `=>` and ` as ` in a string, a key and an argument;
a key that is called `as`; blanks of all kinds. -/
theorem parse_wrapped_quoted :
    let e := "\t(rows[' as $a => $b) as ']) | default(\"x as (y\", ') as ') "
    let x := Expr.group false (.operand false (.path [.key "rows", .key " as $a => $b) as "]) [])
      [⟨"default", [.literal (.string "x as (y"), .literal (.string ") as ")]⟩]
    let header := "\n( " ++ (e ++ " as $" ++ "as" ++ " => $" ++ "item") ++ "\t) "
    Expr.parse e = .ok x ∧ variableName "as".toList = .ok "as" ∧
      variableName "item".toList = .ok "item" ∧
      Wrapped (e ++ " as $" ++ "as" ++ " => $" ++ "item").toList header.toList ∧
      ForeachHeader.parse header = .ok ⟨x, some "as", "item"⟩ := by
  intro e x header
  have read : Expr.parse e = .ok x := by
    simp only [e, x]
    cbv
  have key : variableName "as".toList = .ok "as" := by decide +kernel
  have item : variableName "item".toList = .ok "item" := by decide +kernel
  have wrapped : Wrapped (e ++ " as $" ++ "as" ++ " => $" ++ "item").toList header.toList := by
    have inParens (text : List Char) :
        Wrapped text (['\n'] ++ ('(' :: ([' '] ++ text ++ ['\t']) ++ [')']) ++ [' ']) :=
      .inParens (List.forall_mem_singleton.2 rfl) (List.forall_mem_singleton.2 rfl)
        (List.forall_mem_singleton.2 rfl) (List.forall_mem_singleton.2 rfl)
    simpa [header] using inParens (e ++ " as $" ++ "as" ++ " => $" ++ "item").toList
  exact ⟨read, key, item, wrapped, (parse_wrapped read key item header).2 wrapped⟩

end ForeachHeader

end Stencil
