import Stencil.Expr.Reader
import Stencil.Proofs.Json.RoundTrip

/-!
# Expressions, printed and read

An expression is printed with an exclamation mark if it is negated, a dollar sign in front of every
path and brackets around all that follows its root. The readers take what is printed off the front of
a text that does not go on with what belongs to it.

1. `Expr.readQuoted_quoted`, `Expr.readNumber_intText`, `Expr.readSegments_write`: the parts of
   operands.
2. `Expr.readOperand_write`, `Expr.readCalls_write`: operands and filters.
3. `Expr.readExpr_write`: an expression in front of a closing parenthesis or the end.
-/

namespace Stencil

open Stencil.Decimal
open Stencil.Text

/-! ## Printing -/

namespace Expr

/-- One character between double quotes. -/
def quotedChar (c : Char) : List Char := if c = '"' ∨ c = '\\' then ['\\', c] else [c]

/-- A text in double quotes, with a backslash before each quote and backslash in it. -/
def quoted (s : String) : List Char := '"' :: (s.toList.flatMap quotedChar ++ ['"'])

/-- The mark of a negation. -/
def mark (negated : Bool) : List Char := if negated then ['!'] else []

/-- A name of letters, digits and underscores. -/
def Named (name : String) : Prop := name.toList ≠ [] ∧ ∀ c ∈ name.toList, isWordChar c = true

end Expr

/-- A segment behind the root of a path, in brackets. -/
def Segment.write : Segment → List Char
  | key name => '[' :: (Expr.quoted name ++ [']'])
  | index n => '[' :: (decimalDigits n ++ [']'])

theorem Segment.write_ne_nil (segment : Segment) : segment.write ≠ [] := by
  cases segment <;> exact List.cons_ne_nil _ _

/-- Whether the segment can be written: indices are 64-bit words. -/
def Segment.Printable : Segment → Prop
  | key _ => True
  | index n => n < wordLimit

/-- An operand as text. There is none for doubles, lists, maps and paths without a name in front. -/
def Operand.write : Operand → List Char
  | literal .null => ['n', 'u', 'l', 'l']
  | literal (.bool true) => ['t', 'r', 'u', 'e']
  | literal (.bool false) => ['f', 'a', 'l', 's', 'e']
  | literal (.int n) => (Value.intText n).toList
  | literal (.string s) => Expr.quoted s
  | path (.key root :: rest) => '$' :: (root.toList ++ rest.flatMap Segment.write)
  | _ => []

/-- What can be written: a literal of one word, an integer, a text, or a path that starts with a
name. -/
inductive Operand.Printable : Operand → Prop
  | null : Printable (.literal .null)
  | bool (b : Bool) : Printable (.literal (.bool b))
  | int (n : Int64) : Printable (.literal (.int n))
  | string (s : String) : Printable (.literal (.string s))
  | path {root : String} {rest : List Segment} (named : Expr.Named root)
      (inside : ∀ segment ∈ rest, segment.Printable) : Printable (.path (.key root :: rest))

/-- Arguments behind the first one, with a comma before each. -/
def FilterCall.writeMore (more : List Operand) : List Char :=
  more.flatMap fun o => ',' :: ' ' :: o.write

/-- The arguments of a filter in parentheses, which are left out around none. -/
def FilterCall.writeArguments : List Operand → List Char
  | [] => []
  | first :: more => '(' :: (first.write ++ (writeMore more ++ [')']))

/-- A filter behind a bar. -/
def FilterCall.write (call : FilterCall) : List Char :=
  ' ' :: '|' :: ' ' :: (call.name.toList ++ writeArguments call.arguments)

theorem FilterCall.write_ne_nil (call : FilterCall) : call.write ≠ [] := List.cons_ne_nil _ _

def FilterCall.Printable (call : FilterCall) : Prop :=
  Expr.Named call.name ∧ ∀ o ∈ call.arguments, o.Printable

namespace Expr

/-- An expression as text. -/
def write : Expr → List Char
  | operand negated base calls => mark negated ++ (base.write ++ calls.flatMap FilterCall.write)
  | group negated inner calls =>
      mark negated ++ '(' :: (inner.write ++ ')' :: calls.flatMap FilterCall.write)

/-- Whether all parts of the expression can be written. -/
def Printable : Expr → Prop
  | operand _ base calls => base.Printable ∧ ∀ call ∈ calls, call.Printable
  | group _ inner calls => inner.Printable ∧ ∀ call ∈ calls, call.Printable

/-- The text of an expression. -/
def print (e : Expr) : String := String.ofList e.write

/-! ## Where a reader stops -/

/-- Whether a text goes on with a blank, a comma or a closing parenthesis, or not at all. -/
def Ends (rest : List Char) : Prop := ∀ c ∈ rest.head?, c = ' ' ∨ c = ',' ∨ c = ')'

theorem ends_cons {c : Char} (h : c = ' ' ∨ c = ',' ∨ c = ')') (rest : List Char) :
    Ends (c :: rest) := by
  rintro d ⟨⟩
  exact h

/-- Characters of a kind that has none of these three end there. -/
theorem Ends.stop {p : Char → Bool} {rest : List Char} (ends : Ends rest)
    (none : (p ' ' || p ',' || p ')') = false) : ∀ c ∈ rest.head?, p c = false := by
  simp only [Bool.or_eq_false_iff] at none
  intro c head
  rcases ends c head with rfl | rfl | rfl
  · exact none.1.1
  · exact none.1.2
  · exact none.2

theorem readWord_append {name : String} (named : Named name) {rest : List Char}
    (stop : ∀ c ∈ rest.head?, isWordChar c = false) :
    readWord (name.toList ++ rest) = .ok (name, rest) := by
  obtain ⟨any, all⟩ := named
  simp [readWord, takeWhile_append_of_stop all stop, dropWhile_append_of_stop all stop, any]

/-! ## Texts and numbers -/

theorem readQuoted_flatMap (cs seen rest : List Char) :
    readQuoted '"' seen (cs.flatMap quotedChar ++ '"' :: rest) =
      .ok (String.ofList (seen.reverse ++ cs), rest) := by
  induction cs generalizing seen with
  | nil => simp [readQuoted]
  | cons c more ih =>
      have further : seen.reverse ++ c :: more = (c :: seen).reverse ++ more := by simp
      rw [List.flatMap_cons, List.append_assoc, further, ← ih]
      by_cases special : c = '"' ∨ c = '\\'
      · rw [quotedChar, if_pos special]
        rcases special with rfl | rfl <;> simp [readQuoted, unescaped]
      · have plain := not_or.1 special
        rw [quotedChar, if_neg special]
        simp [readQuoted, plain]

/-- A text in double quotes is read behind the first one. -/
theorem readQuoted_quoted (s : String) (rest : List Char) :
    quoted s ++ rest = '"' :: (s.toList.flatMap quotedChar ++ '"' :: rest) ∧
      readQuoted '"' [] (s.toList.flatMap quotedChar ++ '"' :: rest) = .ok (s, rest) := by
  refine ⟨by simp [quoted], ?_⟩
  simpa using readQuoted_flatMap s.toList [] rest

theorem startsFraction_of_ends {rest : List Char} (ends : Ends rest) :
    startsFraction rest = false := by
  unfold startsFraction
  split
  · rcases ends '.' rfl with h | h | h <;> cases h
  · rfl

/-- The digits of a number, with a sign or without. -/
theorem readNumber_digits {negative : Bool} {m : Nat} {value : Value}
    (number : integer? negative (decimalDigits m) = some value) {rest : List Char}
    (ends : Ends rest) :
    readNumber ((if negative then ['-'] else []) ++ (decimalDigits m ++ rest)) =
      .ok (value, rest) := by
  have digits : ∀ c ∈ decimalDigits m, isDigit c = true := fun c => Json.isDigit_of_decimal
  have stop : ∀ c ∈ rest.head?, isDigit c = false := ends.stop (by decide)
  cases negative with
  | true =>
      simp [readNumber, takeWhile_append_of_stop digits stop, dropWhile_append_of_stop digits stop,
        startsFraction_of_ends ends, number]
  | false =>
      obtain ⟨c, more, shape⟩ := List.exists_cons_of_ne_nil (decimalDigits_ne_nil m)
      have minus : c ≠ '-' := by
        rintro rfl
        cases digits _ (shape ▸ List.mem_cons_self)
      rw [shape] at number digits ⊢
      have whole := takeWhile_append_of_stop digits stop
      have behind := dropWhile_append_of_stop digits stop
      rw [List.cons_append] at whole behind
      simp [readNumber, minus, whole, behind, startsFraction_of_ends ends, number]

theorem integer?_natAbs (n : Int64) :
    integer? (n.toInt < 0) (decimalDigits n.toInt.natAbs) = some (.int n) := by
  have value := Json.digitsValue_decimalDigits n.toInt.natAbs
  have some := Json.isEmpty_decimalDigits n.toInt.natAbs
  have low : -0x8000000000000000 ≤ n.toInt := n.minValue_le_toInt
  have high := n.toInt_lt
  by_cases negative : n.toInt < 0
  · have fits : n.toInt.natAbs ≤ 0x8000000000000000 := by omega
    have back : -(n.toInt.natAbs : Int) = n.toInt := by omega
    simp only [integer?, negative, value, some, fits, back, Int64.ofInt_toInt, decide_true,
      Bool.false_eq_true, if_false, if_true]
  · have fits : n.toInt.natAbs < 0x8000000000000000 := by omega
    have size : (n.toInt.natAbs : Int) = n.toInt := by omega
    have back : Int64.ofNat n.toInt.natAbs = n := by
      rw [← Int64.ofInt_eq_ofNat, size, Int64.ofInt_toInt]
    simp only [integer?, negative, value, some, fits, back, decide_false, Bool.false_eq_true,
      if_false, if_true]

theorem toList_intText (n : Int64) :
    (Value.intText n).toList =
      (if decide (n.toInt < 0) then ['-'] else []) ++ decimalDigits n.toInt.natAbs := by
  rw [Value.intText, Json.toList_ofInt]
  by_cases negative : n.toInt < 0 <;> simp [negative]

theorem readNumber_intText (n : Int64) {rest : List Char} (ends : Ends rest) :
    readNumber ((Value.intText n).toList ++ rest) = .ok (.int n, rest) := by
  rw [toList_intText, List.append_assoc]
  exact readNumber_digits (integer?_natAbs n) ends

/-- The text of an integer starts with a sign or a digit. -/
theorem intText_start (n : Int64) :
    ∃ c more, (Value.intText n).toList = c :: more ∧ (c = '-' ∨ isDigit c = true) := by
  rw [toList_intText]
  by_cases negative : n.toInt < 0
  · rw [decide_eq_true negative]
    exact ⟨_, _, rfl, .inl rfl⟩
  · rw [decide_eq_false negative]
    obtain ⟨c, more, shape⟩ := List.exists_cons_of_ne_nil (decimalDigits_ne_nil n.toInt.natAbs)
    exact ⟨c, more, shape, .inr (Json.isDigit_of_decimal (shape ▸ List.mem_cons_self))⟩

/-! ## Marks and blanks -/

/-- The code points of the blanks. -/
def blankPoints : List Nat :=
  List.range' 0x9 5 ++ [0x20, 0x85, 0xA0, 0x1680] ++ List.range' 0x2000 11 ++
    [0x2028, 0x2029, 0x202F, 0x205F, 0x3000]

theorem toNat_mem_blankPoints {c : Char} (h : isBlank c = true) : c.toNat ∈ blankPoints := by
  simp only [isBlank, Bool.or_eq_true, Bool.and_eq_true, decide_eq_true_eq, beq_iff_eq] at h
  simp only [blankPoints, List.mem_append, List.mem_range'_1, List.mem_cons, List.not_mem_nil,
    or_false]
  omega

theorem isBlank_of_isWordChar {c : Char} (h : isWordChar c = true) : isBlank c = false := by
  have outside : ∀ n ∈ blankPoints, isWordChar (Char.ofNat n) = false := by decide +kernel
  rw [Bool.eq_false_iff]
  intro blank
  have other := outside _ (toNat_mem_blankPoints blank)
  rw [Char.ofNat_toNat, h] at other
  cases other

theorem isBlank_of_isDigit {c : Char} (h : isDigit c = true) : isBlank c = false := by
  refine isBlank_of_isWordChar ?_
  have ascii : c.toNat < 0x80 := by
    simp only [isDigit, Bool.and_eq_true, decide_eq_true_eq] at h
    exact Nat.lt_of_le_of_lt h.2 (by decide)
  simp [isWordChar, isAlphanumeric, ascii, h]

/-- An integer does not start with a blank. -/
theorem isBlank_of_start {c : Char} (start : c = '-' ∨ isDigit c = true) : isBlank c = false := by
  rcases start with rfl | digit
  · decide
  · exact isBlank_of_isDigit digit

theorem isQuote_of_isDigit {c : Char} (h : isDigit c = true) : isQuote c = false := by
  rw [isQuote, Bool.or_eq_false_iff, beq_eq_false_iff_ne, beq_eq_false_iff_ne]
  constructor <;>
    · rintro rfl
      cases h

theorem dropBlanks_space (cs : List Char) : dropBlanks (' ' :: cs) = dropBlanks cs := rfl

theorem eat?_space (mark : Char) (cs : List Char) : eat? mark (' ' :: cs) = eat? mark cs := by
  rw [eat?, eat?, dropBlanks_space]

theorem eat?_cons {c : Char} (plain : isBlank c = false) (mark : Char) (rest : List Char) :
    eat? mark (c :: rest) = if c = mark then some rest else none := by
  rw [eat?, dropBlanks_cons_of_not plain]

theorem expect_cons {c : Char} (plain : isBlank c = false) (rest : List Char) :
    expect c (c :: rest) = .ok rest := by
  rw [expect, eat?_cons plain, if_pos rfl]

/-- No more steps are needed than there are characters. -/
theorem length_le_flatMap {α : Type} {write : α → List Char} (some : ∀ a, write a ≠ [])
    (row : List α) : row.length ≤ (row.flatMap write).length := by
  induction row with
  | nil => exact Nat.le_refl 0
  | cons a more ih =>
      have first := List.length_pos_iff.2 (some a)
      rw [List.flatMap_cons, List.length_append, List.length_cons]
      omega

/-! ## Operands -/

theorem readIndex_write {segment : Segment} (printable : segment.Printable) (rest : List Char) :
    ∃ inside, segment.write ++ rest = '[' :: inside ∧ readIndex inside = .ok (segment, rest) := by
  cases segment with
  | key name =>
      obtain ⟨text, read⟩ := readQuoted_quoted name (']' :: rest)
      refine ⟨quoted name ++ ']' :: rest, by simp [Segment.write], ?_⟩
      rw [text, readIndex, dropBlanks_cons_of_not (by decide)]
      simp [isQuote, read, expect_cons (c := ']') (by decide), bind, Except.bind, pure, Except.pure]
  | index n =>
      have digits : ∀ c ∈ decimalDigits n, isDigit c = true := fun c => Json.isDigit_of_decimal
      have stop : ∀ c ∈ (']' :: rest).head?, isDigit c = false := by
        rintro c ⟨⟩
        decide
      have number : natural? wordLimit (decimalDigits n) = some n := by
        have limit : n < wordLimit := printable
        rw [natural?, Json.isEmpty_decimalDigits, List.all_eq_true.2 digits,
          Json.digitsValue_decimalDigits]
        simp [limit]
      refine ⟨decimalDigits n ++ ']' :: rest, by simp [Segment.write], ?_⟩
      obtain ⟨c, more, shape⟩ := List.exists_cons_of_ne_nil (decimalDigits_ne_nil n)
      have digit : isDigit c = true := digits c (shape ▸ List.mem_cons_self)
      have whole := takeWhile_append_of_stop digits stop
      have behind := dropWhile_append_of_stop digits stop
      rw [shape, List.cons_append] at whole behind ⊢
      rw [shape] at number
      rw [readIndex, dropBlanks_cons_of_not (isBlank_of_isDigit digit)]
      simp [isQuote_of_isDigit digit, digit, whole, behind, number,
        expect_cons (c := ']') (by decide), bind, Except.bind, pure, Except.pure]

theorem readSegments_write {segments : List Segment}
    (printable : ∀ segment ∈ segments, segment.Printable) {rest : List Char} (ends : Ends rest)
    {steps : Nat} (enough : segments.length ≤ steps) :
    readSegments steps (segments.flatMap Segment.write ++ rest) = .ok (segments, rest) := by
  induction segments generalizing steps with
  | nil =>
      cases steps with
      | zero => rfl
      | succ steps =>
          cases rest with
          | nil => rfl
          | cons c more => rcases ends c rfl with rfl | rfl | rfl <;> rfl
  | cons segment more ih =>
      obtain ⟨steps, rfl⟩ := Nat.exists_eq_add_one.2 (Nat.zero_lt_of_lt enough)
      rw [List.forall_mem_cons] at printable
      obtain ⟨inside, text, read⟩ :=
        readIndex_write printable.1 (more.flatMap Segment.write ++ rest)
      rw [List.flatMap_cons, List.append_assoc, text, readSegments, read]
      simp [ih printable.2 (Nat.le_of_succ_le_succ enough), bind, Except.bind, pure, Except.pure]

/-- A word that stands for a literal is read as it where no dollar sign stands in front. -/
theorem readOperand_word (name : String) {value : Value} (literal : wordLiteral? name = some value)
    {rest : List Char} (ends : Ends rest) :
    readOperand (name.toList ++ rest) = .ok (.literal value, rest) := by
  have word : name = "true" ∨ name = "false" ∨ name = "null" := by
    unfold wordLiteral? at literal
    split at literal
    · exact .inl rfl
    · exact .inr (.inl rfl)
    · exact .inr (.inr rfl)
    · cases literal
  have named : Named name := by
    rcases word with rfl | rfl | rfl <;> exact ⟨by decide, List.all_eq_true.1 (by decide)⟩
  have path : readOperand (name.toList ++ rest) =
      (readWord (name.toList ++ rest)).bind fun root =>
        (readSegments root.2.length root.2).bind fun inside =>
          .ok (pathOperand false root.1 inside.1, inside.2) := by
    rcases word with rfl | rfl | rfl <;> rfl
  have none : readSegments rest.length rest = .ok ([], rest) :=
    readSegments_write (List.forall_mem_nil _) ends (Nat.zero_le _)
  rw [path, readWord_append named (ends.stop (by decide))]
  simp [none, Except.bind, pathOperand, literal]

theorem readOperand_path {root : String} (named : Named root) {segments : List Segment}
    (printable : ∀ segment ∈ segments, segment.Printable) {rest : List Char} (ends : Ends rest) :
    readOperand ((Operand.path (.key root :: segments)).write ++ rest) =
      .ok (.path (.key root :: segments), rest) := by
  let behind := segments.flatMap Segment.write ++ rest
  have stop : ∀ c ∈ behind.head?, isWordChar c = false := by
    cases segments with
    | nil => exact ends.stop (by decide)
    | cons segment more =>
        obtain ⟨inside, text, -⟩ := readIndex_write (printable segment List.mem_cons_self)
          (more.flatMap Segment.write ++ rest)
        simp only [behind, List.flatMap_cons, List.append_assoc, text]
        rintro c ⟨⟩
        decide
  have enough : segments.length ≤ behind.length := by
    have all := length_le_flatMap Segment.write_ne_nil segments
    rw [List.length_append]
    exact Nat.le_add_right_of_le all
  have text : (Operand.path (.key root :: segments)).write ++ rest =
      '$' :: (root.toList ++ behind) := by
    simp [Operand.write, behind]
  have path : readOperand ('$' :: (root.toList ++ behind)) =
      (readWord (root.toList ++ behind)).bind fun root =>
        (readSegments root.2.length root.2).bind fun inside =>
          .ok (pathOperand true root.1 inside.1, inside.2) := rfl
  rw [text, path, readWord_append named stop]
  simp only [Except.bind, behind, readSegments_write printable ends enough]
  rfl

theorem readOperand_intText (n : Int64) {rest : List Char} (ends : Ends rest) :
    readOperand ((Value.intText n).toList ++ rest) = .ok (.literal (.int n), rest) := by
  obtain ⟨c, more, shape, start⟩ := intText_start n
  have quote : isQuote c = false := by
    rcases start with rfl | digit
    · decide
    · exact isQuote_of_isDigit digit
  have number : (isDigit c || c == '-') = true := by
    rcases start with rfl | digit
    · decide
    · simp [digit]
  have read := readNumber_intText n ends
  rw [shape, List.cons_append] at read ⊢
  rw [readOperand, dropBlanks_cons_of_not (isBlank_of_start start)]
  simp only [quote, number, read, Bool.false_eq_true, if_false, if_true]
  rfl

theorem readOperand_write {o : Operand} (printable : o.Printable) {rest : List Char}
    (ends : Ends rest) : readOperand (o.write ++ rest) = .ok (o, rest) := by
  cases printable with
  | null => exact readOperand_word "null" rfl ends
  | bool b =>
      cases b with
      | true => exact readOperand_word "true" rfl ends
      | false => exact readOperand_word "false" rfl ends
  | int n => exact readOperand_intText n ends
  | string s =>
      obtain ⟨text, read⟩ := readQuoted_quoted s rest
      rw [Operand.write, text, readOperand, dropBlanks_cons_of_not (by decide)]
      simp [isQuote, read, Except.map]
  | path named inside => exact readOperand_path named inside ends

/-! ## Filters -/

/-- An operand does not start with a negation or a parenthesis. -/
theorem write_start {o : Operand} (printable : o.Printable) (rest : List Char) :
    negation? (o.write ++ rest) = none ∧
      ∀ paren, paren = '(' ∨ paren = ')' → eat? paren (o.write ++ rest) = none := by
  cases printable with
  | null => exact ⟨rfl, by rintro _ (rfl | rfl) <;> rfl⟩
  | bool b => cases b <;> exact ⟨rfl, by rintro _ (rfl | rfl) <;> rfl⟩
  | int n =>
      obtain ⟨c, more, shape, start⟩ := intText_start n
      have plain := isBlank_of_start start
      have other {d : Char} (h : d ≠ '-' ∧ isDigit d = false) : c ≠ d := by
        rintro rfl
        rcases start with rfl | digit
        · exact h.1 rfl
        · rw [h.2] at digit
          cases digit
      have bang : c ≠ '!' := other (by decide)
      have letter : c ≠ 'n' := other (by decide)
      rw [Operand.write, shape, List.cons_append]
      refine ⟨by simp [negation?, dropBlanks_cons_of_not plain, bang, letter], fun paren mark => ?_⟩
      rw [eat?_cons plain, if_neg]
      rcases mark with rfl | rfl <;> exact other (by decide)
  | string s => exact ⟨rfl, by rintro _ (rfl | rfl) <;> rfl⟩
  | path named inside => exact ⟨rfl, by rintro _ (rfl | rfl) <;> rfl⟩

theorem readArguments_space (steps : Nat) (cs : List Char) :
    readArguments steps (' ' :: cs) = readArguments steps cs := by
  cases steps <;> rfl

theorem readArguments_write {first : Operand} {more : List Operand}
    (printable : ∀ o ∈ first :: more, o.Printable) (rest : List Char) {steps : Nat}
    (enough : more.length < steps) :
    readArguments steps (first.write ++ (FilterCall.writeMore more ++ ')' :: rest)) =
      .ok (first :: more, rest) := by
  obtain ⟨steps, rfl⟩ := Nat.exists_eq_add_one.2 (Nat.zero_lt_of_lt enough)
  rw [List.forall_mem_cons] at printable
  induction more generalizing first steps with
  | nil =>
      have read := readOperand_write printable.1 (ends_cons (.inr (.inr rfl)) rest)
      have text : FilterCall.writeMore [] ++ ')' :: rest = ')' :: rest := rfl
      rw [text, readArguments, read]
      simp [eat?_cons (c := ')') (by decide), bind, Except.bind, pure, Except.pure]
  | cons next more ih =>
      have fewer := Nat.lt_of_succ_lt_succ enough
      obtain ⟨steps, rfl⟩ := Nat.exists_eq_add_one.2 (Nat.zero_lt_of_lt fewer)
      have text : FilterCall.writeMore (next :: more) ++ ')' :: rest =
          ',' :: ' ' :: (next.write ++ (FilterCall.writeMore more ++ ')' :: rest)) := by
        simp [FilterCall.writeMore]
      have read := readOperand_write printable.1 (ends_cons (.inr (.inl rfl))
        (' ' :: (next.write ++ (FilterCall.writeMore more ++ ')' :: rest))))
      have further := ih (List.forall_mem_cons.1 printable.2) steps fewer
      rw [text, readArguments, read]
      simp [eat?_cons (c := ',') (by decide), expect_cons (c := ',') (by decide),
        readArguments_space, further, bind, Except.bind, pure, Except.pure]

theorem readCall_write {call : FilterCall} (printable : call.Printable) {rest : List Char}
    (ends : Ends rest) (unopened : eat? '(' rest = none) :
    readCall (' ' :: (call.name.toList ++ (FilterCall.writeArguments call.arguments ++ rest))) =
      .ok (call, rest) := by
  obtain ⟨name, arguments⟩ := call
  obtain ⟨named, printable⟩ := printable
  have start (behind : List Char) : dropBlanks (' ' :: (name.toList ++ behind)) =
      name.toList ++ behind := by
    obtain ⟨c, more, shape⟩ := List.exists_cons_of_ne_nil named.1
    have plain := isBlank_of_isWordChar (named.2 c (shape ▸ List.mem_cons_self))
    rw [dropBlanks_space]
    simp only [shape, List.cons_append, dropBlanks_cons_of_not plain]
  cases arguments with
  | nil =>
      have read := readWord_append named (ends.stop (by decide))
      rw [readCall, start]
      simp [FilterCall.writeArguments, read, unopened, bind, Except.bind, pure, Except.pure]
  | cons first more =>
      let inside := first.write ++ (FilterCall.writeMore more ++ ')' :: rest)
      have text : FilterCall.writeArguments (first :: more) ++ rest = '(' :: inside := by
        simp [FilterCall.writeArguments, inside]
      have stop : ∀ c ∈ ('(' :: inside).head?, isWordChar c = false := by
        rintro c ⟨⟩
        decide
      have enough : more.length < inside.length + 1 := by
        have all := length_le_flatMap (fun o : Operand => List.cons_ne_nil ',' (' ' :: o.write)) more
        simp only [inside, FilterCall.writeMore, List.length_append]
        omega
      have arguments := readArguments_write printable rest enough
      have unclosed := (write_start (printable first List.mem_cons_self)
        (FilterCall.writeMore more ++ ')' :: rest)).2 ')' (.inr rfl)
      rw [text, readCall, start, readWord_append named stop]
      simp only [bind, Except.bind, eat?_cons (c := '(') (by decide), if_true]
      simp only [inside] at arguments ⊢
      rw [unclosed]
      simp only [arguments]
      rfl

/-- Whether a text goes on with a closing parenthesis, or not at all. -/
def Closed (rest : List Char) : Prop := rest = [] ∨ ∃ more, rest = ')' :: more

/-- Filters do not go on with what belongs to an operand or a name in front of them. -/
theorem calls_start {rest : List Char} (closed : Closed rest) (calls : List FilterCall) :
    Ends (calls.flatMap FilterCall.write ++ rest) ∧
      eat? '(' (calls.flatMap FilterCall.write ++ rest) = none := by
  cases calls with
  | nil =>
      rcases closed with rfl | ⟨more, rfl⟩
      · exact ⟨by rintro c ⟨⟩, rfl⟩
      · exact ⟨ends_cons (.inr (.inr rfl)) more, rfl⟩
  | cons call more => exact ⟨ends_cons (.inl rfl) _, rfl⟩

theorem readCalls_write {calls : List FilterCall} (printable : ∀ call ∈ calls, call.Printable)
    {rest : List Char} (closed : Closed rest) {steps : Nat} (enough : calls.length ≤ steps) :
    readCalls steps (calls.flatMap FilterCall.write ++ rest) = .ok (calls, rest) := by
  induction calls generalizing steps with
  | nil =>
      cases steps with
      | zero => rfl
      | succ steps => rcases closed with rfl | ⟨more, rfl⟩ <;> rfl
  | cons call more ih =>
      obtain ⟨steps, rfl⟩ := Nat.exists_eq_add_one.2 (Nat.zero_lt_of_lt enough)
      rw [List.forall_mem_cons] at printable
      obtain ⟨ends, unopened⟩ := calls_start closed more
      have first := readCall_write printable.1 ends unopened
      have text : (call :: more).flatMap FilterCall.write ++ rest =
          ' ' :: '|' :: ' ' :: (call.name.toList ++ (FilterCall.writeArguments call.arguments ++
            (more.flatMap FilterCall.write ++ rest))) := by
        simp [FilterCall.write]
      rw [text, readCalls, eat?_space, eat?_cons (by decide), if_pos rfl]
      simp [first, ih printable.2 (Nat.le_of_succ_le_succ enough), bind, Except.bind, pure,
        Except.pure]

/-- The filters behind an operand or a group are all read. -/
theorem readCalls_length {calls : List FilterCall} (printable : ∀ call ∈ calls, call.Printable)
    {rest : List Char} (closed : Closed rest) :
    readCalls (calls.flatMap FilterCall.write ++ rest).length
      (calls.flatMap FilterCall.write ++ rest) = .ok (calls, rest) := by
  refine readCalls_write printable closed ?_
  have all := length_le_flatMap FilterCall.write_ne_nil calls
  rw [List.length_append]
  exact Nat.le_add_right_of_le all

/-! ## Expressions -/

theorem readNegations_of_none {cs : List Char} (none : negation? cs = none) (negated : Bool)
    (steps : Nat) : readNegations negated steps cs = (negated, cs) := by
  cases steps with
  | zero => rfl
  | succ steps => rw [readNegations, none]

theorem readNegations_mark (negated : Bool) {cs : List Char} (none : negation? cs = none) :
    readNegations false (mark negated ++ cs).length (mark negated ++ cs) = (negated, cs) := by
  cases negated with
  | false => exact readNegations_of_none none false cs.length
  | true => exact readNegations_of_none none true cs.length

/-- An expression is read in front of a closing parenthesis or the end of the text. -/
theorem readExpr_write {e : Expr} (printable : e.Printable) {rest : List Char}
    (closed : Closed rest) {steps : Nat} (enough : (e.write ++ rest).length < steps) :
    readExpr steps (e.write ++ rest) = .ok (e, rest) := by
  obtain ⟨steps, rfl⟩ := Nat.exists_eq_add_one.2 (Nat.zero_lt_of_lt enough)
  induction e generalizing rest steps with
  | operand negated base calls =>
      have text : (operand negated base calls).write ++ rest =
          mark negated ++ (base.write ++ (calls.flatMap FilterCall.write ++ rest)) := by
        simp [write]
      obtain ⟨ends, -⟩ := calls_start closed calls
      obtain ⟨affirmed, unopened⟩ :=
        write_start printable.1 (calls.flatMap FilterCall.write ++ rest)
      rw [text, readExpr, readNegations_mark negated affirmed]
      simp only [unopened '(' (.inl rfl), readOperand_write printable.1 ends,
        readCalls_length printable.2 closed, bind, Except.bind, pure, Except.pure]
  | group negated inner calls ih =>
      let behind := calls.flatMap FilterCall.write ++ rest
      have text : (group negated inner calls).write ++ rest =
          mark negated ++ '(' :: (inner.write ++ ')' :: behind) := by
        simp [write, behind]
      rw [text] at enough ⊢
      have shorter : (inner.write ++ ')' :: behind).length < steps := by
        rw [List.length_append, List.length_cons] at enough
        omega
      obtain ⟨steps, rfl⟩ := Nat.exists_eq_add_one.2 (Nat.zero_lt_of_lt shorter)
      have inside := ih printable.1 (.inr ⟨behind, rfl⟩) steps shorter
      rw [readExpr, readNegations_mark negated rfl]
      simp only [eat?_cons (c := '(') (by decide), if_true, inside,
        expect_cons (c := ')') (by decide), behind, readCalls_length printable.2 closed, bind,
        Except.bind, pure, Except.pure]

theorem parse_print {e : Expr} (printable : e.Printable) : parse e.print = .ok e := by
  have read := readExpr_write printable (.inl rfl) (Nat.lt_succ_self (e.write ++ []).length)
  rw [List.append_nil] at read
  rw [parse, parseAll, print, String.toList_ofList, read]
  rfl

end Expr

end Stencil
