/-!
# Blanks

The characters of the `White_Space` property, and texts without the blanks around them.

* `dropBlanks_dropBlanksEnd`: the order in which both sides are trimmed does not matter.
* `trim_eq_self`: a text that neither starts nor ends in a blank is its own trimmed form.
-/

namespace Stencil.Text

/-- A character of the `White_Space` property. -/
def isBlank (c : Char) : Bool :=
  let n := c.toNat
  (0x9 ≤ n && n ≤ 0xD) || n == 0x20 || n == 0x85 || n == 0xA0 || n == 0x1680 ||
    (0x2000 ≤ n && n ≤ 0x200A) || n == 0x2028 || n == 0x2029 || n == 0x202F || n == 0x205F ||
    n == 0x3000

/-- The characters from the first one that is not blank. -/
def dropBlanks (cs : List Char) : List Char := cs.dropWhile isBlank

/-- The characters up to the last one that is not blank. -/
def dropBlanksEnd (cs : List Char) : List Char := (cs.reverse.dropWhile isBlank).reverse

/-- The characters without the blanks on both sides. -/
def trimmed (cs : List Char) : List Char := dropBlanksEnd (dropBlanks cs)

/-- The text without the blanks on both sides. -/
def trim (s : String) : String := String.ofList (trimmed s.toList)

theorem dropBlanks_cons_of_not {c : Char} {cs : List Char} (h : isBlank c = false) :
    dropBlanks (c :: cs) = c :: cs := by
  simp [dropBlanks, h]

theorem dropBlanksEnd_concat_of_not {c : Char} {cs : List Char} (h : isBlank c = false) :
    dropBlanksEnd (cs ++ [c]) = cs ++ [c] := by
  simp [dropBlanksEnd, h]

theorem trim_eq_self {s : String}
    (first : dropBlanks s.toList = s.toList) (last : dropBlanksEnd s.toList = s.toList) :
    trim s = s := by
  simp [trim, trimmed, first, last]

theorem dropBlanksEnd_cons (c : Char) (cs : List Char) :
    dropBlanksEnd (c :: cs) =
      if isBlank c && (dropBlanksEnd cs).isEmpty then [] else c :: dropBlanksEnd cs := by
  simp only [dropBlanksEnd, List.reverse_cons, List.dropWhile_append, List.isEmpty_reverse]
  cases h : (cs.reverse.dropWhile isBlank).isEmpty <;> cases b : isBlank c <;> simp_all

/-- Blanks can be taken away on both sides in either order. -/
theorem dropBlanks_dropBlanksEnd (cs : List Char) :
    dropBlanks (dropBlanksEnd cs) = trimmed cs := by
  rw [trimmed]
  induction cs with
  | nil => rfl
  | cons c cs ih =>
      rw [dropBlanksEnd_cons]
      cases b : isBlank c with
      | false => simp [dropBlanks_cons_of_not b, dropBlanksEnd_cons, b]
      | true =>
          have same : dropBlanks (c :: cs) = dropBlanks cs := by simp [dropBlanks, b]
          rw [same, ← ih]
          cases h : dropBlanksEnd cs with
          | nil => simp
          | cons d rest => simp [dropBlanks, b]

@[simp] theorem dropBlanks_idem (cs : List Char) : dropBlanks (dropBlanks cs) = dropBlanks cs := by
  induction cs with
  | nil => rfl
  | cons c cs ih =>
      cases b : isBlank c with
      | false => simp [dropBlanks_cons_of_not b]
      | true => simpa [dropBlanks, b] using ih

@[simp] theorem dropBlanksEnd_idem (cs : List Char) :
    dropBlanksEnd (dropBlanksEnd cs) = dropBlanksEnd cs := by
  simpa [dropBlanks, dropBlanksEnd] using dropBlanks_idem cs.reverse

theorem trimmed_dropBlanksEnd (cs : List Char) : trimmed (dropBlanksEnd cs) = trimmed cs := by
  rw [trimmed, dropBlanks_dropBlanksEnd, trimmed, dropBlanksEnd_idem]

theorem trimmed_cons_blank {c : Char} (h : isBlank c = true) (cs : List Char) :
    trimmed (c :: cs) = trimmed cs := by
  simp [trimmed, dropBlanks, h]

theorem trimmed_concat_blank {c : Char} (h : isBlank c = true) (cs : List Char) :
    trimmed (cs ++ [c]) = trimmed cs := by
  rw [← dropBlanks_dropBlanksEnd, ← dropBlanks_dropBlanksEnd]
  simp [dropBlanksEnd, h]

/-- A trimmed text has no blanks in front. -/
theorem dropBlanks_of_trimmed {cs : List Char} (h : trimmed cs = cs) : dropBlanks cs = cs := by
  rw [← h, ← dropBlanks_dropBlanksEnd, dropBlanks_idem]

/-- A trimmed text has no blanks behind. -/
theorem dropBlanksEnd_of_trimmed {cs : List Char} (h : trimmed cs = cs) :
    dropBlanksEnd cs = cs := by
  rw [← h, trimmed, dropBlanksEnd_idem]

theorem dropBlanks_append_of_ne_nil {cs : List Char} (some : dropBlanks cs ≠ []) (more : List Char) :
    dropBlanks (cs ++ more) = dropBlanks cs ++ more := by
  rw [dropBlanks] at some
  simp [dropBlanks, List.dropWhile_append, some]

theorem dropBlanksEnd_append_of_ne_nil {cs : List Char} (some : dropBlanksEnd cs ≠ [])
    (before : List Char) : dropBlanksEnd (before ++ cs) = before ++ dropBlanksEnd cs := by
  simp only [dropBlanksEnd, ne_eq, List.reverse_eq_nil_iff] at some
  simp [dropBlanksEnd, List.dropWhile_append, some]

/-- What is not blank keeps the blanks before it. -/
theorem dropBlanksEnd_append {before : List Char} (h : ∀ c ∈ before, isBlank c = false)
    (after : List Char) : dropBlanksEnd (before ++ after) = before ++ dropBlanksEnd after := by
  induction before with
  | nil => rfl
  | cons c before ih =>
      rw [List.forall_mem_cons] at h
      rw [List.cons_append, dropBlanksEnd_cons, ih h.2]
      simp [h.1]

/-- Behind a character that is no blank, only blanks at the end are taken away. -/
theorem trimmed_cons_of_not {c : Char} (h : isBlank c = false) (cs : List Char) :
    trimmed (c :: cs) = c :: dropBlanksEnd cs := by
  simp [trimmed, dropBlanks_cons_of_not h, dropBlanksEnd_cons, h]

theorem isBlank_of_isWhitespace {c : Char} (h : c.isWhitespace = true) : isBlank c = true := by
  simp only [Char.isWhitespace, Bool.or_eq_true, decide_eq_true_eq] at h
  rcases h with ((h | h) | h) | h <;> subst h <;> decide

end Stencil.Text
