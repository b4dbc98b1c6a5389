import Mathlib.Data.List.Chain
import Mathlib.Data.List.Infix
import Stencil.Filter.Text

/-!
# Texts without their tags

A tag begins with a `<` in front of a character that is no blank, and ends with the first `>` that does not
stand in quotes. Comments are tags like others. A `>` inside of one ends it, and a quote takes up what
follows; so a comment may leave a part of itself behind, or take a part of the text with it.

1. `Filter.stripTags_tagless`: no tag is left, and a text without tags stays as it is.
2. `Filter.vanishes_iff`: what leaves nothing behind, whatever follows, is a row of tags.
3. `Filter.drops_comment_iff`: which comments are dropped.
-/

namespace Stencil.Filter

open Stencil.Text

/-! ## One character -/

/-- In front of these characters a tag begins with this one. -/
def Begins (c : Char) (rest : List Char) : Prop := c = '<' ∧ ∃ next ∈ rest.head?, isBlank next = false

theorem outsideTags_text (c : Char) (rest : List Char) :
    (Begins c rest → outsideTags .text (c :: rest) = outsideTags .tag rest) ∧
      (¬Begins c rest → outsideTags .text (c :: rest) = c :: outsideTags .text rest) := by
  have opens : (c = '<' && rest.head?.any fun next => !isBlank next) = true ↔ Begins c rest := by
    simp [Begins, Option.any_eq_true]
  constructor
  · exact fun begins => if_pos (opens.2 begins)
  · exact fun kept => if_neg (mt opens.1 kept)

theorem outsideTags_begins {c : Char} {rest : List Char} (h : Begins c rest) :
    outsideTags .text (c :: rest) = outsideTags .tag rest := (outsideTags_text c rest).1 h

theorem outsideTags_kept {c : Char} {rest : List Char} (h : ¬Begins c rest) :
    outsideTags .text (c :: rest) = c :: outsideTags .text rest := (outsideTags_text c rest).2 h

theorem outsideTags_tag (c : Char) (rest : List Char) :
    outsideTags .tag (c :: rest) = outsideTags (Region.step c .tag) rest := rfl

theorem outsideTags_mark (mark : Char) (rest : List Char) :
    outsideTags (.quotation mark) (mark :: rest) = outsideTags .tag rest := by
  show outsideTags (Region.step mark (.quotation mark)) rest = _
  rw [Region.step, if_pos rfl]

theorem outsideTags_quoted {c mark : Char} (other : c ≠ mark) (rest : List Char) :
    outsideTags (.quotation mark) (c :: rest) = outsideTags (.quotation mark) rest := by
  show outsideTags (Region.step c (.quotation mark)) rest = _
  rw [Region.step, if_neg other]

/-! ## What is left -/

/-- No tag begins in the text: every `<` is its last character or stands in front of a blank. -/
def Tagless (cs : List Char) : Prop := cs.IsChain fun c next => c = '<' → isBlank next = true

theorem tagless_cons {c : Char} {rest : List Char} :
    Tagless (c :: rest) ↔ ¬Begins c rest ∧ Tagless rest := by
  rw [Tagless, List.isChain_cons]
  refine and_congr_left fun _ => ?_
  simp only [Begins, not_and, not_exists, Bool.not_eq_false]
  exact ⟨fun h isOpen next here => h next here isOpen, fun h next here isOpen => h isOpen next here⟩

theorem outsideTags_sublist (region : Region) (cs : List Char) :
    (outsideTags region cs).Sublist cs := by
  induction cs generalizing region with
  | nil => cases region <;> exact .slnil
  | cons c rest ih =>
      cases region with
      | text =>
          by_cases begins : Begins c rest
          · rw [outsideTags_begins begins]
            exact (ih .tag).cons c
          · rw [outsideTags_kept begins]
            exact (ih .text).cons_cons c
      | tag => exact (ih _).cons c
      | quotation mark => exact (ih _).cons c

/-- What begins no tag in a text does not begin one in what is left of the text: a blank stays. -/
theorem not_begins_outsideTags {c : Char} {rest : List Char} (h : ¬Begins c rest) :
    ¬Begins c (outsideTags .text rest) := by
  rintro ⟨rfl, next, left, solid⟩
  cases rest with
  | nil => cases left
  | cons b more =>
      have blank : isBlank b = true := by
        by_contra notBlank
        exact h ⟨rfl, b, rfl, Bool.eq_false_iff.2 notBlank⟩
      have kept : ¬Begins b more := by
        rintro ⟨rfl, -⟩
        exact absurd blank (by decide)
      rw [outsideTags_kept kept] at left
      cases left
      rw [blank] at solid
      cases solid

theorem tagless_outsideTags (region : Region) (cs : List Char) : Tagless (outsideTags region cs) := by
  induction cs generalizing region with
  | nil => cases region <;> exact .nil
  | cons c rest ih =>
      cases region with
      | text =>
          by_cases begins : Begins c rest
          · rw [outsideTags_begins begins]
            exact ih .tag
          · rw [outsideTags_kept begins]
            exact tagless_cons.2 ⟨not_begins_outsideTags begins, ih .text⟩
      | tag => exact ih _
      | quotation mark => exact ih _

theorem outsideTags_of_tagless {cs : List Char} (h : Tagless cs) : outsideTags .text cs = cs := by
  induction cs with
  | nil => rfl
  | cons c rest ih =>
      obtain ⟨kept, further⟩ := tagless_cons.1 h
      rw [outsideTags_kept kept, ih further]

theorem toList_stripTags (s : String) : (stripTags s).toList = outsideTags .text s.toList :=
  String.toList_ofList

/-- What is left of a text is some of its characters in their order, and holds no tag. Just the texts
without tags are left as they are; so to do it again changes nothing. -/
theorem stripTags_tagless (s : String) :
    Tagless (stripTags s).toList ∧ stripTags (stripTags s) = stripTags s ∧
      (stripTags s).toList.Sublist s.toList ∧ (stripTags s = s ↔ Tagless s.toList) := by
  have left (t : String) : Tagless (stripTags t).toList := by
    rw [toList_stripTags]
    exact tagless_outsideTags .text t.toList
  have same {t : String} (h : Tagless t.toList) : stripTags t = t := by
    rw [stripTags, outsideTags_of_tagless h, String.ofList_toList]
  refine ⟨left s, same (left s), ?_, fun unchanged => unchanged ▸ left s, same⟩
  rw [toList_stripTags]
  exact outsideTags_sublist .text s.toList

/-! ## Rows of tags -/

/-- What may stand between the beginning of a tag and the `>` that ends it: quoted texts, and characters
other than quotes and `>`. -/
inductive Inside : List Char → Prop
  | nil : Inside []
  | plain {c : Char} {rest : List Char} (noMark : c ∉ ['"', '\'']) (noEnd : c ≠ '>')
      (further : Inside rest) : Inside (c :: rest)
  | quoted {mark : Char} {quotation rest : List Char} (isMark : mark ∈ ['"', '\''])
      (closed : mark ∉ quotation) (further : Inside rest) :
      Inside (mark :: (quotation ++ mark :: rest))

/-- A whole tag. -/
inductive IsTag : List Char → Prop
  | intro {inner : List Char} (inside : Inside inner) (solid : ∀ c ∈ inner.head?, isBlank c = false) :
      IsTag ('<' :: (inner ++ ['>']))

/-- The text consists of whole tags. -/
def TagRow (t : List Char) : Prop := ∃ tags : List (List Char), tags.flatten = t ∧ ∀ tag ∈ tags, IsTag tag

theorem step_mark {c : Char} (h : c ∈ ['"', '\'']) : Region.step c .tag = .quotation c :=
  if_pos (by simpa using h)

theorem step_plain {c : Char} (noMark : c ∉ ['"', '\'']) (noEnd : c ≠ '>') :
    Region.step c .tag = .tag := by
  rw [Region.step, if_neg (by simpa using noMark), if_neg noEnd]

theorem outsideTags_quotation {mark : Char} {quotation : List Char} (closed : mark ∉ quotation)
    (rest : List Char) :
    outsideTags (.quotation mark) (quotation ++ mark :: rest) = outsideTags .tag rest := by
  induction quotation with
  | nil => exact outsideTags_mark mark rest
  | cons c more ih =>
      rw [List.mem_cons, not_or] at closed
      rw [List.cons_append, outsideTags_quoted (Ne.symm closed.1), ih closed.2]

theorem outsideTags_unclosed {mark : Char} {cs : List Char} (h : mark ∉ cs) :
    outsideTags (.quotation mark) cs = [] := by
  induction cs with
  | nil => rfl
  | cons c rest ih =>
      rw [List.mem_cons, not_or] at h
      rw [outsideTags_quoted (Ne.symm h.1), ih h.2]

theorem outsideTags_inside {inner : List Char} (h : Inside inner) (rest : List Char) :
    outsideTags .tag (inner ++ '>' :: rest) = outsideTags .text rest := by
  induction h with
  | nil => rfl
  | plain noMark noEnd _ ih => rw [List.cons_append, outsideTags_tag, step_plain noMark noEnd, ih]
  | quoted isMark closed _ ih =>
      rw [List.cons_append, outsideTags_tag, step_mark isMark, List.append_assoc, List.cons_append,
        outsideTags_quotation closed, ih]

theorem begins_tag {inner : List Char} (solid : ∀ c ∈ inner.head?, isBlank c = false)
    (rest : List Char) : Begins '<' (inner ++ '>' :: rest) := by
  cases inner with
  | nil => exact ⟨rfl, '>', rfl, by decide⟩
  | cons c more => exact ⟨rfl, c, rfl, solid c rfl⟩

/-- The text leaves nothing behind, whatever follows on it. -/
def Vanishes (t : List Char) : Prop := ∀ rest, outsideTags .text (t ++ rest) = outsideTags .text rest

theorem vanishes_tagRow {t : List Char} (h : TagRow t) : Vanishes t := by
  obtain ⟨tags, rfl, whole⟩ := h
  intro rest
  induction tags with
  | nil => rfl
  | cons tag more ih =>
      obtain ⟨first, later⟩ := List.forall_mem_cons.1 whole
      obtain ⟨inside, solid⟩ := first
      rw [List.flatten_cons, List.append_assoc, List.cons_append, List.append_assoc,
        List.singleton_append, outsideTags_begins (begins_tag solid _), outsideTags_inside inside,
        ih later]

/-- The text ends the tag that it is in, and leaves nothing behind, whatever follows on it. -/
def EndsTag (t : List Char) : Prop := ∀ rest, outsideTags .tag (t ++ rest) = outsideTags .text rest

theorem EndsTag.of_plain {c : Char} {t : List Char} (h : EndsTag (c :: t)) (noMark : c ∉ ['"', '\''])
    (noEnd : c ≠ '>') : EndsTag t := by
  intro rest
  rw [← h rest, List.cons_append, outsideTags_tag, step_plain noMark noEnd]

-- An open quotation would take up the next character, too, whatever that is.
theorem EndsTag.of_mark {mark : Char} {t : List Char} (h : EndsTag (mark :: t))
    (isMark : mark ∈ ['"', '\'']) :
    ∃ quotation u, t = quotation ++ mark :: u ∧ mark ∉ quotation ∧ EndsTag u := by
  have behind (rest : List Char) :
      outsideTags (.quotation mark) (t ++ rest) = outsideTags .text rest := by
    rw [← h rest, List.cons_append, outsideTags_tag, step_mark isMark]
  by_cases closed : mark ∈ t
  · obtain ⟨quotation, u, rfl, first⟩ := List.eq_append_cons_of_mem closed
    refine ⟨quotation, u, rfl, first, fun rest => ?_⟩
    rw [← behind rest, List.append_assoc, List.cons_append, outsideTags_quotation first]
  · have noMark : mark ∉ t ++ ['x'] := by
      rw [List.mem_append, List.mem_singleton, not_or]
      refine ⟨closed, ?_⟩
      rintro rfl
      exact absurd isMark (by decide)
    have lost := behind ['x']
    rw [outsideTags_unclosed noMark] at lost
    cases lost

theorem EndsTag.exists_inside {t : List Char} (h : EndsTag t) :
    ∃ inner more, t = inner ++ '>' :: more ∧ Inside inner ∧ Vanishes more := by
  induction length : t.length using Nat.strong_induction_on generalizing t with
  | _ n ih =>
      subst length
      cases t with
      | nil => cases h ['x']
      | cons c u =>
          by_cases isMark : c ∈ ['"', '\'']
          · obtain ⟨quotation, v, rfl, closed, ends⟩ := h.of_mark isMark
            have shorter : v.length < (c :: (quotation ++ c :: v)).length := by
              rw [List.length_cons, List.length_append, List.length_cons]
              omega
            obtain ⟨inner, more, rfl, inside, vanishes⟩ := ih _ shorter ends rfl
            refine ⟨c :: (quotation ++ c :: inner), more, ?_, .quoted isMark closed inside, vanishes⟩
            simp
          · by_cases isEnd : c = '>'
            · subst isEnd
              exact ⟨[], u, rfl, .nil, h⟩
            · obtain ⟨inner, more, rfl, inside, vanishes⟩ :=
                ih _ (Nat.lt_succ_self _) (h.of_plain isMark isEnd) rfl
              exact ⟨c :: inner, more, rfl, .plain isMark isEnd inside, vanishes⟩

theorem Vanishes.begins {c : Char} {t : List Char} (h : Vanishes (c :: t)) : Begins c t := by
  by_contra kept
  have left := h []
  rw [List.append_nil, outsideTags_kept kept] at left
  cases left

/-- What leaves nothing behind in front of any text consists of whole tags. -/
theorem vanishes_iff {t : List Char} : Vanishes t ↔ TagRow t := by
  refine ⟨fun vanishes => ?_, vanishes_tagRow⟩
  induction length : t.length using Nat.strong_induction_on generalizing t with
  | _ n ih =>
      subst length
      cases t with
      | nil => exact ⟨[], rfl, List.forall_mem_nil _⟩
      | cons c u =>
          obtain ⟨rfl, next, first, solid⟩ := vanishes.begins
          have ends : EndsTag u := by
            intro rest
            have begins : Begins '<' (u ++ rest) :=
              ⟨rfl, next, List.mem_head?_append_of_mem_head? first, solid⟩
            rw [← vanishes rest, List.cons_append, outsideTags_begins begins]
          obtain ⟨inner, more, rfl, inside, later⟩ := ends.exists_inside
          have shorter : more.length < ('<' :: (inner ++ '>' :: more)).length := by
            rw [List.length_cons, List.length_append, List.length_cons]
            omega
          obtain ⟨tags, rfl, whole⟩ := ih _ shorter later rfl
          have tag : IsTag ('<' :: (inner ++ ['>'])) := by
            refine .intro inside fun d here => ?_
            rwa [Option.mem_unique (List.mem_head?_append_of_mem_head? here) first]
          refine ⟨('<' :: (inner ++ ['>'])) :: tags, ?_, List.forall_mem_cons.2 ⟨tag, whole⟩⟩
          simp

/-! ## Comments -/

def comment (body : String) : String := "<!--" ++ body ++ "-->"

theorem outsideTags_plain {a : List Char} (plain : '<' ∉ a) (rest : List Char) :
    outsideTags .text (a ++ rest) = a ++ outsideTags .text rest := by
  induction a with
  | nil => rfl
  | cons c more ih =>
      rw [List.mem_cons, not_or] at plain
      have kept : ¬Begins c (more ++ rest) := fun begins => plain.1 begins.1.symm
      rw [List.cons_append, outsideTags_kept kept, ih plain.2, List.cons_append]

theorem inside_of_plain {cs : List Char} (h : ∀ c ∈ cs, c ∉ ['"', '\''] ∧ c ≠ '>') : Inside cs := by
  induction cs with
  | nil => exact .nil
  | cons c rest ih =>
      obtain ⟨plain, further⟩ := List.forall_mem_cons.1 h
      exact .plain plain.1 plain.2 (ih further)

theorem Inside.append {xs ys : List Char} (first : Inside xs) (second : Inside ys) :
    Inside (xs ++ ys) := by
  induction first with
  | nil => exact second
  | plain noMark noEnd _ ih => exact .plain noMark noEnd ih
  | quoted isMark closed _ ih =>
      rw [List.cons_append, List.append_assoc, List.cons_append]
      exact .quoted isMark closed ih

/-- A comment without `>` outside of quotes, and without open quotes, is one tag. -/
theorem tagRow_comment {body : String} (h : Inside body.toList) : TagRow (comment body).toList := by
  have front : Inside ['!', '-', '-'] := inside_of_plain (by simp)
  have back : Inside ['-', '-'] := inside_of_plain (by simp)
  refine ⟨[(comment body).toList], List.flatten_singleton, List.forall_mem_singleton.2 ?_⟩
  have shape : (comment body).toList =
      '<' :: ((['!', '-', '-'] ++ body.toList ++ ['-', '-']) ++ ['>']) := by
    simp [comment]
  have solid : isBlank '!' = false := by decide
  rw [shape]
  refine .intro ((front.append h).append back) fun c here => ?_
  cases here
  exact solid

/-- A comment is dropped, and nothing else, just if it reads as a row of tags. So it does if all quotes in
it are closed and no `>` stands outside of them. -/
theorem drops_comment_iff {a : String} (plain : '<' ∉ a.toList) (body : String) :
    ((∀ b, stripTags (a ++ comment body ++ b) = a ++ stripTags b) ↔ TagRow (comment body).toList) ∧
      (Inside body.toList → TagRow (comment body).toList) := by
  refine ⟨?_, tagRow_comment⟩
  have left (b : String) : stripTags (a ++ comment body ++ b) =
      a ++ String.ofList (outsideTags .text ((comment body).toList ++ b.toList)) := by
    rw [stripTags, String.toList_append, String.toList_append, List.append_assoc,
      outsideTags_plain plain, String.ofList_append, String.ofList_toList]
  rw [← vanishes_iff]
  constructor
  · intro drops rest
    have same := drops (String.ofList rest)
    rw [left, stripTags, String.append_right_inj, String.ofList_inj, String.toList_ofList] at same
    exact same
  · intro vanishes b
    rw [left, vanishes, stripTags]

/-- A `>` in closed quotes does not end a comment, and neither does a `>` in front of it. -/
theorem drops_comment_iff_quoted :
    '<' ∉ "1 > 0".toList ∧ Inside " title='a > b' ".toList ∧
      ∀ b, stripTags ("1 > 0" ++ comment " title='a > b' " ++ b) = "1 > 0" ++ stripTags b := by
  have plain : '<' ∉ "1 > 0".toList := by decide
  have front : Inside " title=".toList := inside_of_plain (by simp)
  have blank : Inside [' '] := inside_of_plain (by simp)
  have quoted : Inside ('\'' :: (['a', ' ', '>', ' ', 'b'] ++ '\'' :: [' '])) :=
    .quoted (by decide) (by decide) blank
  have inside : Inside " title='a > b' ".toList := front.append quoted
  obtain ⟨drops, row⟩ := drops_comment_iff plain " title='a > b' "
  exact ⟨plain, inside, drops.2 (row inside)⟩

/-- A `>` ends the comment that it stands in, and the rest of the comment is left in the text. -/
theorem not_drops_comment :
    ¬∀ a body b : String, '<' ∉ a.toList → ¬['-', '-', '>'] <:+: body.toList →
      stripTags (a ++ comment body ++ b) = a ++ stripTags b := by
  intro drops
  have dropped := drops "x" " 1 > 0 " "y" (by decide) (by decide)
  have left : stripTags ("x" ++ comment " 1 > 0 " ++ "y") = "x 0 -->y" := by decide +kernel
  have alone : "x" ++ stripTags "y" = "xy" := by decide +kernel
  rw [left, alone] at dropped
  exact absurd dropped (by decide)

/-- An open quote takes up the end of the comment and what follows. -/
example : stripTags ("x" ++ comment " it's " ++ "y") = "x" := by decide +kernel

end Stencil.Filter
