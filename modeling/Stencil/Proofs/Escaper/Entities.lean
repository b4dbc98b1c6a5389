import Stencil.Proofs.Escaper.Script
import Stencil.Proofs.Rendering.Harmless

/-!
# Texts in markup and in style sheets

What is written for one character is a unit of its own: it is read as one, whatever stands behind it. So a
text is read back also where entities, ampersands or backslashes stand in it already.

1. `Escape.unmarked`: markup read from the left, with the five entities.
2. `Escape.unmarked_markup`, `Escape.entity_of_ampersand`: the text comes back, and every ampersand begins
   an entity.
3. `Escape.StyleUnit.readAll?`: a style sheet read as single characters and backslashes in front of one.
4. `Escape.markup_and_style_come_back`: both together.
-/

namespace Stencil.Escape

open Stencil.Text

/-! ## Markup -/

/-- The entities that stand for the characters of markup. -/
def entities : List (List Char) :=
  ["&amp;".toList, "&lt;".toList, "&gt;".toList, "&quot;".toList, "&#039;".toList]

/-- The text that markup stands for: the five entities are read, from the left, and nothing else is. -/
def unmarked : List Char → List Char
  | '&' :: 'a' :: 'm' :: 'p' :: ';' :: rest => '&' :: unmarked rest
  | '&' :: 'l' :: 't' :: ';' :: rest => '<' :: unmarked rest
  | '&' :: 'g' :: 't' :: ';' :: rest => '>' :: unmarked rest
  | '&' :: 'q' :: 'u' :: 'o' :: 't' :: ';' :: rest => '"' :: unmarked rest
  | '&' :: '#' :: '0' :: '3' :: '9' :: ';' :: rest => '\'' :: unmarked rest
  | c :: rest => c :: unmarked rest
  | [] => []

theorem unmarked_plain {c : Char} (plain : c ≠ '&') (rest : List Char) :
    unmarked (c :: rest) = c :: unmarked rest := by
  rw [unmarked.eq_def]
  split
  case h_6 => next shape => cases shape; rfl
  case h_7 => next shape => cases shape
  all_goals
    next shape =>
      cases shape
      exact absurd rfl plain

/-- An entity or another character than an ampersand. -/
theorem markupChar_cases (c : Char) :
    markupChar c ∈ entities ∨ (markupChar c = [c] ∧ c ≠ '&') := by
  unfold markupChar
  split
  case h_6 amp _ _ _ _ => exact .inr ⟨rfl, amp⟩
  all_goals exact .inl (by decide)

theorem unmarked_markupChar (c : Char) (rest : List Char) :
    unmarked (markupChar c ++ rest) = c :: unmarked rest := by
  unfold markupChar
  split
  case h_6 amp _ _ _ _ => exact unmarked_plain amp rest
  all_goals rfl

theorem unmarked_markup (s : String) : unmarked (markup s).toList = s.toList := by
  rw [markup, String.toList_ofList]
  induction s.toList with
  | nil => rfl
  | cons c more ih => rw [List.flatMap_cons, unmarked_markupChar, ih]

/-- An ampersand stands nowhere but in front of what is written for a character. -/
theorem markupChar_of_ampersand {c : Char} {front back : List Char}
    (h : markupChar c = front ++ '&' :: back) : front = [] ∧ markupChar c ∈ entities := by
  have once : ∀ e ∈ entities, '&' ∉ e.tail := by decide
  rcases markupChar_cases c with entity | ⟨same, other⟩
  · refine ⟨?_, entity⟩
    cases front with
    | nil => rfl
    | cons d more =>
        refine absurd ?_ (once _ entity)
        rw [h]
        exact List.mem_append_right more List.mem_cons_self
  · have mem : '&' ∈ [c] := by
      rw [← same, h]
      exact List.mem_append_right front List.mem_cons_self
    exact absurd (List.mem_singleton.1 mem).symm other

theorem entity_of_ampersand (s : String) (before after : List Char)
    (found : (markup s).toList = before ++ '&' :: after) : ∃ e ∈ entities, e <+: '&' :: after := by
  rw [markup, String.toList_ofList] at found
  generalize s.toList = cs at found
  induction cs generalizing before with
  | nil => cases before <;> cases found
  | cons c more ih =>
      rw [List.flatMap_cons] at found
      rcases List.append_eq_append_iff.1 found with ⟨front, -, later⟩ | ⟨back, here, shape⟩
      · exact ih front later
      · cases back with
        | nil => exact ih [] (by simpa using shape.symm)
        | cons d rest =>
            obtain ⟨same, tail⟩ := List.cons.inj shape
            subst same
            obtain ⟨first, entity⟩ := markupChar_of_ampersand here
            rw [here, first, List.nil_append] at entity
            exact ⟨_, entity, more.flatMap markupChar, congrArg _ tail.symm⟩

/-! ## Style sheets -/

/-- A letter, a digit, a hyphen or an underscore. -/
def isNameChar (c : Char) : Bool := isAsciiLetter c || isDigit c || c == '-' || c == '_'

/-- What a style sheet reads at once. -/
inductive StyleUnit
  | plain (c : Char)
  | escaped (c : Char)

namespace StyleUnit

/-- The character without its backslash. -/
def char : StyleUnit → Char
  | plain c => c
  | escaped c => c

/-- Reads a text from the left, to its end. -/
def readAll? : List Char → Option (List StyleUnit)
  | '\\' :: c :: rest => (readAll? rest).map (escaped c :: ·)
  | c :: rest => if isNameChar c then (readAll? rest).map (plain c :: ·) else none
  | [] => some []

/-- The unit of a character. -/
def ofChar (c : Char) : StyleUnit := if isNameChar c then plain c else escaped c

theorem char_ofChar (c : Char) : (ofChar c).char = c := by
  unfold ofChar
  split <;> rfl

theorem outside_of_ofChar {c d : Char} (h : ofChar d = escaped c) : isNameChar c = false := by
  unfold ofChar at h
  split at h
  · cases h
  · next outside =>
    cases h
    exact eq_false_of_ne_true outside

theorem readAll?_plain {c : Char} (isName : isNameChar c = true) (rest : List Char) :
    readAll? (c :: rest) = (readAll? rest).map (plain c :: ·) := by
  rw [readAll?.eq_def]
  split
  · next shape =>
    cases shape
    cases isName
  · next shape =>
    cases shape
    exact if_pos isName
  · next shape => cases shape

theorem readAll?_styleChar (c : Char) (rest : List Char) :
    readAll? (styleChar c ++ rest) = (readAll? rest).map (ofChar c :: ·) := by
  have choice : styleChar c = if isNameChar c then [c] else ['\\', c] := rfl
  rw [choice, ofChar]
  split
  · next isName => exact readAll?_plain isName rest
  · rfl

theorem readAll?_style (s : String) : readAll? (style s).toList = some (s.toList.map ofChar) := by
  rw [style, String.toList_ofList]
  induction s.toList with
  | nil => rfl
  | cons c more ih => rw [List.flatMap_cons, readAll?_styleChar, ih, List.map_cons]; rfl

end StyleUnit

theorem isNameChar_of_hexValue? {c : Char} {n : Nat} (h : Json.hexValue? c = some n) :
    isNameChar c = true := by
  simp only [isNameChar, isAsciiLetter, isDigit, Bool.or_eq_true, Bool.and_eq_true, decide_eq_true_eq]
  rcases bounds_of_hexValue? h with ⟨low, high⟩ | ⟨low, high⟩ | ⟨low, high⟩
  · exact .inl (.inl (.inr ⟨low, high⟩))
  · exact .inl (.inl (.inl (.inl ⟨low, Nat.le_trans high (by decide)⟩)))
  · exact .inl (.inl (.inl (.inr ⟨low, Nat.le_trans high (by decide)⟩)))

/-! ## Both -/

/-- Markup of a text holds no angle brackets and quotes, every ampersand in it begins an entity, and it is
read as the text. A style sheet of a text is read to its end, no letter or digit stands behind a backslash
in it, and without the backslashes it is the text. -/
theorem markup_and_style_come_back (s : String) :
    (Harmless (markup s) ∧
      (∀ before after, (markup s).toList = before ++ '&' :: after →
        ∃ e ∈ entities, e <+: '&' :: after) ∧
      unmarked (markup s).toList = s.toList) ∧
    ∃ units, StyleUnit.readAll? (style s).toList = some units ∧
      (∀ c, .escaped c ∈ units → isNameChar c = false ∧ Json.hexValue? c = none) ∧
      units.map StyleUnit.char = s.toList := by
  refine ⟨⟨markup_harmless s, entity_of_ampersand s, unmarked_markup s⟩, _,
    StyleUnit.readAll?_style s, fun c mem => ?_, ?_⟩
  · obtain ⟨d, -, unit⟩ := List.mem_map.1 mem
    have outside := StyleUnit.outside_of_ofChar unit
    refine ⟨outside, Option.eq_none_iff_forall_ne_some.2 fun n digit => ?_⟩
    rw [isNameChar_of_hexValue? digit] at outside
    cases outside
  · rw [List.map_map]
    exact (List.map_congr_left fun c _ => StyleUnit.char_ofChar c).trans (List.map_id _)

end Stencil.Escape
