import Stencil.Token.Scan

/-!
# Sources that are cut where they were put together

Pieces that are written one after the other are found again, if every tag ends at the first closing
delimiter in it, every text before a tag ends before the first opening one, no text is empty, and no
text follows on another.

* `Delimiters.Bounds`: a delimiter is found where a text ends.
* `Separable.pieces_eq`: the pieces of a source that was put together.
-/

namespace Stencil

open Stencil.Text

variable {d : Delimiters}

/-- The delimiter is found where the text ends, whatever follows. -/
def Delimiters.Bounds (delimiter before : List Char) : Prop :=
  ∀ rest, cut delimiter (before ++ delimiter ++ rest) = some (before, rest)

/-- Pieces that are found again in the source that they make. -/
inductive Separable (d : Delimiters) : List Piece → Prop
  | nil : Separable d []
  | last {cs : List Char} : cs ≠ [] → ¬d.opening.toList <:+: cs → Separable d [.text cs]
  | tag {content : List Char} {rest : List Piece} :
      Delimiters.Bounds d.closing.toList content → Separable d rest →
        Separable d (.tag content :: rest)
  | text {cs content : List Char} {rest : List Piece} :
      cs ≠ [] → Delimiters.Bounds d.opening.toList cs → Separable d (.tag content :: rest) →
        Separable d (.text cs :: .tag content :: rest)

namespace Delimiters

theorem cut_of_nonempty {delimiter : List Char} (nonempty : delimiter ≠ []) (cs : List Char) :
    cut delimiter cs = cutAt delimiter cs := by
  rw [cut, if_neg (by simpa using nonempty)]

/-- A delimiter bounds a text if it stands behind it for the first time. -/
theorem bounds_of_first {delimiter before : List Char} (nonempty : delimiter ≠ [])
    (first : FirstBehind delimiter before) : Bounds delimiter before := by
  intro rest
  rw [cut_of_nonempty nonempty, cutAt_append first]

/-- A delimiter bounds a text that ends in another character and does not hold it before. -/
theorem bounds_concat {delimiter before : List Char} {c : Char} (nonempty : delimiter ≠ [])
    (without : ¬delimiter <:+: before) (stops : c ∉ delimiter) :
    Bounds delimiter (before ++ [c]) := by
  intro rest
  rw [cut_of_nonempty nonempty, List.append_assoc, List.append_assoc, List.singleton_append,
    cutAt_append_cons nonempty without stops, cutAt_self]
  rfl

theorem bounds_nil {delimiter : List Char} (nonempty : delimiter ≠ []) : Bounds delimiter [] := by
  intro rest
  rw [cut_of_nonempty nonempty, List.nil_append, cutAt_self]

theorem cut_eq_none {delimiter cs : List Char} (without : ¬delimiter <:+: cs) :
    cut delimiter cs = none := by
  unfold cut
  split
  · rfl
  · next nonempty => exact (cutAt_eq_none_iff (by simpa using nonempty)).2 without

end Delimiters

theorem pieces_of_cut {cs before inside content rest : List Char}
    (opens : Delimiters.cut d.opening.toList cs = some (before, inside))
    (closes : Delimiters.cut d.closing.toList inside = some (content, rest)) :
    pieces d cs = Piece.ofText before ++ .tag content :: pieces d rest := by
  rw [pieces]
  split
  · next none => simp [opens] at none
  · next found =>
    obtain ⟨rfl, rfl⟩ : _ ∧ _ := by simpa [opens] using found
    split
    · next none => simp [closes] at none
    · next found =>
      obtain ⟨rfl, rfl⟩ : _ ∧ _ := by simpa [closes] using found
      rfl

theorem pieces_of_cut_none {cs : List Char} (none : Delimiters.cut d.opening.toList cs = none) :
    pieces d cs = Piece.ofText cs := by
  rw [pieces]
  split
  · rfl
  · next found => simp [none] at found

/-- A tag behind a text, or at the front. -/
theorem pieces_tag {before content : List Char} (opens : Delimiters.Bounds d.opening.toList before)
    (closes : Delimiters.Bounds d.closing.toList content) (rest : List Char) :
    pieces d (before ++ ((Piece.tag content).source d ++ rest)) =
      Piece.ofText before ++ .tag content :: pieces d rest := by
  refine pieces_of_cut ?_ (closes rest)
  rw [← opens]
  simp [Piece.source]

/-- The pieces of a source that was put together from separable pieces. -/
theorem Separable.pieces_eq (opening : d.opening.toList ≠ []) {row : List Piece}
    (h : Separable d row) : pieces d (row.flatMap (Piece.source d)) = row := by
  induction h with
  | nil => exact pieces_of_cut_none (Delimiters.cut_eq_none (by simpa using opening))
  | @last cs nonempty without =>
      have noTag := pieces_of_cut_none (Delimiters.cut_eq_none without)
      simpa [Piece.source, Piece.ofText, nonempty] using noTag
  | @tag content rest closes _ ih =>
      have found := pieces_tag (Delimiters.bounds_nil opening) closes
        (rest.flatMap (Piece.source d))
      rw [List.nil_append] at found
      rw [List.flatMap_cons, found, ih]
      rfl
  | @text cs content rest nonempty opens tagged ih =>
      -- The tag after the text is found from the front of the source and again behind the text.
      cases tagged with
      | tag closes _ =>
          have alone := pieces_tag (Delimiters.bounds_nil opening) closes
            (rest.flatMap (Piece.source d))
          have found := pieces_tag opens closes (rest.flatMap (Piece.source d))
          rw [List.nil_append] at alone
          rw [List.flatMap_cons, alone] at ih
          have others : pieces d (rest.flatMap (Piece.source d)) = rest := by
            simpa [Piece.ofText] using ih
          rw [List.flatMap_cons, List.flatMap_cons]
          simpa [Piece.ofText, nonempty, others, Piece.source] using found

end Stencil
