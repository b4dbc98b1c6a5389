import Stencil.Proofs.Token.Cutting
import Stencil.Proofs.Token.Segments

/-!
# Sources one behind the other

What stands behind a tag has no effect on the tokens up to that tag, and its own tokens are those of a
source that begins there: only their places are counted on.

1. `Delimiters.cut_append`: what is found stays found when more text follows.
2. `pieces_append`: the pieces of two sources, the first of which ends in a tag.
3. `Delimiters.tokens_append`: their tokens.
-/

namespace Stencil

open Stencil.Text

/-! ## Places counted on -/

/-- A place of a source that begins at another place: the lines are counted on, and on the first line
the columns too. -/
def Position.moved (p base : Position) : Position :=
  ⟨p.line + (base.line - 1), if p.line = 1 then p.column + (base.column - 1) else p.column⟩

/-- A token of a source that begins at a place. -/
def Token.moved (t : Token) (base : Position) : Token := { t with position := t.position.moved base }

namespace Position

theorem step_moved {p : Position} (onLine : 1 ≤ p.line) (base : Position) (c : Char) :
    (p.moved base).step c = (p.step c).moved base := by
  unfold step moved
  split
  · simp only [Position.mk.injEq, Nat.add_eq_right]
    exact ⟨by omega, by rw [if_neg (by omega)]⟩
  · by_cases first : p.line = 1
    · simp [first, Nat.add_right_comm]
    · simp [first]

theorem line_le_after (p : Position) (cs : List Char) : p.line ≤ (p.after cs).line := by
  induction cs generalizing p with
  | nil => exact Nat.le_refl _
  | cons c cs ih =>
      refine Nat.le_trans ?_ (ih (p.step c))
      unfold step
      split
      · exact Nat.le_succ p.line
      · exact Nat.le_refl _

theorem after_moved {p : Position} (onLine : 1 ≤ p.line) (base : Position) (cs : List Char) :
    (p.moved base).after cs = (p.after cs).moved base := by
  induction cs generalizing p with
  | nil => rfl
  | cons c cs ih =>
      have further : 1 ≤ (p.step c).line := Nat.le_trans onLine (line_le_after p [c])
      calc (p.moved base).after (c :: cs)
          = ((p.moved base).step c).after cs := rfl
        _ = ((p.step c).moved base).after cs := by rw [step_moved onLine]
        _ = (p.after (c :: cs)).moved base := ih further

theorem start_moved_behind (before : List Char) : start.moved (behind before) = behind before := by
  simp [moved, start, behind]

end Position

/-! ## Pieces -/

variable {d : Delimiters}

/-- A delimiter that is found in a text is found at the same place when more text follows. -/
theorem Delimiters.cut_append {delimiter cs before after : List Char}
    (h : cut delimiter cs = some (before, after)) (more : List Char) :
    cut delimiter (cs ++ more) = some (before, after ++ more) := by
  obtain ⟨nonempty, first⟩ := cut_eq_some h
  rw [← cut_sound h, List.append_assoc]
  exact bounds_of_first nonempty first (after ++ more)

theorem eq_nil_of_pieces {cs : List Char} (h : pieces d cs = []) : cs = [] := by
  rw [← pieces_source d cs, h]
  rfl

/-- A source that ends in a tag is cut in the same way when more text follows. -/
theorem pieces_append {first : List Char} {content : List Char}
    (last : (pieces d first).getLast? = some (.tag content)) (second : List Char) :
    pieces d (first ++ second) = pieces d first ++ pieces d second := by
  fun_induction pieces d first with
  | case1 cs opened => cases cs <;> cases last
  | case2 cs before inside opened closed => simp at last
  | case3 cs before inside opened inner rest closed ih =>
      rw [pieces_of_cut (Delimiters.cut_append opened second) (Delimiters.cut_append closed second)]
      cases others : pieces d rest with
      | nil =>
          rw [eq_nil_of_pieces others]
          simp
      | cons next more =>
          rw [others] at ih last
          rw [ih (by simpa using last)]
          simp

/-! ## Tokens -/

theorem tiled_append (p : Position) (front back : List Piece) :
    tiled d p (front ++ back) =
      tiled d p front ++ tiled d (p.after (front.flatMap (Piece.source d))) back := by
  induction front generalizing p with
  | nil => rfl
  | cons piece front ih =>
      rw [List.cons_append, tiled, ih, tiled, List.flatMap_cons, Position.after_append]
      rfl

theorem Piece.token_moved (p base : Position) (piece : Piece) :
    piece.token (p.moved base) = (piece.token p).moved base := by
  cases piece <;> rfl

theorem placed_moved {p : Position} (onLine : 1 ≤ p.line) (base : Position) (row : List Piece) :
    placed d (p.moved base) row = (placed d p row).map (·.moved base) := by
  induction row generalizing p with
  | nil => rfl
  | cons piece rest ih =>
      have further := Nat.le_trans onLine (Position.line_le_after p (piece.source d))
      rw [placed, Piece.token_moved, Position.after_moved onLine, ih further]
      rfl

/-- The tokens of a source before the end. -/
theorem Delimiters.dropLast_tokens (source : String) :
    (d.tokens source).dropLast = (tiled d .start (pieces d source.toList)).map Prod.fst := by
  rw [tokens, placed_eq, List.dropLast_concat]

theorem Delimiters.filter_tokens (source : String) :
    (d.tokens source).filter (fun t => t.kind ≠ .ending) = (d.tokens source).dropLast := by
  have noEnd := (pieces_cutUp d source.toList).tiles.noEnd
  rw [dropLast_tokens, tokens, placed_eq, List.filter_append, List.filter_eq_self.2]
  · simp [Token.endingAt]
  · intro t member
    obtain ⟨entry, inRow, rfl⟩ := List.mem_map.1 member
    simpa using noEnd entry inRow

/-- A source whose last token is a tag has a tag as its last piece. -/
theorem Delimiters.tag_of_tokens {source : String} {tag : Token}
    (last : (d.tokens source).dropLast.getLast? = some tag) (isTag : tag.kind ≠ .text) :
    ∃ content, (pieces d source.toList).getLast? = some (.tag content) := by
  rw [dropLast_tokens] at last
  rcases List.eq_nil_or_concat (pieces d source.toList) with none | ⟨front, piece, some⟩
  · rw [none] at last
    cases last
  · rw [some, List.concat_eq_append, tiled_append, List.map_append] at last
    rw [some, List.concat_eq_append]
    cases piece with
    | text cs =>
        obtain rfl : Piece.token _ (.text cs) = tag := by simpa [tiled] using last
        exact absurd rfl isTag
    | tag content => exact ⟨content, by simp⟩

/-- The tokens of two sources, the first of which ends in a tag: those of the first without the end,
then those of the second, with their places counted on from the end of the first. -/
theorem Delimiters.tokens_append (d : Delimiters) {first : String} {tag : Token}
    (last : ((d.tokens first).filter fun t => t.kind ≠ .ending).getLast? = some tag)
    (isTag : tag.kind ≠ .text) (second : String) :
    let ending := Position.behind first.toList
    (d.tokens first).getLast? = some (.endingAt ending) ∧
      d.tokens (first ++ second) =
        (d.tokens first).dropLast ++ (d.tokens second).map (·.moved ending) := by
  intro ending
  rw [filter_tokens] at last
  obtain ⟨content, lastPiece⟩ := tag_of_tokens last isTag
  have places : Position.start.after first.toList = ending := Position.start_after first.toList
  have counted : placed d ending (pieces d second.toList) =
      (d.tokens second).map (·.moved ending) := by
    rw [tokens, ← placed_moved (Nat.le_refl 1), Position.start_moved_behind]
  constructor
  · rw [tokens, placed_eq, pieces_source, places, List.getLast?_concat]
  · rw [dropLast_tokens, ← counted, tokens, String.toList_append, pieces_append lastPiece, placed_eq,
      tiled_append, pieces_source, places, placed_eq, List.flatMap_append, pieces_source,
      Position.after_append, places]
    simp

/-- Delimiters that overlap themselves and hold line breaks, and a second source that begins like the
rest of a closing delimiter. -/
theorem Delimiters.tokens_append_overlapping :
    let d : Delimiters := ⟨"<<", ">\n>"⟩
    ((d.tokens "a\n<<#b>\n>").filter fun t => t.kind ≠ .ending).getLast? =
        some ⟨.comment, "#b", ⟨2, 1⟩⟩ ∧
      d.tokens "\n><<<c>\n>" = [⟨.text, "\n>", ⟨1, 1⟩⟩, ⟨.echo, "<c", ⟨2, 2⟩⟩, .endingAt ⟨3, 2⟩] ∧
      d.tokens ("a\n<<#b>\n>" ++ "\n><<<c>\n>") =
        [⟨.text, "a\n", ⟨1, 1⟩⟩, ⟨.comment, "#b", ⟨2, 1⟩⟩, ⟨.text, "\n>", ⟨3, 2⟩⟩,
          ⟨.echo, "<c", ⟨4, 2⟩⟩, .endingAt ⟨5, 2⟩] := by
  have last : ((Delimiters.tokens ⟨"<<", ">\n>"⟩ "a\n<<#b>\n>").filter
      fun t => t.kind ≠ .ending).getLast? = some ⟨.comment, "#b", ⟨2, 1⟩⟩ := by decide +kernel
  have second : Delimiters.tokens ⟨"<<", ">\n>"⟩ "\n><<<c>\n>" =
      [⟨.text, "\n>", ⟨1, 1⟩⟩, ⟨.echo, "<c", ⟨2, 2⟩⟩, .endingAt ⟨3, 2⟩] := by decide +kernel
  have first : (Delimiters.tokens ⟨"<<", ">\n>"⟩ "a\n<<#b>\n>").dropLast =
      [⟨.text, "a\n", ⟨1, 1⟩⟩, ⟨.comment, "#b", ⟨2, 1⟩⟩] := by decide +kernel
  refine ⟨last, second, ?_⟩
  rw [(tokens_append _ last (by decide) "\n><<<c>\n>").2, first, second]
  rfl

end Stencil
