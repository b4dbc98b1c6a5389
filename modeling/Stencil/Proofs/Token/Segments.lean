import Mathlib.Data.List.Induction
import Stencil.Token.Scan

/-!
# The tokens of a source

The source is cut without a gap into segments, one for each token before the end. A segment says what
its token is, and the segments before it say where the token stands.

1. `Position.start_after`: a place from the text before it.
2. `Delimiters.pieces_cutUp`: what the pieces of a source are like, one next to the other.
3. `Delimiters.tokens_tile`: the tokens and their segments.
-/

namespace Stencil

open Stencil.Text

/-! ## Places -/

namespace Position

/-- The place behind a text from the start of a source: the line breaks in it, and the characters
behind the last of them. -/
def behind (before : List Char) : Position :=
  ⟨1 + before.count '\n', 1 + (before.reverse.takeWhile (· ≠ '\n')).length⟩

theorem behind_concat (before : List Char) (c : Char) :
    behind (before ++ [c]) = (behind before).step c := by
  by_cases h : c = '\n'
  · simp [behind, step, h, Nat.add_assoc]
  · simp [behind, step, h, Nat.add_assoc]

theorem start_after (before : List Char) : start.after before = behind before := by
  induction before using List.reverseRecOn with
  | nil => rfl
  | append_singleton before c ih =>
      rw [after_append, ih, behind_concat]
      rfl

end Position

/-! ## Kinds -/

namespace TokenKind

/-- The mark in front of the content of a tag. The tag of an echo has none. -/
def mark? : TokenKind → Option (List Char)
  | comment => some ['#']
  | directive => some ['@']
  | blockStart => some ['\x7b', '%']
  | blockEnd => some ['%', '\x7d']
  | rawEcho => some ['!']
  | text | echo | ending => none

/-- Whether the tag of a content is of the kind: it has the mark of the kind, or it has no mark and is
an echo. -/
def Marks (kind : TokenKind) (content : List Char) : Prop :=
  (∃ mark, kind.mark? = some mark ∧ mark <+: content) ∨
    (kind = echo ∧ ∀ (other : TokenKind) mark, other.mark? = some mark → ¬mark <+: content)

theorem marks_ofContent (content : List Char) : (ofContent content).Marks content := by
  unfold ofContent
  split
  case h_6 comment directive start stop raw =>
    refine .inr ⟨rfl, ?_⟩
    rintro other mark isMark ⟨rest, rfl⟩
    cases other <;> cases isMark
    · exact start rest rfl
    · exact stop rest rfl
    · exact comment rest rfl
    · exact raw rest rfl
    · exact directive rest rfl
  all_goals exact .inl ⟨_, rfl, _, rfl⟩

theorem Marks.isTag {kind : TokenKind} {content : List Char} (h : kind.Marks content) :
    kind ≠ .text ∧ kind ≠ .ending := by
  rcases h with ⟨mark, isMark, -⟩ | ⟨rfl, -⟩
  · constructor <;>
    · rintro rfl
      cases isMark
  · exact ⟨nofun, nofun⟩

end TokenKind

/-! ## Pieces -/

variable {d : Delimiters}

theorem Delimiters.cut_eq_some {delimiter cs before after : List Char}
    (h : cut delimiter cs = some (before, after)) :
    delimiter ≠ [] ∧ FirstBehind delimiter before := by
  unfold cut at h
  split at h
  · cases h
  · next nonempty => exact ⟨by simpa using nonempty, firstBehind_of_cutAt h⟩

/-- No delimiter stands in the text, or there is none. -/
def Delimiters.Without (delimiter cs : List Char) : Prop := delimiter = [] ∨ ¬delimiter <:+: cs

theorem Delimiters.without_of_cut {delimiter cs : List Char} (h : cut delimiter cs = none) :
    Without delimiter cs := by
  unfold cut at h
  split at h
  · next empty => exact .inl (by simpa using empty)
  · next nonempty => exact .inr ((cutAt_eq_none_iff (by simpa using nonempty)).1 h)

/-- Pieces as they come out of a source: a text in front of another piece ends before the first
opening delimiter, a tag ends at the first closing one, and what is last may be a text without an
opening delimiter, or one that begins with it and goes on without a closing one. -/
inductive CutUp (d : Delimiters) : List Piece → Prop
  | nil : CutUp d []
  | rest {cs : List Char} : cs ≠ [] → Delimiters.Without d.opening.toList cs → CutUp d [.text cs]
  | unclosed {inside : List Char} : d.opening.toList ≠ [] →
      Delimiters.Without d.closing.toList inside → CutUp d [.text (d.opening.toList ++ inside)]
  | text {cs : List Char} {next : Piece} {rest : List Piece} : cs ≠ [] → d.opening.toList ≠ [] →
      FirstBehind d.opening.toList cs → CutUp d (next :: rest) → CutUp d (.text cs :: next :: rest)
  | tag {content : List Char} {rest : List Piece} : FirstBehind d.closing.toList content →
      CutUp d rest → CutUp d (.tag content :: rest)

theorem CutUp.ofText {cs : List Char} {next : Piece} {rest : List Piece}
    (opening : d.opening.toList ≠ []) (first : FirstBehind d.opening.toList cs)
    (h : CutUp d (next :: rest)) : CutUp d (Piece.ofText cs ++ next :: rest) := by
  cases cs with
  | nil => exact h
  | cons c cs => exact .text nofun opening first h

theorem pieces_cutUp (d : Delimiters) (cs : List Char) : CutUp d (pieces d cs) := by
  fun_induction pieces d cs with
  | case1 cs opened =>
      cases cs with
      | nil => exact .nil
      | cons c cs => exact .rest (List.cons_ne_nil c cs) (Delimiters.without_of_cut opened)
  | case2 cs before inside opened closed =>
      obtain ⟨opening, first⟩ := Delimiters.cut_eq_some opened
      exact .ofText opening first (.unclosed opening (Delimiters.without_of_cut closed))
  | case3 cs before inside opened content rest closed ih =>
      obtain ⟨opening, first⟩ := Delimiters.cut_eq_some opened
      exact .ofText opening first (.tag (Delimiters.cut_eq_some closed).2 ih)

theorem CutUp.suffix {front back : List Piece} (h : CutUp d (front ++ back)) : CutUp d back := by
  induction front with
  | nil => exact h
  | cons piece front ih =>
      refine ih ?_
      rw [List.cons_append] at h
      generalize front ++ back = row at h
      cases h with
      | rest | unclosed => exact .nil
      | text _ _ _ others | tag _ others => exact others

/-- The opening delimiter stands only in a text that is last, begins with it and is not closed. -/
theorem CutUp.unclosed_of_infix {cs : List Char} {back : List Piece}
    (h : CutUp d (.text cs :: back)) (opening : d.opening.toList ≠ [])
    (holds : d.opening.toList <:+: cs) :
    back = [] ∧ ∃ inside, cs = d.opening.toList ++ inside ∧
      Delimiters.Without d.closing.toList inside := by
  cases h with
  | rest _ without => exact absurd holds (without.resolve_left opening)
  | unclosed _ without => exact ⟨rfl, _, rfl, without⟩
  | text _ _ first _ => exact absurd holds (first.not_infix opening)

/-! ## Tokens and segments -/

/-- What a segment of a source says of its token. -/
inductive Token.Covers (d : Delimiters) : Token → List Char → Prop
  | text {t : Token} : t.kind = .text → t.value.toList ≠ [] → Covers d t t.value.toList
  | tag {t : Token} {content : List Char} : FirstBehind d.closing.toList content →
      t.value.toList = trimmed content → t.kind.Marks t.value.toList →
        Covers d t (d.opening.toList ++ content ++ d.closing.toList)

/-- A source as it is covered by tokens, each of which has a segment. -/
structure Delimiters.Tiles (d : Delimiters) (source : List Char) (row : List (Token × List Char)) :
    Prop where
  /-- The segments are the source. -/
  whole : row.flatMap Prod.snd = source
  /-- A token is what its segment says. -/
  covers : ∀ entry ∈ row, entry.1.Covers d entry.2
  /-- The end of the source is no token of the row. -/
  noEnd : ∀ entry ∈ row, entry.1.kind ≠ .ending
  /-- A token stands behind the segments before it. -/
  placed : ∀ before entry after, row = before ++ entry :: after →
    entry.1.position = .behind (before.flatMap Prod.snd)
  /-- Before a tag, a text ends where the opening delimiter begins for the first time. -/
  beforeTag : ∀ before text tag after, row = before ++ text :: tag :: after →
    text.1.kind = .text → tag.1.kind ≠ .text → FirstBehind d.opening.toList text.2
  /-- The opening delimiter stands in a text only if no closing one follows, and then it is in front
  of the text, and the text is last. -/
  unclosed : ∀ before text after, row = before ++ text :: after → text.1.kind = .text →
    d.opening.toList ≠ [] → d.opening.toList <:+: text.1.value.toList →
      after = [] ∧ ∃ inside, text.1.value.toList = d.opening.toList ++ inside ∧
        (d.closing.toList = [] ∨ ¬d.closing.toList <:+: inside)

/-- Pieces that begin at a place, as tokens with their segments. -/
def tiled (d : Delimiters) (p : Position) : List Piece → List (Token × List Char)
  | [] => []
  | piece :: rest => (piece.token p, piece.source d) :: tiled d (p.after (piece.source d)) rest

theorem placed_eq (p : Position) (row : List Piece) :
    placed d p row =
      (tiled d p row).map Prod.fst ++ [.endingAt (p.after (row.flatMap (Piece.source d)))] := by
  induction row generalizing p with
  | nil => rfl
  | cons piece rest ih =>
      rw [placed, ih, tiled, List.flatMap_cons, Position.after_append]
      rfl

theorem flatMap_tiled (p : Position) (row : List Piece) :
    (tiled d p row).flatMap Prod.snd = row.flatMap (Piece.source d) := by
  induction row generalizing p with
  | nil => rfl
  | cons piece rest ih => rw [tiled, List.flatMap_cons, ih, List.flatMap_cons]

/-- The part of a row from one of its entries on comes from the pieces from one of them on. -/
theorem tiled_split {p : Position} {row : List Piece} {before after : List (Token × List Char)}
    {entry : Token × List Char} (h : tiled d p row = before ++ entry :: after) :
    ∃ front piece back, row = front ++ piece :: back ∧
      entry = (piece.token (p.after (before.flatMap Prod.snd)), piece.source d) ∧
      after = tiled d (p.after ((before ++ [entry]).flatMap Prod.snd)) back := by
  induction before generalizing p row with
  | nil =>
      cases row with
      | nil => cases h
      | cons piece back =>
          cases h
          exact ⟨[], piece, back, rfl, rfl, by simp⟩
  | cons head before ih =>
      cases row with
      | nil => cases h
      | cons first row =>
          obtain ⟨rfl, others⟩ := List.cons_eq_cons.1 h
          obtain ⟨front, piece, back, rfl, isEntry, isAfter⟩ := ih others
          refine ⟨first :: front, piece, back, rfl, ?_, ?_⟩
          · rw [isEntry, List.flatMap_cons, Position.after_append]
          · rw [isAfter, List.cons_append, List.flatMap_cons, Position.after_append]

theorem CutUp.covers {piece : Piece} {back : List Piece} (h : CutUp d (piece :: back))
    (p : Position) : (piece.token p).Covers d (piece.source d) := by
  cases piece with
  | text cs =>
      have nonempty : cs ≠ [] := by
        cases h with
        | rest nonempty _ | text nonempty _ _ _ => exact nonempty
        | unclosed opening _ => simp [opening]
      have covered : (Piece.token p (.text cs)).Covers d _ := .text rfl (by simpa [Piece.token])
      simpa [Piece.token, Piece.source] using covered
  | tag content =>
      cases h with
      | tag closes _ =>
          refine .tag closes (by simp [Piece.token]) ?_
          simpa [Piece.token] using TokenKind.marks_ofContent (trimmed content)

theorem Piece.token_kind_eq_text {p : Position} {piece : Piece} (h : (piece.token p).kind = .text) :
    ∃ cs, piece = .text cs := by
  cases piece with
  | text cs => exact ⟨cs, rfl⟩
  | tag content => exact absurd h (TokenKind.marks_ofContent (trimmed content)).isTag.1

theorem CutUp.tiles {row : List Piece} (h : CutUp d row) :
    d.Tiles (row.flatMap (Piece.source d)) (tiled d .start row) where
  whole := flatMap_tiled .start row
  covers := by
    intro entry member
    obtain ⟨before, after, split⟩ := List.append_of_mem member
    obtain ⟨front, piece, back, rfl, rfl, -⟩ := tiled_split split
    exact h.suffix.covers _
  noEnd := by
    intro entry member
    obtain ⟨before, after, split⟩ := List.append_of_mem member
    obtain ⟨front, piece, back, rfl, rfl, -⟩ := tiled_split split
    cases piece with
    | text cs => exact nofun
    | tag content => exact (TokenKind.marks_ofContent (trimmed content)).isTag.2
  placed := by
    intro before entry after split
    obtain ⟨front, piece, back, rfl, rfl, -⟩ := tiled_split split
    cases piece <;> exact Position.start_after _
  beforeTag := by
    intro before text tag after split isText isTag
    obtain ⟨front, piece, back, rfl, rfl, isAfter⟩ := tiled_split split
    obtain ⟨cs, rfl⟩ := Piece.token_kind_eq_text isText
    have cut := h.suffix
    cases back with
    | nil => cases isAfter
    | cons next back =>
        cases cut with
        | text _ _ first _ => exact first
  unclosed := by
    intro before text after split isText opening holds
    obtain ⟨front, piece, back, rfl, rfl, isAfter⟩ := tiled_split split
    obtain ⟨cs, rfl⟩ := Piece.token_kind_eq_text isText
    have value (p : Position) : (Piece.token p (.text cs)).value.toList = cs := String.toList_ofList
    rw [value] at holds ⊢
    obtain ⟨rfl, inside, isInside, without⟩ := h.suffix.unclosed_of_infix opening holds
    exact ⟨isAfter, inside, isInside, without⟩

/-- The tokens of a source cover it without a gap, and the end of the source is the one token behind
them. -/
theorem Delimiters.tokens_tile (d : Delimiters) (source : String) :
    ∃ row : List (Token × List Char),
      d.tokens source = row.map Prod.fst ++ [.endingAt (.behind source.toList)] ∧
        d.Tiles source.toList row := by
  refine ⟨tiled d .start (pieces d source.toList), ?_, ?_⟩
  · rw [tokens, placed_eq, pieces_source, Position.start_after]
  · have tiles := (pieces_cutUp d source.toList).tiles
    rwa [pieces_source] at tiles

example : Delimiters.braces.tokens "a\x7b\x7bb" =
    [⟨.text, "a", ⟨1, 1⟩⟩, ⟨.text, "\x7b\x7bb", ⟨1, 2⟩⟩, ⟨.ending, "", ⟨1, 5⟩⟩] := by
  cbv

end Stencil
