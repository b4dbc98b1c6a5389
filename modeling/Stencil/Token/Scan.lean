import Stencil.Text.Blank
import Stencil.Text.Find
import Stencil.Token.Basic

/-!
# From source to tokens

A source is cut into pieces: texts, and tags that an opening delimiter and the first closing
delimiter after it bound. A tag without an end is text together with all that follows. Tokens are
the pieces with the places where they begin.

* `pieces_source`: the pieces are the source, nothing lost and nothing added.
-/

namespace Stencil

open Stencil.Text

/-- What bounds a tag. Without an opening delimiter there are no tags, without a closing one no tag
ends. -/
structure Delimiters where
  opening : String
  closing : String
deriving DecidableEq, Repr

namespace Delimiters

/-- Two braces. -/
def braces : Delimiters := ⟨"\x7b\x7b", "\x7d\x7d"⟩

/-- The text before and after the first delimiter, if the delimiter is not empty. -/
def cut (delimiter : List Char) (cs : List Char) : Option (List Char × List Char) :=
  if delimiter.isEmpty then none else cutAt delimiter cs

/-- A cut takes at least one character away. -/
theorem length_of_cut {delimiter cs before after : List Char}
    (h : cut delimiter cs = some (before, after)) : after.length < cs.length := by
  unfold cut at h
  split at h
  · simp at h
  · rename_i nonempty
    have whole := cutAt_sound h
    have : 0 < delimiter.length := by
      cases delimiter with
      | nil => simp at nonempty
      | cons _ _ => simp
    rw [← whole]
    simp only [List.length_append]
    omega

theorem cut_sound {delimiter cs before after : List Char}
    (h : cut delimiter cs = some (before, after)) : before ++ delimiter ++ after = cs := by
  unfold cut at h
  split at h
  · simp at h
  · exact cutAt_sound h

end Delimiters

/-- A part of a source: a text, or the content of a tag as it stands between the delimiters. -/
inductive Piece where
  | text (cs : List Char)
  | tag (content : List Char)
deriving DecidableEq, Repr

namespace Piece

/-- The characters of the source that the piece covers. -/
def source (d : Delimiters) : Piece → List Char
  | text cs => cs
  | tag content => d.opening.toList ++ content ++ d.closing.toList

/-- The token of a piece that begins at a place. -/
def token (p : Position) : Piece → Token
  | text cs => ⟨.text, String.ofList cs, p⟩
  | tag content =>
      let value := trimmed content
      ⟨TokenKind.ofContent value, String.ofList value, p⟩

/-- A text, unless it is empty. -/
def ofText (cs : List Char) : List Piece := if cs.isEmpty then [] else [text cs]

end Piece

/-- Cuts a source into texts and tags. -/
def pieces (d : Delimiters) (cs : List Char) : List Piece :=
  match _opened : Delimiters.cut d.opening.toList cs with
  | none => Piece.ofText cs
  | some (before, inside) =>
      match _closed : Delimiters.cut d.closing.toList inside with
      | none => Piece.ofText before ++ [.text (d.opening.toList ++ inside)]
      | some (content, rest) => Piece.ofText before ++ .tag content :: pieces d rest
termination_by cs.length
decreasing_by
  have := Delimiters.length_of_cut _opened
  have := Delimiters.length_of_cut _closed
  omega

/-- The tokens of pieces that begin at a place, with the end of the source last. -/
def placed (d : Delimiters) (p : Position) : List Piece → List Token
  | [] => [.endingAt p]
  | piece :: rest => piece.token p :: placed d (p.after (piece.source d)) rest

/-- The tokens of a source. -/
def Delimiters.tokens (d : Delimiters) (source : String) : List Token :=
  placed d .start (pieces d source.toList)

theorem Piece.source_ofText (d : Delimiters) (cs : List Char) :
    (Piece.ofText cs).flatMap (Piece.source d) = cs := by
  cases cs <;> simp [Piece.ofText, Piece.source]

theorem pieces_source (d : Delimiters) (cs : List Char) :
    (pieces d cs).flatMap (Piece.source d) = cs := by
  fun_induction pieces d cs with
  | case1 cs opened => exact Piece.source_ofText d cs
  | case2 cs before inside opened closed =>
      have whole := Delimiters.cut_sound opened
      simp [Piece.source_ofText, Piece.source, ← whole]
  | case3 cs before inside opened content rest closed ih =>
      have outer := Delimiters.cut_sound opened
      have inner := Delimiters.cut_sound closed
      simp [Piece.source_ofText, Piece.source, ih, ← outer, ← inner]

example : Delimiters.braces.tokens "a\n\x7b\x7b @if x \x7d\x7d" =
    [⟨.text, "a\n", ⟨1, 1⟩⟩, ⟨.directive, "@if x", ⟨2, 1⟩⟩, ⟨.ending, "", ⟨2, 12⟩⟩] := by cbv

end Stencil
